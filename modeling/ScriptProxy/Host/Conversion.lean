import ScriptProxy.Exchange.Value
import ScriptProxy.Script.Evaluation

/-!
# Values on their way into a script

`enter` makes a value of the engine of a value from outside. Arrays are copied element by element,
and a number that is an integer of 32 bits arrives as one. A handle becomes its object, or
`undefined` if the object's page is gone.
-/

namespace ScriptProxy.Host

open Exchange (HandleTable)

mutual
/-- A value from outside as a value of the engine. -/
def enter (t : HandleTable Nat) : Exchange.Value → Script.Evaluation Script.Value
  | .undefined => return .undefined
  | .null => return .null
  | .bool b => return .bool b
  | .int n => return .number (.int n)
  | .double d => return .number (.ofDouble d)
  | .string s => return .string s
  | .textLike s => return .string s
  | .array vs => do Script.Evaluation.makeArray (← enterAll t vs)
  | .object h => return match t.get? h with
    | some place => .object place
    | none => .undefined

def enterAll (t : HandleTable Nat) : List Exchange.Value → Script.Evaluation (List Script.Value)
  | [] => return []
  | v :: vs => do return (← enter t v) :: (← enterAll t vs)
end

/-- The way out for a number. -/
def leaveNumber : Script.Number → Exchange.Value
  | .int n => .int n
  | .double d => .double d

end ScriptProxy.Host
