import ScriptProxy.Script.Access

/-!
# The library: functions and errors

The methods of functions call them in other ways and give their text. Errors have one method, which
gives their name and message as a text.
-/

namespace ScriptProxy.Script

open Evaluation

/-- How many arguments a function can be called with. -/
def mostArguments : Nat := 65535

/-- The elements of an object as arguments. -/
def Evaluator.argumentsOf (e : Evaluator) (v : Value) : Evaluation (List Value) := do
  if !v.isObject then raiseType "not a object"
  let n ← e.lengthOf v
  if mostArguments < n then
    raise .range s!"too many arguments in function call (only {mostArguments} allowed)"
  e.elements v n

/-- How many more arguments a function takes that has its first ones. -/
def remaining (length : Number) (given : Nat) : Number :=
  match length with
  | .int n => .int (.ofInt (max 0 (n.toInt - given)))
  | .double d =>
    if d.isFinite then .ofInt (max 0 (d.toInteger - given))
    else if d = .infinity then .double d
    else .int 0

/-- A function that calls another with a given `this` and first arguments. -/
def Evaluator.bound (e : Evaluator) (f self : Value) (first : List Value) : Evaluation Value := do
  let f ← Evaluation.function f
  let length ← if ((← get).own? f "length").isSome then e.read f "length" else pure .undefined
  let length := match length with
    | .number n => remaining n first.length
    | _ => .int 0
  let name := match ← e.read f "name" with
    | .string s => s
    | _ => ""
  add (.ofProperties (.bound f self first) ((← get).behind? f)
    [("length", .constant (.number length)), ("name", .constant (.string ("bound " ++ name)))])

/-- The text of a function of the engine. Those that print are written in the language. -/
def printText (wanted : Bool) : String :=
  if wanted then "function () \x7b native(n, text(arguments)); \x7d" else "function () \x7b\x7d"

/-- What a method of functions does. -/
def FunctionMethod.run (e : Evaluator) (f : FunctionMethod) (self : Value) (vs : List Value) :
    Evaluation Value := do
  let first := vs.getD 0 .undefined
  match f with
  | call => e.call self first vs.tail
  | spread =>
    let f ← Evaluation.function self
    match vs.getD 1 .undefined with
    | .undefined | .null => e.call f first []
    | v => e.call f first (← e.argumentsOf v)
  | bind => e.bound self first vs.tail
  | text =>
    let f ← Evaluation.function self
    match (← get).kind? f with
    | some (.closure c) => return .string c.source
    | some (.native (.print _ wanted)) => return .string (printText wanted)
    | _ =>
      let name ← match ← e.read f "name" with
        | .undefined => pure ""
        | v => e.text v
      return .string ("function " ++ name ++ "() \x7b\n    [native code]\n\x7d")
  | nothing => return .undefined
  | refuse => raiseType "invalid property access"

/-- What a method of errors does. -/
def ErrorMethod.run (e : Evaluator) (f : ErrorMethod) (self : Value) : Evaluation Value := do
  match f with
  | text =>
    if !self.isObject then raiseType "not an object"
    let name ← match ← e.read self "name" with
      | .undefined => pure "Error"
      | v => e.text v
    let message ← match ← e.read self "message" with
      | .undefined => pure ""
      | v => e.text v
    return .string (if name = "" then message else if message = "" then name
      else name ++ ": " ++ message)

end ScriptProxy.Script
