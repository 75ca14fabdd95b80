import ScriptProxy.Script.Access

/-!
# The library: making values

What the functions do that make values, when they are called like any other function.
-/

namespace ScriptProxy.Script

open Evaluation

/-- The text of a function with the given parameters and body. -/
def functionText (parameters : List String) (body : String) : String :=
  "(function anonymous(" ++ ",".intercalate parameters ++ "\n) \x7b\n" ++ body ++ "\n\x7d)"

/-- What a function does that makes values. -/
def Constructor.run (e : Evaluator) (c : Constructor) (vs : List Value) : Evaluation Value := do
  match c with
  | object =>
    match (vs.getD 0 .undefined).present? with
    | some v => toObject v
    | none => makeObject []
  | function =>
    let texts ← vs.mapM e.text
    e.run (functionText texts.dropLast (texts.getLast?.getD ""))
  | error k =>
    match vs.getD 0 .undefined with
    | .undefined => makeError k none
    | v => makeError k (← e.text v)
  | array =>
    match vs with
    | [.number n] => add ((Object.ofElements Base.array.place #[]).setLength
        (← e.arrayLength (.number n)))
    | vs => makeArray vs
  | number =>
    match vs with
    | [] => return .ofNat 0
    | v :: _ => .number <$> e.number v
  | bool => return .bool (vs.getD 0 .undefined).holds
  | string =>
    match vs with
    | [] => return .string ""
    | v :: _ => .string <$> e.text v
  | other => raiseType "must be called with new"

end ScriptProxy.Script
