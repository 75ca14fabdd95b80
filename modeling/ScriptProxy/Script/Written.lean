import ScriptProxy.Script.Access

/-!
# Values in writing

`written?` writes a value the way a script could read it again, if it can be written at all: a
function cannot, and neither can `undefined`. An object that has a method for the purpose is written
as what the method gives.
-/

namespace ScriptProxy.Script

/-- A character between the quotes of a written text. -/
def quotedCharacter (c : Char) : List Char :=
  if c = '"' then ['\\', '"']
  else if c = '\\' then ['\\', '\\']
  else if c = '\x08' then ['\\', 'b']
  else if c = '\x0c' then ['\\', 'f']
  else if c = '\n' then ['\\', 'n']
  else if c = '\r' then ['\\', 'r']
  else if c = '\t' then ['\\', 't']
  else if c.toNat < 0x20 then
    let digits := Nat.toDigits 16 c.toNat
    ['\\', 'u'] ++ List.replicate (4 - digits.length) '0' ++ digits
  else [c]

/-- A written text. -/
def quotedText (s : String) : String :=
  String.ofList ('"' :: s.toList.flatMap quotedCharacter ++ ['"'])

/-- A written number. What is not finite is written as if it were missing. -/
def Number.writtenText (n : Number) : String := if n.toDouble.isFinite then n.text else "null"

/-- The names of those properties of a value that are listed. -/
def Realm.listedNames (r : Realm) (v : Value) : List String :=
  match r.objectOf? v with
  | some o => o.names.filter fun name => (o.own? name).any (·.listed)
  | none => []

namespace Evaluator

open Evaluation

variable (e : Evaluator)

/-- What is written in place of a value that stands under a key, if it can be written. -/
def standIn? (key : String) (v : Value) : Evaluation (Option Value) := do
  let v ← do
    if !v.isObject then pure v
    else
      let f ← e.read v "toJSON"
      if (← get).isFunction f then e.call f v [.string key] else pure v
  return if v = .undefined || (← get).isFunction v then none else some v

/-- The written form of a value that can be written, and stands within the given objects. -/
def writtenWithin : (fuel : Nat) → (around : List Value) → Value → Evaluation String
  | 0, _, _ => tooDeep
  | fuel + 1, around, v => do
    match v, (← get).kind? v with
    | .number n, _ => return n.writtenText
    | .string s, _ => return quotedText s
    | v, none => return v.primitiveText
    | v, some (.boxed (.string _)) => return quotedText (← e.text v)
    | v, some (.boxed (.number _)) => return (← e.number v).writtenText
    | _, some (.boxed w) => return w.primitiveText
    | v, some k =>
      if around.contains v then raiseType "circular reference"
      else match k with
        | .array =>
          let texts ← (List.range (← e.lengthOf v)).mapM fun i => do
            match ← e.standIn? (toString i) (← e.element v i) with
            | some w => writtenWithin fuel (v :: around) w
            | none => return "null"
          return "[" ++ ",".intercalate texts ++ "]"
        | _ =>
          let texts ← ((← get).listedNames v).filterMapM fun name => do
            match ← e.standIn? name (← e.read v name) with
            | some w =>
              return some (quotedText name ++ ":" ++ (← writtenWithin fuel (v :: around) w))
            | none => return none
          return "\x7b" ++ ",".intercalate texts ++ "\x7d"

/-- How deep a value can be and still be written. -/
def writtenDepth : Nat := 1000

/-- A value in written form, if it has one. -/
def written? (v : Value) : Evaluation (Option String) := do
  match ← e.standIn? "" v with
  | some w => some <$> e.writtenWithin writtenDepth [] w
  | none => return none

/-- How a value is printed: a text as it is, and any other value in written form if that can be
had. -/
def printed (v : Value) : Evaluation String := do
  match v with
  | .string s => return s
  | v =>
    try
      match ← e.written? v with
      | some s => return s
      | none => e.text v
    catch _ => e.text v

end Evaluator

end ScriptProxy.Script
