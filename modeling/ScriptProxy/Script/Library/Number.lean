import ScriptProxy.Script.Access
import ScriptProxy.Script.Mathematics

/-!
# The library: numbers

The functions of mathematics, those that read numbers from texts, and the methods of the objects
that stand for numbers, truth values and texts.
-/

namespace ScriptProxy.Script

open Evaluation

namespace Number

/-- The number that a combination of numbers gives for all arguments, or `none` for no argument. -/
def combined (f : Number → Number → Number) (none : Number) : List Number → Number
  | [] => none
  | n :: ns => ns.foldl f n

/-- The integer at the beginning of a text, in a base that is given or marked. -/
def ofTextStart (s : String) (base : Int) : Number :=
  let cs := s.toList.dropWhile Text.isScriptBlank
  let (negative, cs) := match cs with
    | '-' :: cs => (true, cs)
    | '+' :: cs => (false, cs)
    | cs => (false, cs)
  let (marked, cs) := match cs with
    | '0' :: x :: rest => if (x = 'x' ∨ x = 'X') ∧ (base = 0 ∨ base = 16) then (true, rest)
      else (false, '0' :: x :: rest)
    | cs => (false, cs)
  let base := if marked then 16 else if base = 0 then 10 else base
  if base < 2 ∨ 36 < base then double .nan
  else
    let digits := cs.takeWhile (isDigitOf base.toNat)
    if digits.isEmpty then double .nan
    else if negative then .ofFloat (-(ofDigits base.toNat digits).toFloat)
    else ofDigits base.toNat digits

/-- The decimal number at the beginning of a text. -/
def ofDecimalStart (s : String) : Number :=
  let cs := s.toList.dropWhile Text.isScriptBlank
  let read (cs : List Char) : Number :=
    if "Infinity".toList.isPrefixOf cs then double .infinity
    else match readDecimal? cs with
      | some (n, _) => n
      | none => double .nan
  match cs with
  | '-' :: cs => .ofFloat (-(read cs).toFloat)
  | '+' :: cs => read cs
  | cs => read cs

end Number

/-- What a function of mathematics does. -/
def Mathematical.run (e : Evaluator) (f : Mathematical) (vs : List Value) : Evaluation Value := do
  let first := vs.getD 0 .undefined
  let second := vs.getD 1 .undefined
  match f with
  | max =>
    return .number (.combined .larger (.double ⟨0xFFF0000000000000⟩) (← vs.mapM e.number))
  | min => return .number (.combined .smaller (.double .infinity) (← vs.mapM e.number))
  | unary f => return .number (.ofFloat (f (← e.number first).toFloat))
  | binary f =>
    let x := (← e.number first).toFloat
    return .number (.ofFloat (f x (← e.number second).toFloat))
  | imul =>
    let x ← e.number first
    return .number (x.wordProduct (← e.number second))
  | clz => return .ofNat (← e.number first).leadingZeros
  | hypotenuse =>
    let xs ← vs.mapM e.number
    let xs := xs.map (·.toFloat)
    if xs.any (·.isInf) then return .number (.double .infinity)
    match xs with
    | [x] => return .number (.ofFloat x.abs)
    | xs => return .number (.ofFloat (xs.foldl (fun s x => s + x * x) 0).sqrt)

/-- What a function that stands for itself does. -/
def GlobalFunction.run (e : Evaluator) (f : GlobalFunction) (vs : List Value) :
    Evaluation Value := do
  let first := vs.getD 0 .undefined
  match f with
  | evaluate =>
    match first with
    | .string s => e.run s
    | v => return v
  | isNaN => return .bool (← e.number first).toDouble.isNaN
  | isFinite => return .bool (← e.number first).toDouble.isFinite
  | parseInt =>
    let s ← e.text first
    return .number (.ofTextStart s (← e.number (vs.getD 1 .undefined)).toWord.toInt32.toInt)
  | parseFloat => return .number (.ofDecimalStart (← e.text first))

/-- What a method of the objects that stand for primitive values does. -/
def BoxMethod.run (f : BoxMethod) (self : Value) : Evaluation Value := do
  let v := match (← get).kind? self with
    | some (.boxed v) => v
    | _ => self
  match f, v with
  | numberText, .number _ | boolText, .bool _ | stringText, .string _ =>
    return .string v.primitiveText
  | numberValue, .number _ | boolValue, .bool _ | stringValue, .string _ => return v
  | numberText, _ | numberValue, _ => raiseType "not a number"
  | boolText, _ | boolValue, _ => raiseType "not a boolean"
  | stringText, _ | stringValue, _ => raiseType "not a string"

end ScriptProxy.Script
