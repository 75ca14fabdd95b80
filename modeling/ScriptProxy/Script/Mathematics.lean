import ScriptProxy.Script.Number

/-!
# Functions of mathematics

Those functions on numbers that scripts have and that floats do not come with.
-/

namespace ScriptProxy.Script.Number

/-- The nearest integer between a number and zero. -/
def truncated (x : Float) : Float := if x < 0 then x.ceil else x.floor

/-- The nearest integer, and the larger one of two. -/
def rounded (x : Float) : Float :=
  let below := x.floor
  if x - below < 0.5 then below else if x < 0 && below == -1 then -0.0 else below + 1

/-- Whether a number is positive, negative, or neither. -/
def signOf (x : Float) : Float := if 0 < x then 1 else if x < 0 then -1 else x

/-- The exponential of a number without one, so that it is exact near zero. -/
def exponentialLessOne (x : Float) : Float :=
  let u := x.exp
  if u == 1 then x else if u - 1 == -1 then -1 else if u.isInf then u else (u - 1) * x / u.log

/-- The logarithm of a number with one added, so that it is exact near zero. -/
def logarithmOfOneMore (x : Float) : Float :=
  let u := 1 + x
  if u == 1 then x else if u.isInf then u else u.log * x / (u - 1)

/-- A power. It is no number where one is raised to what has no limit. -/
def power (x y : Float) : Float :=
  if y.isNaN || ((x == 1 || x == -1) && y.isInf) then 0 / 0 else x.pow y

/-- How many of 32 bits are zero before the first that is one. -/
def leadingZeros (x : Number) : Nat :=
  let w := x.toWord.toNat
  if w = 0 then 32 else 31 - w.log2

/-- The low 32 bits of a product. -/
def wordProduct (x y : Number) : Number := .int (x.toWord * y.toWord).toInt32

end ScriptProxy.Script.Number
