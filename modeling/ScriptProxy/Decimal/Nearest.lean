import ScriptProxy.Decimal.Shortest

/-!
# The floating-point word nearest to a fraction

`BinaryFormat.nearest` rounds a quotient of natural numbers to the nearest number of a format, with
ties to the even one. All of it is exact arithmetic on natural numbers.
-/

namespace ScriptProxy.Decimal

/-- The greatest `e` with `2 ^ e ≤ num / den`. -/
def quotientLog2 (num den : Nat) : Int :=
  let e : Int := (num.log2 : Int) - den.log2
  if num <<< (-e).toNat < den <<< e.toNat then e - 1 else e

/-- The quotient, rounded to the nearest natural number and in a tie to the even one. -/
def roundedQuotient (num den : Nat) : Nat :=
  let rest := num % den
  if den < 2 * rest ∨ (2 * rest = den ∧ num / den % 2 = 1) then num / den + 1 else num / den

namespace BinaryFormat

variable (f : BinaryFormat)

/-- The exponent of the last place of the smallest numbers. -/
def leastExponent : Int := 2 - ((1 <<< (f.exponentBits - 1) + f.fractionBits : Nat) : Int)

/-- The word of the positive infinity. -/
def infinity : Nat := (1 <<< f.exponentBits - 1) <<< f.fractionBits

/-- The word of the number nearest to `num / den`. The significand is counted in last places, and
one that has reached the next power of two carries into the exponent by itself. -/
def nearest (num den : Nat) : Nat :=
  if num = 0 then 0
  else
    let q := max (quotientLog2 num den - f.fractionBits) f.leastExponent
    let significand := roundedQuotient (num <<< (-q).toNat) (den <<< q.toNat)
    min ((q - f.leastExponent).toNat <<< f.fractionBits + significand) f.infinity

theorem nearest_le_infinity (num den : Nat) : f.nearest num den ≤ f.infinity := by
  unfold nearest
  split
  · exact Nat.zero_le _
  · exact Nat.min_le_right ..

end BinaryFormat

end ScriptProxy.Decimal
