/-!
# The fewest decimal digits that read back

A finite binary floating-point number is `m · 2 ^ q` together with the interval of reals that round
to it. `shortest` gives a point of the coarsest decimal grid on which a point that may stand for the
number lies in the interval. A `Candidates` says which points may stand for it.

The search is exact: every comparison is between natural numbers, after both sides have been
brought to a common denominator.
-/

namespace ScriptProxy.Decimal

/-- The widths of the two fields below the sign bit of a binary floating-point word. -/
structure BinaryFormat where
  fractionBits : Nat
  exponentBits : Nat

def BinaryFormat.single : BinaryFormat := ⟨23, 8⟩

def BinaryFormat.double : BinaryFormat := ⟨52, 11⟩

/-- A positive binary number `significand · 2 ^ exponent`. `narrowBelow` says that its lower
neighbour is only half as far away as its upper one, as just above a power of two. -/
structure Binary where
  significand : Nat
  exponent : Int
  narrowBelow : Bool

/-- Which points of a grid may stand for a number that lies between two of them. -/
inductive Candidates where
  /-- Both, and the nearer one if both read back; the larger one if they are equally near. -/
  | neighbours
  /-- Only the number rounded to the grid, and the even one if both are equally near. -/
  | rounded
  deriving DecidableEq, Repr

/-- What the bits below the sign bit of a word stand for. -/
inductive Magnitude where
  | zero
  | finite (b : Binary)
  | infinite
  | notANumber

namespace BinaryFormat

variable (f : BinaryFormat)

/-- Whether the sign bit is set. -/
def isNegative (bits : Nat) : Bool :=
  bits >>> (f.fractionBits + f.exponentBits) % 2 == 1

def magnitude (bits : Nat) : Magnitude :=
  let fraction := bits % 1 <<< f.fractionBits
  let biased := bits >>> f.fractionBits % 1 <<< f.exponentBits
  let scale : Int := ((1 <<< (f.exponentBits - 1) + f.fractionBits : Nat) : Int) - 1
  if biased + 1 = 1 <<< f.exponentBits then
    if fraction = 0 then .infinite else .notANumber
  else if biased = 0 then
    if fraction = 0 then .zero else .finite ⟨fraction, 1 - scale, false⟩
  else .finite ⟨1 <<< f.fractionBits + fraction, biased - scale, fraction = 0 && biased > 1⟩

end BinaryFormat

/-- The positive number `digits · 10 ^ exponent`. -/
structure Numeral where
  digits : Nat
  exponent : Int
  deriving DecidableEq, Repr

/-- The number of digits of the decimal numeral of `n`. -/
def digitCount (n : Nat) : Nat := (Nat.toDigits 10 n).length

/-- Divides trailing zeros out of the digits. At most `fuel` of them are removed. -/
def Numeral.trim : Nat → Numeral → Numeral
  | 0, d => d
  | fuel + 1, d =>
    if d.digits ≠ 0 ∧ d.digits % 10 = 0 then Numeral.trim fuel ⟨d.digits / 10, d.exponent + 1⟩
    else d

namespace Binary

variable (b : Binary)

/-- `num / den` is a quarter of the number's last place. -/
def quarter : Nat × Nat :=
  let q := b.exponent - 2
  (1 <<< q.toNat, 1 <<< (-q).toNat)

/-- The least `k` with `b < 10 ^ k`. -/
def pointPosition : Int :=
  let (num, den) := b.quarter
  let num := 4 * b.significand * num
  if den ≤ num then digitCount (num / den)
  else 1 - (digitCount ((den + num - 1) / num - 1) : Int)

/-- The point of the grid `10 ^ g` that stands for `b` and reads back as it, if there is one. -/
def onGrid? (c : Candidates) (g : Int) : Option Nat :=
  let (num, den) := b.quarter
  -- `x` quarters of the last place are `x * place`, and `d` grid steps are `d * step`
  let place := num * Nat.pow 10 (-g).toNat
  let step := den * Nat.pow 10 g.toNat
  let value := 4 * b.significand * place
  let low := (4 * b.significand - if b.narrowBelow then 1 else 2) * place
  let high := (4 * b.significand + 2) * place
  let closed := b.significand % 2 = 0
  let readsBack (d : Nat) : Bool :=
    d ≠ 0 &&
      if closed then low ≤ d * step && d * step ≤ high else low < d * step && d * step < high
  let d := value / step
  let up := (d + 1) * step - value
  let down := value - d * step
  match c with
  | .neighbours =>
    if readsBack (d + 1) && (up ≤ down || !readsBack d) then some (d + 1)
    else if readsBack d then some d
    else none
  | .rounded =>
    let d := if up < down ∨ up = down ∧ d % 2 = 1 then d + 1 else d
    if readsBack d then some d else none

/-- Tries grids of `count`, `count + 1`, … digits, `fuel` of them. -/
def shortestFrom (c : Candidates) : Nat → Nat → Numeral
  | 0, _ => ⟨0, 0⟩
  | fuel + 1, count =>
    let g := b.pointPosition - count
    match b.onGrid? c g with
    | some d => Numeral.trim 20 ⟨d, g⟩
    | none => shortestFrom c fuel (count + 1)

/-- The shortest decimal that reads back. Seventeen digits suffice for the formats above. -/
def shortest (c : Candidates) : Numeral := b.shortestFrom c 17 1

end Binary

end ScriptProxy.Decimal
