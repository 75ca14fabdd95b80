import ScriptProxy.Decimal.Layout
import ScriptProxy.Decimal.Nearest

/-!
# Double-precision numbers

A floating-point number of 64 bits as the word that stands for it. `ofInt` and `toInt?` go between
these and the integers of 32 bits: `ofInt_of_toInt?` says that an integer is found only where it
stands for the very same word, so that a negative zero is not an integer.
-/

namespace ScriptProxy

open Decimal (BinaryFormat Magnitude Layout digitCount)

/-- A double-precision number. -/
structure Double where
  bits : UInt64
  deriving DecidableEq, Repr

namespace Double

def nan : Double := ⟨0x7FF8000000000000⟩

def infinity : Double := ⟨0x7FF0000000000000⟩

def negativeZero : Double := ⟨0x8000000000000000⟩

def magnitude (d : Double) : Magnitude := BinaryFormat.double.magnitude d.bits.toNat

def isNegative (d : Double) : Bool := BinaryFormat.double.isNegative d.bits.toNat

def isNaN (d : Double) : Bool :=
  match d.magnitude with
  | .notANumber => true
  | _ => false

def isZero (d : Double) : Bool :=
  match d.magnitude with
  | .zero => true
  | _ => false

def isFinite (d : Double) : Bool :=
  match d.magnitude with
  | .zero | .finite _ => true
  | _ => false

/-- Equality of numbers: the two zeros are equal, and what is not a number equals nothing. -/
def same (a b : Double) : Bool := !a.isNaN && !b.isNaN && (a == b || (a.isZero && b.isZero))

/-- The double that equals an integer. -/
def ofInt (n : Int32) : Double :=
  let size := n.toInt.natAbs
  if size = 0 then ⟨0⟩
  else
    let sign := if n < 0 then 0x8000000000000000 else 0
    let exponent := size.log2 + 1023
    let fraction := size <<< (52 - size.log2) - 1 <<< 52
    ⟨UInt64.ofNat (sign + exponent <<< 52 + fraction)⟩

/-- The double nearest to an integer. -/
def ofInteger (n : Int) : Double :=
  let sign := if n < 0 then 0x8000000000000000 else 0
  ⟨UInt64.ofNat (sign + BinaryFormat.double.nearest n.natAbs 1)⟩

/-- The integer between a number and zero that is nearest to the number. What is infinite is beyond
all finite numbers. -/
def toInteger (d : Double) : Int :=
  let size : Nat := match d.magnitude with
    | .zero | .notANumber => 0
    | .infinite => 1 <<< 1024
    | .finite b =>
      if b.exponent < 0 then b.significand >>> (-b.exponent).toNat
      else b.significand <<< b.exponent.toNat
  if d.isNegative then -size else size

/-- The integer between a number and zero that is nearest to the number, or the nearest one that
fits. -/
def truncated (d : Double) : Int32 :=
  .ofInt (max (-0x80000000) (min 0x7fffffff d.toInteger))

/-- The integer that a number is. -/
def toInt? (d : Double) : Option Int32 := if ofInt d.truncated = d then some d.truncated else none

theorem ofInt_of_toInt? {d : Double} {n : Int32} (h : d.toInt? = some n) : ofInt n = d := by
  unfold toInt? at h
  split at h <;> cases h
  assumption

/-- The number without an exponent. -/
def describe (d : Double) : String := Layout.plain.render BinaryFormat.double d.bits.toNat

/-- The number as a script writes it. -/
def scriptText (d : Double) : String := Layout.script.render BinaryFormat.double d.bits.toNat

def ofFloat (x : Float) : Double := ⟨x.toBits⟩

def toFloat (d : Double) : Float := .ofBits d.bits

/-- The number nearest to `digits · 10 ^ exponent`. It is not computed where that is far below or
above all numbers, so that an exponent may be of any size. -/
def ofDecimal (digits : Nat) (exponent : Int) : Double :=
  if digits = 0 ∨ digitCount digits + exponent < -330 then ⟨0⟩
  else if 330 < exponent then infinity
  else
    ⟨.ofNat (BinaryFormat.double.nearest (digits * Nat.pow 10 exponent.toNat)
      (Nat.pow 10 (-exponent).toNat))⟩

end Double

end ScriptProxy
