import Mathlib.Algebra.Group.Nat.Defs
import ScriptProxy.Proofs.Outcome
import ScriptProxy.Script.Run

/-!
# The length and the elements of a new array

The length of an array is a number of scripts. As long as it has at most 53 bits, the number gives the
length back, although it may be too large for an integer of the engine and is a double then:
`toInteger_ofInt`. So an array that has just been made is as long as the list it was made of, and has its
values for elements.
-/

namespace ScriptProxy

open Decimal (BinaryFormat)

namespace Decimal

/-- A whole number whose significand is moved up to 53 bits is rounded to itself. -/
theorem nearest_of_shifted {n s : Nat} (hs : s ≤ 52) (hlow : 2 ^ 52 ≤ n * 2 ^ s)
    (hhigh : n * 2 ^ s < 2 ^ 53) :
    BinaryFormat.double.nearest n 1 = (1074 - s) * 2 ^ 52 + n * 2 ^ s := by
  have hbelow : (1074 - s) * 2 ^ 52 + n * 2 ^ s ≤ 2047 * 2 ^ 52 := by omega
  have hpositive : 0 < 2 ^ s := Nat.two_pow_pos s
  have hleast : 2 ^ (52 - s) ≤ n :=
    Nat.le_of_mul_le_mul_right (Nat.pow_sub_mul_pow 2 hs ▸ hlow) hpositive
  have hlog : n.log2 = 52 - s := by
    refine (Nat.log2_eq_iff (by rintro rfl; simp at hlow)).2 ⟨hleast, ?_⟩
    refine Nat.lt_of_mul_lt_mul_right (lt_of_lt_of_eq hhigh (?_ : _ = _ * 2 ^ s))
    rw [← Nat.pow_add]
    congr 1
    omega
  have hquotient : quotientLog2 n 1 = ((52 - s : Nat) : Int) := by
    have hone : Nat.log2 1 = 0 := by decide
    have hup : (-((52 - s : Nat) : Int)).toNat = 0 := by omega
    have hshift : ¬ n <<< (-((52 - s : Nat) : Int)).toNat < 1 <<< ((52 - s : Nat) : Int).toNat := by
      rw [hup, Int.toNat_natCast, Nat.shiftLeft_eq, Nat.shiftLeft_eq, Nat.pow_zero, Nat.mul_one,
        Nat.one_mul]
      exact Nat.not_lt.2 hleast
    simp only [quotientLog2, hlog, hone, Int.natCast_zero, Int.sub_zero]
    exact if_neg hshift
  have hrounded : roundedQuotient (n * 2 ^ s) 1 = n * 2 ^ s := by
    simp [roundedQuotient, Nat.mod_one]
  have hnonzero : n ≠ 0 := by
    rintro rfl
    simp at hlow
  have hmax : max (((52 - s : Nat) : Int) - 52) (-1074) = -s := by omega
  unfold BinaryFormat.nearest
  rw [if_neg hnonzero, hquotient]
  have hleast : BinaryFormat.double.leastExponent = -1074 := by decide
  have hinfinity : BinaryFormat.double.infinity = 2047 * 2 ^ 52 := by decide
  have hbits : (BinaryFormat.double.fractionBits : Int) = 52 := rfl
  simp only [hleast, hinfinity, hbits, hmax]
  have hplaces : (-(-s : Int)).toNat = s := by omega
  have hnone : (-s : Int).toNat = 0 := by omega
  have hfield : (-s - -1074 : Int).toNat = 1074 - s := by omega
  have hbits : BinaryFormat.double.fractionBits = 52 := rfl
  rw [hplaces, hnone, hfield, hbits, Nat.shiftLeft_eq, Nat.shiftLeft_eq, Nat.shiftLeft_eq,
    Nat.pow_zero, Nat.mul_one, hrounded, Nat.min_eq_left hbelow]

end Decimal

namespace Double

theorem magnitude_ofInteger {n s : Nat} (hs : s ≤ 52) (hlow : 2 ^ 52 ≤ n * 2 ^ s)
    (hhigh : n * 2 ^ s < 2 ^ 53) :
    (ofInteger n).isNegative = false ∧
      ∃ narrow, (ofInteger n).magnitude = .finite ⟨n * 2 ^ s, -s, narrow⟩ := by
  have hword : (ofInteger n).bits.toNat = (1074 - s) * 2 ^ 52 + n * 2 ^ s := by
    have hsign : ¬ (n : Int) < 0 := by omega
    rw [ofInteger, if_neg hsign, Int.natAbs_natCast, Decimal.nearest_of_shifted hs hlow hhigh,
      UInt64.toNat_ofNat', Nat.mod_eq_of_lt (by omega), Nat.zero_add]
  generalize n * 2 ^ s = m at *
  have hfraction : ((1074 - s) * 2 ^ 52 + m) % 2 ^ 52 = m - 2 ^ 52 := by omega
  have hbiased : ((1074 - s) * 2 ^ 52 + m) / 2 ^ 52 % 2 ^ 11 = 1075 - s := by omega
  have hsignificand : 2 ^ 52 + (m - 2 ^ 52) = m := by omega
  have htop : ((1074 - s) * 2 ^ 52 + m) / 2 ^ 63 % 2 = 0 := by omega
  have hexponent : ((1075 - s : Nat) : Int) - ((2 ^ 10 + 52 : Nat) - 1) = -s := by omega
  constructor
  · rw [isNegative, hword]
    simp only [BinaryFormat.isNegative, BinaryFormat.double, Nat.shiftRight_eq_div_pow, htop]
    rfl
  · rw [magnitude, hword]
    refine ⟨m - 2 ^ 52 = 0 && (1075 - s : Nat) > 1, ?_⟩
    simp only [BinaryFormat.magnitude, BinaryFormat.double, Nat.shiftLeft_eq,
      Nat.shiftRight_eq_div_pow, Nat.one_mul, hfraction, hbiased, hsignificand]
    rw [if_neg (by omega), if_neg (by omega), hexponent]

theorem toInteger_ofInteger {n : Nat} (hpositive : 0 < n) (hhigh : n < 2 ^ 53) :
    (ofInteger n).toInteger = n := by
  have hlog : n.log2 < 53 := (Nat.log2_lt (Nat.ne_of_gt hpositive)).2 hhigh
  have hs : 52 - n.log2 ≤ 52 := Nat.sub_le ..
  have hlow : 2 ^ 52 ≤ n * 2 ^ (52 - n.log2) := by
    calc 2 ^ 52 = 2 ^ n.log2 * 2 ^ (52 - n.log2) := by
          rw [← Nat.pow_add, Nat.add_sub_cancel' (by omega)]
      _ ≤ n * 2 ^ (52 - n.log2) := Nat.mul_le_mul_right _ (Nat.log2_self_le (Nat.ne_of_gt hpositive))
  have hup : n * 2 ^ (52 - n.log2) < 2 ^ 53 := by
    calc n * 2 ^ (52 - n.log2) < 2 ^ (n.log2 + 1) * 2 ^ (52 - n.log2) :=
          Nat.mul_lt_mul_of_pos_right Nat.lt_log2_self (Nat.two_pow_pos _)
      _ = 2 ^ 53 := by
          rw [← Nat.pow_add]
          congr 1
          omega
  generalize 52 - n.log2 = s at hs hlow hup
  obtain ⟨hnegative, narrow, hmagnitude⟩ := magnitude_ofInteger hs hlow hup
  have hsize : (if (-s : Int) < 0 then (n * 2 ^ s) >>> (-(-s : Int)).toNat
      else (n * 2 ^ s) <<< (-s : Int).toNat) = n := by
    have hdown : (-(-s : Int)).toNat = s := by omega
    have hnone : (-s : Int).toNat = 0 := by omega
    split
    · rw [hdown, Nat.shiftRight_eq_div_pow, Nat.mul_div_cancel _ (Nat.two_pow_pos s)]
    · obtain rfl : s = 0 := by omega
      simp
  rw [toInteger, hmagnitude, hnegative]
  exact congrArg Nat.cast hsize

end Double

namespace Script

theorem toInteger_ofInt {n : Nat} (h : n < 2 ^ 53) : (Number.ofInt n).toInteger = n := by
  unfold Number.ofInt
  split
  · next hsmall =>
    rw [Number.toInteger, Int32.toInt_ofInt_of_le (by omega) (by omega)]
  · next hlarge => exact Double.toInteger_ofInteger (by omega) h

/-! ### Reading an array -/

section
variable {e : Evaluator} {r : Realm} {place : Nat} {elements : Array Value}
  (ho : r.object? place = some (.ofElements Base.array.place elements))
include ho

theorem nearest?_length : r.nearest? (.object place) "length" =
    some (Object.lengthProperty elements.size) := by
  have hnumber : elementNumber? "length" = none := by decide
  have hown : (Object.ofElements Base.array.place elements).own? "length" =
      some (Object.lengthProperty elements.size) := by
    have hindexed : (Object.ofElements Base.array.place elements).indexed? "length" = none := by
      simp only [Object.indexed?, Object.ofElements, hnumber, Option.bind_none, ite_self]
    rw [Object.own?, hindexed]
    rfl
  rw [Realm.nearest?, Realm.own?, ho, Option.bind_some, hown, Option.some_or]

/-- A new array says that it has as many elements as it was given. -/
theorem lengthOf_ofElements (hsize : elements.size < 2 ^ 53) :
    e.lengthOf (.object place) r = .ok elements.size r := by
  have hread : e.read (.object place) "length" r = .ok (.ofNat elements.size) r := by
    unfold Evaluator.read
    simp only [bind, EStateM.bind, Outcome.get_apply, nearest?_length ho]
    rfl
  have hinteger : e.integer (.ofNat elements.size) r = .ok elements.size r := by
    have hbounds : max (-9223372036854775808) (min 9223372036854775807 (elements.size : Int)) =
        elements.size := by omega
    have hnumber : e.integer (.ofNat elements.size) r = .ok (max (-9223372036854775808)
        (min 9223372036854775807 (Number.ofInt elements.size).toInteger)) r := rfl
    rw [hnumber, toInteger_ofInt hsize, hbounds]
  have hmin : (min (elements.size : Int) 9007199254740991).toNat = elements.size := by omega
  unfold Evaluator.lengthOf
  rw [Outcome.bind_of_ok hread, Outcome.bind_of_ok hinteger, hmin]
  rfl

/-- The elements of a new array are those that it was given. -/
theorem element_ofElements {i : Nat} {x : Value} (hi : elements[i]? = some x) :
    e.element (.object place) i r = .ok x r := by
  have hfound : (r.objectOf? (.object place)).bind (·.elements[i]?) = some x := by
    rw [Realm.objectOf?, ho, Option.bind_some]
    exact hi
  unfold Evaluator.element
  simp only [bind, EStateM.bind, Outcome.get_apply, hfound]
  rfl

end

end Script

end ScriptProxy
