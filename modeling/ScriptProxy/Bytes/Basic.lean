/-!
# Byte strings and big-endian numbers

Every number of more than one byte in a class file is stored with its most significant byte first.
`value` reads such digits and `digits` writes them; `value_digits` and `digits_value` say that they
undo each other on as many digits as are kept.
-/

namespace ScriptProxy

abbrev Bytes := List UInt8

namespace BigEndian

/-- The number whose base 256 digits are given, the most significant first. -/
def value (bs : Bytes) : Nat := bs.foldl (fun n b => 256 * n + b.toNat) 0

/-- The `width` low base 256 digits of `n`, the most significant first. -/
def digits : (width : Nat) → (n : Nat) → Bytes
  | 0, _ => []
  | width + 1, n => digits width (n / 256) ++ [UInt8.ofNat n]

@[simp] theorem length_digits (width n : Nat) : (digits width n).length = width := by
  induction width generalizing n with
  | zero => rfl
  | succ width ih => simp [digits, ih]

theorem value_concat (bs : Bytes) (b : UInt8) : value (bs ++ [b]) = 256 * value bs + b.toNat := by
  simp [value]

theorem value_digits (width n : Nat) : value (digits width n) = n % Nat.pow 256 width := by
  change value (digits width n) = n % 256 ^ width
  induction width generalizing n with
  | zero => simp [digits, value, Nat.mod_one]
  | succ width ih =>
    rw [digits, value_concat, ih, Nat.pow_succ', Nat.mod_mul]
    simp [Nat.add_comm]

theorem value_lt (bs : Bytes) : value bs < Nat.pow 256 bs.length := by
  change value bs < 256 ^ bs.length
  rw [← List.reverse_reverse bs]
  induction bs.reverse with
  | nil => simp [value]
  | cons b bs ih =>
    rw [List.reverse_cons, value_concat]
    simp only [List.length_append, List.length_reverse, List.length_cons, List.length_nil,
      Nat.zero_add, Nat.pow_succ] at ih ⊢
    have := b.toNat_lt
    omega

theorem digits_value (bs : Bytes) : digits bs.length (value bs) = bs := by
  rw [← List.reverse_reverse bs]
  induction bs.reverse with
  | nil => rfl
  | cons b bs ih =>
    have hb := b.toNat_lt
    rw [List.reverse_cons, value_concat]
    simp only [List.length_append, List.length_cons, List.length_nil, Nat.zero_add, digits]
    rw [show (256 * value bs.reverse + b.toNat) / 256 = value bs.reverse by omega, ih]
    congr 2
    apply UInt8.toNat_inj.1
    simp only [UInt8.toNat_ofNat']
    omega

end BigEndian

namespace Bytes

/-- Puts `new` over the bytes from `at` on, if there is room for it. -/
def overwrite? (old : Bytes) (start : Nat) (new : Bytes) : Option Bytes :=
  if start + new.length ≤ old.length then
    some (old.take start ++ new ++ old.drop (start + new.length))
  else none

end Bytes

end ScriptProxy
