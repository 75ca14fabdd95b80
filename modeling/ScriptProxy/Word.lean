import ScriptProxy.Failure

/-!
# Sums of words

Slots are counted in words of sixteen bits. A sum of two of them that is no such word breaks off.
-/

namespace ScriptProxy.Word

/-- A number as a word, if it is one. -/
def checked (n : Nat) : Except Failure UInt16 :=
  if 65535 < n then .error .addOverflow else .ok (UInt16.ofNat n)

def add (a b : UInt16) : Except Failure UInt16 := checked (a.toNat + b.toNat)

theorem checked_of_le {n : Nat} (h : n ≤ 65535) : checked n = .ok (UInt16.ofNat n) :=
  if_neg (Nat.not_lt.2 h)

theorem checked_of_lt {n : Nat} (h : 65535 < n) : checked n = .error .addOverflow := if_pos h

theorem toNat_of_le {n : Nat} (h : n ≤ 65535) : (UInt16.ofNat n).toNat = n :=
  UInt16.toNat_ofNat_of_lt' (Nat.lt_succ_of_le h)

/-- If a sum has run over, it still does with more added to it. -/
theorem checked_bind_add (m n : Nat) (hn : n ≤ 65535) :
    (checked m >>= fun w => add w (UInt16.ofNat n)) = checked (m + n) := by
  by_cases hm : m ≤ 65535
  · rw [checked_of_le hm]
    show checked ((UInt16.ofNat m).toNat + (UInt16.ofNat n).toNat) = _
    rw [toNat_of_le hm, toNat_of_le hn]
  · rw [checked_of_lt (Nat.not_le.1 hm), checked_of_lt (by omega)]
    rfl

end ScriptProxy.Word
