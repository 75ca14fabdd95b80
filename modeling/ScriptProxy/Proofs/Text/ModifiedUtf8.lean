import Mathlib.Algebra.GroupWithZero.Nat
import ScriptProxy.Text.ModifiedUtf8

/-!
# Texts survive their form in class files

`decode_encode`: reading the modified UTF-8 of a text gives the text. It is proved in the two layers
of the format, characters in units (`Utf16.ofUnits?_units`) and units in bytes
(`readInto_flatMap_encodeUnit`). `decode_eq` says that the short way for plain bytes is only that:
a short way.
-/

namespace ScriptProxy.Text

/-! ### Characters and their units -/

namespace Utf16

attribute [local simp] readInto

/-- A unit that is no surrogate stands for itself. -/
theorem readInto_cons_of_plain {u : UInt16} (hh : isHigh u = false) (hl : isLow u = false)
    (us : List UInt16) (before : List Char) :
    readInto (u :: us) before = readInto us (Char.ofNat u.toNat :: before) := by
  cases us with
  | nil => simp [hh, hl]
  | cons v us => simp [hh, hl]

theorem readInto_cons_of_pair {u v : UInt16} (hh : isHigh u) (hl : isLow v) (us : List UInt16)
    (before : List Char) :
    readInto (u :: v :: us) before = readInto us (paired u v :: before) := by
  simp [hh, hl]

theorem isHigh_ofNat {n : Nat} (hn : n < 0x10000) :
    isHigh (UInt16.ofNat n) = (decide (0xD800 ≤ n) && decide (n ≤ 0xDBFF)) := by
  simp [isHigh, UInt16.le_iff_toNat_le, Nat.mod_eq_of_lt hn]

theorem isLow_ofNat {n : Nat} (hn : n < 0x10000) :
    isLow (UInt16.ofNat n) = (decide (0xDC00 ≤ n) && decide (n ≤ 0xDFFF)) := by
  simp [isLow, UInt16.le_iff_toNat_le, Nat.mod_eq_of_lt hn]

theorem readInto_charUnits (c : Char) (us : List UInt16) (before : List Char) :
    readInto (charUnits c ++ us) before = readInto us (c :: before) := by
  have hvalid : c.toNat < 0xD800 ∨ 0xDFFF < c.toNat ∧ c.toNat < 0x110000 := c.valid
  unfold charUnits
  split
  · next hn =>
    rw [List.singleton_append, readInto_cons_of_plain]
    · rw [UInt16.toNat_ofNat', Nat.mod_eq_of_lt hn, Char.ofNat_toNat]
    · rw [isHigh_ofNat hn]; simp; omega
    · rw [isLow_ofNat hn]; simp; omega
  · next hn =>
    have hh : 0xD800 + (c.toNat - 0x10000) / 0x400 < 0x10000 := by omega
    have hl : 0xDC00 + (c.toNat - 0x10000) % 0x400 < 0x10000 := by omega
    rw [List.cons_append, List.singleton_append, readInto_cons_of_pair]
    · have hc : 0x10000 + (0xD800 + (c.toNat - 0x10000) / 0x400 - 0xD800) * 0x400 +
          (0xDC00 + (c.toNat - 0x10000) % 0x400 - 0xDC00) = c.toNat := by omega
      rw [paired, UInt16.toNat_ofNat', UInt16.toNat_ofNat', Nat.mod_eq_of_lt hh,
        Nat.mod_eq_of_lt hl, hc, Char.ofNat_toNat]
    · rw [isHigh_ofNat hh]; simp; omega
    · rw [isLow_ofNat hl]; simp; omega

theorem readInto_units (cs before : List Char) :
    readInto (units cs) before = some (before.reverse ++ cs) := by
  induction cs generalizing before with
  | nil => simp [units]
  | cons c cs ih =>
    rw [units, List.flatMap_cons, readInto_charUnits]
    exact (ih (c :: before)).trans (by simp)

theorem ofUnits?_units (cs : List Char) : ofUnits? (units cs) = some cs :=
  readInto_units cs []

end Utf16

/-! ### Units and their bytes -/

namespace ModifiedUtf8

theorem toNat_continuation (u shift : UInt16) (hs : shift.toNat < 16) :
    (continuation u shift).toNat = 0x80 + u.toNat / 2 ^ shift.toNat % 0x40 := by
  have hmod : (u >>> shift &&& 0x3F).toUInt8.toNat = u.toNat / 2 ^ shift.toNat % 0x40 := by
    rw [UInt16.toNat_toUInt8, UInt16.toNat_and, UInt16.toNat_shiftRight, Nat.mod_eq_of_lt hs,
      Nat.shiftRight_eq_div_pow, show (0x3F : UInt16).toNat = 2 ^ 6 - 1 from rfl,
      Nat.and_two_pow_sub_one_eq_mod]
    omega
  rw [continuation, UInt8.toNat_or, hmod, show (0x80 : UInt8).toNat = 2 ^ 7 * 1 from rfl,
    ← Nat.two_pow_add_eq_or_of_lt (by omega)]

/-- The masks that tell the bytes of a group apart are bounds on the byte. -/
theorem mask_eq (b : UInt8) :
    (b &&& 0x80 == 0) = decide (b.toNat < 0x80) ∧
    (b &&& 0xE0 == 0xC0) = decide (0xC0 ≤ b.toNat ∧ b.toNat < 0xE0) ∧
    (b &&& 0xF0 == 0xE0) = decide (0xE0 ≤ b.toNat ∧ b.toNat < 0xF0) ∧
    isContinuation b = decide (0x80 ≤ b.toNat ∧ b.toNat < 0xC0) := by
  have h : ∀ n < 256, (UInt8.ofNat n &&& 0x80 == 0) = decide (n < 0x80) ∧
      (UInt8.ofNat n &&& 0xE0 == 0xC0) = decide (0xC0 ≤ n ∧ n < 0xE0) ∧
      (UInt8.ofNat n &&& 0xF0 == 0xE0) = decide (0xE0 ≤ n ∧ n < 0xF0) ∧
      isContinuation (UInt8.ofNat n) = decide (0x80 ≤ n ∧ n < 0xC0) := by decide +kernel
  simpa using h b.toNat b.toNat_lt

theorem isContinuation_continuation (u shift : UInt16) (hs : shift.toNat < 16) :
    isContinuation (continuation u shift) := by
  rw [(mask_eq _).2.2.2, toNat_continuation u shift hs, decide_eq_true_eq]
  omega

theorem toNat_pairUnit (a b : UInt8) :
    (pairUnit a b).toNat = a.toNat % 0x20 * 0x40 + b.toNat % 0x40 := by
  have ha : (a &&& 0x1F).toNat = a.toNat % 0x20 := Nat.and_two_pow_sub_one_eq_mod _ 5
  have hb : (b &&& 0x3F).toNat = b.toNat % 0x40 := Nat.and_two_pow_sub_one_eq_mod _ 6
  rw [pairUnit, UInt16.toNat_or, UInt16.toNat_shiftLeft, UInt8.toNat_toUInt16,
    UInt8.toNat_toUInt16, ha, hb, show (6 : UInt16).toNat % 16 = 6 from rfl, Nat.shiftLeft_eq,
    Nat.mod_eq_of_lt (by omega), Nat.mul_comm _ (2 ^ 6),
    ← Nat.two_pow_add_eq_or_of_lt (by omega)]

theorem toNat_tripleUnit (a b c : UInt8) :
    (tripleUnit a b c).toNat =
      a.toNat % 0x10 * 0x1000 + b.toNat % 0x40 * 0x40 + c.toNat % 0x40 := by
  have ha : (a &&& 0x0F).toNat = a.toNat % 0x10 := Nat.and_two_pow_sub_one_eq_mod _ 4
  have hb : (b &&& 0x3F).toNat = b.toNat % 0x40 := Nat.and_two_pow_sub_one_eq_mod _ 6
  have hc : (c &&& 0x3F).toNat = c.toNat % 0x40 := Nat.and_two_pow_sub_one_eq_mod _ 6
  have high : ((a &&& 0x0F).toUInt16 <<< 12).toNat = 2 ^ 12 * (a.toNat % 0x10) := by
    rw [UInt16.toNat_shiftLeft, UInt8.toNat_toUInt16, ha, Nat.shiftLeft_eq,
      show (12 : UInt16).toNat % 16 = 12 from rfl, Nat.mod_eq_of_lt (by omega), Nat.mul_comm]
  have middle : ((b &&& 0x3F).toUInt16 <<< 6).toNat = 2 ^ 6 * (b.toNat % 0x40) := by
    rw [UInt16.toNat_shiftLeft, UInt8.toNat_toUInt16, hb, Nat.shiftLeft_eq,
      show (6 : UInt16).toNat % 16 = 6 from rfl, Nat.mod_eq_of_lt (by omega), Nat.mul_comm]
  have upper : 2 ^ 12 * (a.toNat % 0x10) + 2 ^ 6 * (b.toNat % 0x40) =
      2 ^ 6 * (2 ^ 6 * (a.toNat % 0x10) + b.toNat % 0x40) := by omega
  rw [tripleUnit, UInt16.toNat_or, UInt16.toNat_or, high, middle, UInt8.toNat_toUInt16, hc,
    ← Nat.two_pow_add_eq_or_of_lt (by omega), upper, ← Nat.two_pow_add_eq_or_of_lt (by omega)]
  omega

/-! Which group `readInto` takes is decided by bounds on the first byte. -/

attribute [local simp] readInto

section
variable {a b c : UInt8} (rest : Bytes) (before : List UInt16)

theorem readInto_cons_plain (h0 : 0 < a.toNat) (ha : a.toNat < 0x80) :
    readInto (a :: rest) before = readInto rest (a.toUInt16 :: before) := by
  have hzero : (a == 0) = false := by
    rw [beq_eq_false_iff_ne, ne_eq, ← UInt8.toNat_inj]
    exact Nat.ne_of_gt h0
  rw [readInto.eq_def]
  simp [(mask_eq a).1, ha, hzero]

theorem readInto_cons_pair (ha : 0xC0 ≤ a.toNat) (ha' : a.toNat < 0xE0) (hb : isContinuation b) :
    readInto (a :: b :: rest) before = readInto rest (pairUnit a b :: before) := by
  have hplain : ¬ a.toNat < 0x80 := by omega
  simp [(mask_eq a).1, (mask_eq a).2.1, hplain, ha, ha', hb]

theorem readInto_cons_triple (ha : 0xE0 ≤ a.toNat) (ha' : a.toNat < 0xF0) (hb : isContinuation b)
    (hc : isContinuation c) :
    readInto (a :: b :: c :: rest) before = readInto rest (tripleUnit a b c :: before) := by
  have hplain : ¬ a.toNat < 0x80 := by omega
  have hpair : ¬ a.toNat < 0xE0 := by omega
  simp [(mask_eq a).1, (mask_eq a).2.1, (mask_eq a).2.2.1, hplain, hpair, ha, ha', hb, hc]

end

theorem readInto_encodeUnit (u : UInt16) (rest : Bytes) (before : List UInt16) :
    readInto (encodeUnit u ++ rest) before = readInto rest (u :: before) := by
  have hu := u.toNat_lt
  have last := toNat_continuation u 0 (by decide)
  have last_is := isContinuation_continuation u 0 (by decide)
  unfold encodeUnit
  split
  · -- one byte
    next h =>
    simp only [Bool.and_eq_true, decide_eq_true_eq, UInt16.le_iff_toNat_le] at h
    obtain ⟨h1 : 1 ≤ u.toNat, h2 : u.toNat ≤ 0x7F⟩ := h
    have hn : u.toUInt8.toNat = u.toNat := Nat.mod_eq_of_lt (by omega)
    have hback : u.toUInt8.toUInt16 = u := by
      rw [← UInt16.toNat_inj, UInt8.toNat_toUInt16, hn]
    rw [List.singleton_append, readInto_cons_plain _ _ (by omega) (by omega), hback]
  · split
    · -- two bytes
      next h =>
      have h : u.toNat ≤ 0x7FF := UInt16.le_iff_toNat_le.1 h
      have lead : ((0xC0 : UInt8) ||| (u >>> 6).toUInt8).toNat = 0xC0 + u.toNat / 0x40 := by
        rw [UInt8.toNat_or, UInt16.toNat_toUInt8, UInt16.toNat_shiftRight,
          show (6 : UInt16).toNat % 16 = 6 from rfl, Nat.shiftRight_eq_div_pow,
          Nat.mod_eq_of_lt (by omega), show (0xC0 : UInt8).toNat = 2 ^ 6 * 3 from rfl,
          ← Nat.two_pow_add_eq_or_of_lt (by omega)]
      have hback : pairUnit ((0xC0 : UInt8) ||| (u >>> 6).toUInt8) (continuation u 0) = u := by
        rw [← UInt16.toNat_inj, toNat_pairUnit, lead, last]
        simp
        omega
      rw [List.cons_append, List.singleton_append,
        readInto_cons_pair _ _ (by omega) (by omega) last_is, hback]
    · -- three bytes
      have lead : ((0xE0 : UInt8) ||| (u >>> 12).toUInt8).toNat = 0xE0 + u.toNat / 0x1000 := by
        rw [UInt8.toNat_or, UInt16.toNat_toUInt8, UInt16.toNat_shiftRight,
          show (12 : UInt16).toNat % 16 = 12 from rfl, Nat.shiftRight_eq_div_pow,
          Nat.mod_eq_of_lt (by omega), show (0xE0 : UInt8).toNat = 2 ^ 5 * 7 from rfl,
          ← Nat.two_pow_add_eq_or_of_lt (by omega)]
      have middle := toNat_continuation u 6 (by decide)
      have hback : tripleUnit ((0xE0 : UInt8) ||| (u >>> 12).toUInt8) (continuation u 6)
          (continuation u 0) = u := by
        rw [← UInt16.toNat_inj, toNat_tripleUnit, lead, middle, last]
        simp
        omega
      rw [List.cons_append, List.cons_append, List.singleton_append,
        readInto_cons_triple _ _ (by omega) (by omega)
          (isContinuation_continuation u 6 (by decide)) last_is, hback]

theorem readInto_flatMap_encodeUnit (us before : List UInt16) :
    readInto (us.flatMap encodeUnit) before = .ok (before.reverse ++ us) := by
  induction us generalizing before with
  | nil => simp
  | cons u us ih => rw [List.flatMap_cons, readInto_encodeUnit, ih]; simp

/-! ### Plain bytes -/

/-- Plain bytes are units of their own. -/
theorem readInto_of_all_isPlain {bs : Bytes} (h : bs.all isPlain) (before : List UInt16) :
    readInto bs before = .ok (before.reverse ++ bs.map UInt8.toUInt16) := by
  induction bs generalizing before with
  | nil => simp
  | cons b bs ih =>
    simp only [List.all_cons, Bool.and_eq_true] at h
    obtain ⟨hb, hbs⟩ := h
    simp only [isPlain, Bool.and_eq_true, bne_iff_ne, decide_eq_true_eq, ne_eq,
      ← UInt8.toNat_inj] at hb
    rw [readInto_cons_plain _ _ (Nat.pos_of_ne_zero hb.1) (UInt8.lt_iff_toNat_lt.1 hb.2), ih hbs]
    simp

theorem charUnits_ofUInt8 (b : UInt8) : Utf16.charUnits (Char.ofUInt8 b) = [b.toUInt16] := by
  have hb := b.toNat_lt
  have hn : (Char.ofUInt8 b).toNat = b.toNat := rfl
  rw [Utf16.charUnits, hn, if_pos (by omega), ← UInt16.ofNat_toNat (x := b.toUInt16),
    UInt8.toNat_toUInt16]

theorem units_map_ofUInt8 (bs : Bytes) :
    Utf16.units (bs.map Char.ofUInt8) = bs.map UInt8.toUInt16 := by
  induction bs with
  | nil => rfl
  | cons b bs ih =>
    rw [List.map_cons, Utf16.units, List.flatMap_cons, charUnits_ofUInt8, List.map_cons]
    exact congrArg (b.toUInt16 :: ·) ih

/-- Reading by groups gives plain bytes the same text as the short way does. -/
theorem decode_eq (bs : Bytes) :
    decode bs = readInto bs [] >>= fun us =>
      match Utf16.ofUnits? us with
      | some cs => .ok (String.ofList cs)
      | none => Defect.unpairedSurrogate.fail := by
  unfold decode
  split
  · next h =>
    have hu : Utf16.ofUnits? ([].reverse ++ bs.map UInt8.toUInt16) = some (bs.map Char.ofUInt8) := by
      rw [List.reverse_nil, List.nil_append, ← units_map_ofUInt8, Utf16.ofUnits?_units]
    rw [readInto_of_all_isPlain h]
    simp only [bind, Except.bind, hu]
  · rfl

theorem decode_encode (s : String) : decode (encode s) = .ok s := by
  have hu : Utf16.ofUnits? ([].reverse ++ Utf16.units s.toList) = some s.toList := by
    rw [List.reverse_nil, List.nil_append, Utf16.ofUnits?_units]
  rw [decode_eq, encode, readInto_flatMap_encodeUnit]
  simp only [bind, Except.bind, hu, String.ofList_toList]

end ModifiedUtf8

end ScriptProxy.Text
