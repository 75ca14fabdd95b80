import Mathlib.Data.List.Flatten
import ScriptProxy.Proofs.Outcome
import ScriptProxy.Proofs.Text.ModifiedUtf8

/-!
# How long texts are in class files

The bytes of a text are read in groups of one to three, one for each unit: `groups_of_readInto`. A unit
may be given in a longer group than it is written in, but not in a shorter one, so a text that was read
does not take more bytes when it is written: `length_encode_le`.
-/

namespace ScriptProxy.Text

/-! ### Units of a text that was read -/

namespace Utf16

theorem charUnits_ofNat {u : UInt16} (hh : isHigh u = false) (hl : isLow u = false) :
    charUnits (Char.ofNat u.toNat) = [u] := by
  have hu := u.toNat_lt
  have hvalid : u.toNat.isValidChar := by
    simp only [isHigh, isLow, Bool.and_eq_false_iff, decide_eq_false_iff_not,
      UInt16.le_iff_toNat_le] at hh hl
    have hh : ¬ 0xD800 ≤ u.toNat ∨ ¬ u.toNat ≤ 0xDBFF := hh
    have hl : ¬ 0xDC00 ≤ u.toNat ∨ ¬ u.toNat ≤ 0xDFFF := hl
    unfold Nat.isValidChar
    omega
  have hn : (Char.ofNat u.toNat).toNat = u.toNat := by
    rw [Char.ofNat, dif_pos hvalid]
    rfl
  rw [charUnits, hn, if_pos hu, UInt16.ofNat_toNat]

theorem charUnits_paired {u v : UInt16} (hh : isHigh u) (hl : isLow v) :
    charUnits (paired u v) = [u, v] := by
  simp only [isHigh, isLow, Bool.and_eq_true, decide_eq_true_eq, UInt16.le_iff_toNat_le] at hh hl
  obtain ⟨hh1 : 0xD800 ≤ u.toNat, hh2 : u.toNat ≤ 0xDBFF⟩ := hh
  obtain ⟨hl1 : 0xDC00 ≤ v.toNat, hl2 : v.toNat ≤ 0xDFFF⟩ := hl
  have hvalid : (0x10000 + (u.toNat - 0xD800) * 0x400 + (v.toNat - 0xDC00)).isValidChar := by
    unfold Nat.isValidChar
    omega
  have hn : (paired u v).toNat = 0x10000 + (u.toNat - 0xD800) * 0x400 + (v.toNat - 0xDC00) := by
    rw [paired, Char.ofNat, dif_pos hvalid]
    rfl
  have hhigh : 0xD800 + ((paired u v).toNat - 0x10000) / 0x400 = u.toNat := by omega
  have hlow : 0xDC00 + ((paired u v).toNat - 0x10000) % 0x400 = v.toNat := by omega
  rw [charUnits, if_neg (by omega), hhigh, hlow, UInt16.ofNat_toNat, UInt16.ofNat_toNat]

theorem units_of_readInto {us : List UInt16} {before cs : List Char}
    (h : readInto us before = some cs) : ∃ ds, cs = before.reverse ++ ds ∧ units ds = us := by
  fun_induction readInto us before with
  | case1 before =>
    cases h
    exact ⟨[], by simp, rfl⟩
  | case3 u before hplain =>
    cases h
    rw [Bool.not_eq_true, Bool.or_eq_false_iff] at hplain
    refine ⟨[Char.ofNat u.toNat], by simp, ?_⟩
    simp [units, charUnits_ofNat hplain.1 hplain.2]
  | case4 u v rest before hh hl ih =>
    obtain ⟨ds, rfl, hds⟩ := ih h
    refine ⟨paired u v :: ds, by simp, ?_⟩
    rw [← hds, units, List.flatMap_cons, charUnits_paired hh hl]
    rfl
  | case7 u v rest before hh hl ih =>
    obtain ⟨ds, rfl, hds⟩ := ih h
    rw [Bool.not_eq_true] at hh hl
    refine ⟨Char.ofNat u.toNat :: ds, by simp, ?_⟩
    rw [← hds, units, List.flatMap_cons, charUnits_ofNat hh hl]
    rfl
  | case2 | case5 | case6 => cases h

/-- The units of a text are the ones that it was read from. -/
theorem units_of_ofUnits? {us : List UInt16} {cs : List Char} (h : ofUnits? us = some cs) :
    units cs = us := by
  obtain ⟨ds, rfl, hds⟩ := units_of_readInto h
  simpa using hds

end Utf16

namespace ModifiedUtf8

/-! ### Groups of bytes -/

/-- The bytes stand for the unit. There may be a shorter group for it. -/
inductive Group : Bytes → UInt16 → Prop where
  | plain {a : UInt8} (h0 : 0 < a.toNat) (ha : a.toNat < 0x80) : Group [a] a.toUInt16
  | pair {a b : UInt8} (ha : 0xC0 ≤ a.toNat) (ha' : a.toNat < 0xE0) (hb : isContinuation b) :
    Group [a, b] (pairUnit a b)
  | triple {a b c : UInt8} (ha : 0xE0 ≤ a.toNat) (ha' : a.toNat < 0xF0) (hb : isContinuation b)
    (hc : isContinuation c) : Group [a, b, c] (tripleUnit a b c)

/-- The bytes are groups for the units. -/
inductive Groups : Bytes → List UInt16 → Prop where
  | nil : Groups [] []
  | cons {g bs : Bytes} {u : UInt16} {us : List UInt16} (hg : Group g u) (h : Groups bs us) :
    Groups (g ++ bs) (u :: us)

theorem groups_of_readInto {bs : Bytes} {before us : List UInt16}
    (h : readInto bs before = .ok us) : ∃ vs, us = before.reverse ++ vs ∧ Groups bs vs := by
  fun_induction readInto bs before with
  | case1 before =>
    cases h
    exact ⟨[], by simp, .nil⟩
  | case3 a rest before ha h0 ih =>
    obtain ⟨vs, rfl, hvs⟩ := ih h
    rw [(mask_eq a).1, decide_eq_true_eq] at ha
    have h0 : 0 < a.toNat := Nat.pos_of_ne_zero fun hz => h0 (by simpa [← UInt8.toNat_inj] using hz)
    exact ⟨_, by simp, .cons (.plain h0 ha) hvs⟩
  | case4 a before _ ha b rest hb ih =>
    obtain ⟨vs, rfl, hvs⟩ := ih h
    rw [(mask_eq a).2.1, decide_eq_true_eq] at ha
    exact ⟨_, by simp, .cons (.pair ha.1 ha.2 hb) hvs⟩
  | case7 a before _ _ ha b c rest hbc ih =>
    obtain ⟨vs, rfl, hvs⟩ := ih h
    rw [(mask_eq a).2.2.1, decide_eq_true_eq] at ha
    rw [Bool.and_eq_true] at hbc
    exact ⟨_, by simp, .cons (.triple ha.1 ha.2 hbc.1 hbc.2) hvs⟩
  | case2 | case5 | case6 | case8 | case9 | case10 => cases h

theorem length_encodeUnit (u : UInt16) : (encodeUnit u).length =
    if 1 ≤ u.toNat ∧ u.toNat ≤ 0x7F then 1 else if u.toNat ≤ 0x7FF then 2 else 3 := by
  unfold encodeUnit
  simp only [Bool.and_eq_true, decide_eq_true_eq, UInt16.le_iff_toNat_le]
  show (if 1 ≤ u.toNat ∧ u.toNat ≤ 0x7F then _ else if u.toNat ≤ 0x7FF then _ else _ :
    Bytes).length = _
  split
  · rfl
  · split <;> rfl

/-- No group is shorter than the one that is written. -/
theorem Group.length_encodeUnit_le {g : Bytes} {u : UInt16} (h : Group g u) :
    (encodeUnit u).length ≤ g.length := by
  rw [length_encodeUnit]
  cases h with
  | plain h0 ha =>
    rw [UInt8.toNat_toUInt16, if_pos (by omega)]
    simp
  | pair ha ha' hb =>
    have hle : ∀ x y, (pairUnit x y).toNat ≤ 0x7FF := fun x y => by
      rw [toNat_pairUnit]
      omega
    rw [if_pos (hle _ _)]
    split <;> simp
  | triple =>
    split
    · simp
    · split <;> simp

theorem Groups.length_flatMap_le {bs : Bytes} {us : List UInt16} (h : Groups bs us) :
    (us.flatMap encodeUnit).length ≤ bs.length := by
  induction h with
  | nil => simp
  | cons hg _ ih =>
    rw [List.flatMap_cons, List.length_append, List.length_append]
    exact Nat.add_le_add hg.length_encodeUnit_le ih

/-- Bytes are read as the text whose units they are read as. -/
theorem decode_eq_ok_iff {bs : Bytes} {s : String} :
    decode bs = .ok s ↔ readInto bs [] = .ok (Utf16.units s.toList) := by
  rw [decode_eq, Outcome.bind_eq_ok]
  constructor
  · rintro ⟨us, hus, h⟩
    split at h
    · next cs hcs =>
      cases h
      rw [hus, String.toList_ofList, Utf16.units_of_ofUnits? hcs]
    · cases h
  · intro hus
    refine ⟨_, hus, ?_⟩
    rw [Utf16.ofUnits?_units]
    exact congrArg Except.ok String.ofList_toList

/-- A text that was read does not take more bytes when it is written. -/
theorem length_encode_le {bs : Bytes} {s : String} (h : decode bs = .ok s) :
    (encode s).length ≤ bs.length := by
  obtain ⟨vs, hvs, hgroups⟩ := groups_of_readInto (decode_eq_ok_iff.1 h)
  rw [encode, hvs]
  exact hgroups.length_flatMap_le

/-- What is left of a text when characters are taken out is not longer in bytes. -/
theorem length_encode_of_sublist {s t : String} (h : s.toList.Sublist t.toList) :
    (encode s).length ≤ (encode t).length :=
  ((h.flatMap Utf16.charUnits).flatMap encodeUnit).length_le

end ModifiedUtf8

end ScriptProxy.Text
