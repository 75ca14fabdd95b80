import Mathlib.Data.List.Forall2
import ScriptProxy.Proofs.Text.EncodedLength

/-!
# Which byte strings are texts

`decode_accepts` says which byte strings are read as texts, without speaking of how they are read: those
that split into groups of one to three bytes (`Spelled`) whose units have all their surrogates paired
(`Utf16.Paired`). Both layers are settled first, bytes to units in `readInto_eq_ok_iff` and units to
characters in `Utf16.isSome_ofUnits?_iff`.
-/

namespace ScriptProxy.Text

/-! ### Units and characters -/

namespace Utf16

variable {u v : UInt16} {us : List UInt16}

/-- Every surrogate has its partner: right behind a high one there is a low one, and right before a low
one there is a high one. -/
structure Paired (us : List UInt16) : Prop where
  high : ∀ i u, us[i]? = some u → isHigh u → ∃ v, us[i + 1]? = some v ∧ isLow v
  low : ∀ i v, us[i]? = some v → isLow v → ∃ j u, i = j + 1 ∧ us[j]? = some u ∧ isHigh u

theorem isLow_of_isHigh (h : isHigh u) : isLow u = false := by
  simp only [isHigh, Bool.and_eq_true, decide_eq_true_eq, UInt16.le_iff_toNat_le] at h
  obtain ⟨-, h : u.toNat ≤ 0xDBFF⟩ := h
  simp only [isLow, Bool.and_eq_false_iff, decide_eq_false_iff_not, UInt16.le_iff_toNat_le]
  left
  show ¬ 0xDC00 ≤ u.toNat
  omega

theorem isHigh_of_isLow (h : isLow u) : isHigh u = false := by
  by_contra hh
  rw [isLow_of_isHigh (by simpa using hh)] at h
  cases h

theorem paired_nil : Paired [] := ⟨by simp, by simp⟩

theorem getElem?_append_add (front us : List UInt16) (i : Nat) :
    (front ++ us)[front.length + i]? = us[i]? := by
  rw [List.getElem?_append_right (Nat.le_add_right ..), Nat.add_sub_cancel_left]

/-- Units that have all their partners change nothing for those behind them. -/
theorem Paired.append_iff {front : List UInt16} (hf : Paired front) :
    Paired (front ++ us) ↔ Paired us := by
  constructor
  · intro h
    constructor
    · intro i w hw hhigh
      rw [← getElem?_append_add front us] at hw
      obtain ⟨p, hp, hlow⟩ := h.high _ w hw hhigh
      exact ⟨p, by rwa [Nat.add_assoc, getElem?_append_add] at hp, hlow⟩
    · intro i w hw hlow
      rw [← getElem?_append_add front us] at hw
      obtain ⟨j, p, hj, hp, hhigh⟩ := h.low _ w hw hlow
      cases i with
      | zero =>
        -- a high one at the end of the front would have its partner behind the end
        have hend : front.length = j + 1 := hj
        rw [List.getElem?_append_left (by omega)] at hp
        obtain ⟨q, hq, -⟩ := hf.high j p hp hhigh
        rw [← hend, List.getElem?_length] at hq
        cases hq
      | succ i =>
        obtain rfl : j = front.length + i := by omega
        exact ⟨i, p, rfl, by rwa [getElem?_append_add] at hp, hhigh⟩
  · intro h
    have place {i : Nat} {w : UInt16} (hw : (front ++ us)[i]? = some w) :
        front[i]? = some w ∨ ∃ k, i = front.length + k ∧ us[k]? = some w := by
      rcases Nat.lt_or_ge i front.length with hi | hi
      · exact .inl (by rwa [List.getElem?_append_left hi] at hw)
      · obtain ⟨k, rfl⟩ := Nat.exists_eq_add_of_le hi
        exact .inr ⟨k, rfl, by rwa [getElem?_append_add] at hw⟩
    have in_front {i : Nat} {w : UInt16} (hw : front[i]? = some w) :
        (front ++ us)[i]? = some w := by
      rw [List.getElem?_append_left (List.getElem?_eq_some_iff.1 hw).1, hw]
    constructor
    · intro i w hw hhigh
      obtain hi | ⟨k, rfl, hk⟩ := place hw
      · obtain ⟨p, hp, hlow⟩ := hf.high i w hi hhigh
        exact ⟨p, in_front hp, hlow⟩
      · obtain ⟨p, hp, hlow⟩ := h.high k w hk hhigh
        exact ⟨p, by rwa [Nat.add_assoc, getElem?_append_add], hlow⟩
    · intro i w hw hlow
      obtain hi | ⟨k, rfl, hk⟩ := place hw
      · obtain ⟨j, p, rfl, hp, hhigh⟩ := hf.low i w hi hlow
        exact ⟨j, p, rfl, in_front hp, hhigh⟩
      · obtain ⟨j, p, rfl, hp, hhigh⟩ := h.low k w hk hlow
        exact ⟨front.length + j, p, rfl, by rwa [getElem?_append_add], hhigh⟩

theorem paired_one (hh : isHigh u = false) (hl : isLow u = false) : Paired [u] where
  high
    | 0, _, rfl, hhigh => by simp [hh] at hhigh
  low
    | 0, _, rfl, hlow => by simp [hl] at hlow

theorem paired_two (hh : isHigh u) (hl : isLow v) : Paired [u, v] where
  high
    | 0, _, rfl, _ => ⟨v, rfl, hl⟩
    | 1, _, rfl, hhigh => by simp [isHigh_of_isLow hl] at hhigh
  low
    | 0, _, rfl, hlow => by simp [isLow_of_isHigh hh] at hlow
    | 1, _, rfl, _ => ⟨0, u, rfl, rfl, hh⟩

/-- A unit that is no surrogate changes nothing for those behind it. -/
theorem paired_cons (hh : isHigh u = false) (hl : isLow u = false) :
    Paired (u :: us) ↔ Paired us := (paired_one hh hl).append_iff

/-- Nor does a surrogate with its partner. -/
theorem paired_cons_cons (hh : isHigh u) (hl : isLow v) : Paired (u :: v :: us) ↔ Paired us :=
  (paired_two hh hl).append_iff

theorem Paired.isLow_second (h : Paired (u :: us)) (hh : isHigh u) : ∃ v, us[0]? = some v ∧ isLow v :=
  h.high 0 u rfl hh

theorem Paired.isLow_first (h : Paired (u :: us)) : isLow u = false := by
  by_contra hl
  obtain ⟨j, _, hj, -⟩ := h.low 0 u rfl (by simpa using hl)
  cases hj

theorem isSome_readInto_iff (us : List UInt16) (before : List Char) :
    (readInto us before).isSome ↔ Paired us := by
  fun_induction readInto us before with
  | case1 => simp [paired_nil]
  | case2 u before hsurrogate =>
    refine ⟨fun h => absurd h Bool.false_ne_true, fun h => ?_⟩
    rw [h.isLow_first, Bool.or_false] at hsurrogate
    obtain ⟨v, hv, -⟩ := h.isLow_second hsurrogate
    cases hv
  | case3 u before hplain =>
    rw [Bool.not_eq_true, Bool.or_eq_false_iff] at hplain
    simp [paired_cons hplain.1 hplain.2, paired_nil]
  | case4 u v rest before hh hl ih => rw [ih, paired_cons_cons hh hl]
  | case5 u v rest before hh hl =>
    refine ⟨fun h => absurd h Bool.false_ne_true, fun h => ?_⟩
    obtain ⟨w, hw, hlow⟩ := h.isLow_second hh
    obtain rfl : v = w := by simpa using hw
    exact absurd hlow hl
  | case6 u v rest before hh hl =>
    refine ⟨fun h => absurd h Bool.false_ne_true, fun h => ?_⟩
    rw [h.isLow_first] at hl
    cases hl
  | case7 u v rest before hh hl ih =>
    rw [Bool.not_eq_true] at hh hl
    rw [ih, paired_cons hh hl]

/-- Units are read exactly if every surrogate among them has its partner. -/
theorem isSome_ofUnits?_iff : (ofUnits? us).isSome ↔ Paired us := isSome_readInto_iff us []

theorem paired_units (cs : List Char) : Paired (units cs) := by
  rw [← isSome_ofUnits?_iff, ofUnits?_units]
  rfl

end Utf16

/-! ### Bytes and units -/

namespace ModifiedUtf8

variable {g bs : Bytes} {u : UInt16} {us : List UInt16}

/-- The bits `0xxxxxxx` (not all zero), `110xxxxx 10yyyyyy` and `1110xxxx 10yyyyyy 10zzzzzz` of a group
stand for the unit whose bits are those marked with letters. -/
inductive Spells : Bytes → UInt16 → Prop where
  | one {x : Nat} (hx : 0x01 ≤ x) (hx' : x ≤ 0x7F) : Spells [.ofNat x] (.ofNat x)
  | two {x y : Nat} (hx : x < 0x20) (hy : y < 0x40) :
    Spells [.ofNat (0xC0 + x), .ofNat (0x80 + y)] (.ofNat (0x40 * x + y))
  | three {x y z : Nat} (hx : x < 0x10) (hy : y < 0x40) (hz : z < 0x40) :
    Spells [.ofNat (0xE0 + x), .ofNat (0x80 + y), .ofNat (0x80 + z)]
      (.ofNat (0x1000 * x + 0x40 * y + z))

/-- The bytes split, from the left to the right, into groups that stand for the units. -/
def Spelled (bs : Bytes) (us : List UInt16) : Prop :=
  ∃ groups : List Bytes, groups.flatten = bs ∧ List.Forall₂ Spells groups us

/-! The groups that are told by masks are those with the right bits. -/

theorem Group.spells (h : Group g u) : Spells g u := by
  cases h with
  | @plain a h0 ha =>
    have hunit : a.toUInt16 = .ofNat a.toNat := by
      rw [← UInt16.toNat_inj, UInt8.toNat_toUInt16, UInt16.toNat_ofNat']
      omega
    have hspells := Spells.one (x := a.toNat) h0 (by omega)
    rwa [← hunit, UInt8.ofNat_toNat] at hspells
  | @pair a b ha ha' hb =>
    rw [(mask_eq b).2.2.2, decide_eq_true_eq] at hb
    have hunit : pairUnit a b = .ofNat (0x40 * (a.toNat - 0xC0) + (b.toNat - 0x80)) := by
      rw [← UInt16.toNat_inj, toNat_pairUnit, UInt16.toNat_ofNat']
      omega
    have hspells := Spells.two (x := a.toNat - 0xC0) (y := b.toNat - 0x80) (by omega) (by omega)
    rwa [← hunit, Nat.add_sub_cancel' ha, Nat.add_sub_cancel' hb.1, UInt8.ofNat_toNat,
      UInt8.ofNat_toNat] at hspells
  | @triple a b c ha ha' hb hc =>
    rw [(mask_eq _).2.2.2, decide_eq_true_eq] at hb hc
    have hunit : tripleUnit a b c = .ofNat
        (0x1000 * (a.toNat - 0xE0) + 0x40 * (b.toNat - 0x80) + (c.toNat - 0x80)) := by
      rw [← UInt16.toNat_inj, toNat_tripleUnit, UInt16.toNat_ofNat']
      omega
    have hspells := Spells.three (x := a.toNat - 0xE0) (y := b.toNat - 0x80) (z := c.toNat - 0x80)
      (by omega) (by omega) (by omega)
    rwa [← hunit, Nat.add_sub_cancel' ha, Nat.add_sub_cancel' hb.1, Nat.add_sub_cancel' hc.1,
      UInt8.ofNat_toNat, UInt8.ofNat_toNat, UInt8.ofNat_toNat] at hspells

theorem Spells.group (h : Spells g u) : Group g u := by
  have byte {n : Nat} (hn : n < 0x100) : (UInt8.ofNat n).toNat = n := by
    rw [UInt8.toNat_ofNat', Nat.mod_eq_of_lt hn]
  have continues {n : Nat} (hn : n < 0x40) : isContinuation (.ofNat (0x80 + n)) := by
    rw [(mask_eq _).2.2.2, decide_eq_true_eq, byte (by omega)]
    omega
  cases h with
  | @one x hx hx' =>
    have hunit : (.ofNat x : UInt16) = (UInt8.ofNat x).toUInt16 := by
      rw [← UInt16.toNat_inj, UInt8.toNat_toUInt16, byte (by omega), UInt16.toNat_ofNat']
      omega
    rw [hunit]
    exact .plain (by rw [byte (by omega)]; omega) (by rw [byte (by omega)]; omega)
  | @two x y hx hy =>
    have hunit : (.ofNat (0x40 * x + y) : UInt16) =
        pairUnit (.ofNat (0xC0 + x)) (.ofNat (0x80 + y)) := by
      rw [← UInt16.toNat_inj, toNat_pairUnit, byte (by omega), byte (by omega), UInt16.toNat_ofNat']
      omega
    rw [hunit]
    exact .pair (by rw [byte (by omega)]; omega) (by rw [byte (by omega)]; omega) (continues hy)
  | @three x y z hx hy hz =>
    have hunit : (.ofNat (0x1000 * x + 0x40 * y + z) : UInt16) =
        tripleUnit (.ofNat (0xE0 + x)) (.ofNat (0x80 + y)) (.ofNat (0x80 + z)) := by
      rw [← UInt16.toNat_inj, toNat_tripleUnit, byte (by omega), byte (by omega), byte (by omega),
        UInt16.toNat_ofNat']
      omega
    rw [hunit]
    exact .triple (by rw [byte (by omega)]; omega) (by rw [byte (by omega)]; omega) (continues hy)
      (continues hz)

theorem groups_iff_spelled : Groups bs us ↔ Spelled bs us := by
  constructor
  · intro h
    induction h with
    | nil => exact ⟨[], rfl, .nil⟩
    | @cons g bs u us hg _ ih =>
      obtain ⟨groups, rfl, hgroups⟩ := ih
      exact ⟨g :: groups, rfl, .cons hg.spells hgroups⟩
  · rintro ⟨groups, rfl, hgroups⟩
    induction hgroups with
    | nil => exact .nil
    | cons hg _ ih => exact .cons hg.group ih

theorem readInto_of_groups (h : Groups bs us) (before : List UInt16) :
    readInto bs before = .ok (before.reverse ++ us) := by
  induction h generalizing before with
  | nil => simp [readInto]
  | @cons g bs u us hg _ ih =>
    have hfirst : readInto (g ++ bs) before = readInto bs (u :: before) := by
      cases hg with
      | plain h0 ha => exact readInto_cons_plain bs before h0 ha
      | pair ha ha' hb => exact readInto_cons_pair bs before ha ha' hb
      | triple ha ha' hb hc => exact readInto_cons_triple bs before ha ha' hb hc
    rw [hfirst, ih]
    simp

/-- Bytes are read as units exactly if they split into groups for them. -/
theorem readInto_eq_ok_iff : readInto bs [] = .ok us ↔ Spelled bs us := by
  rw [← groups_iff_spelled]
  constructor
  · intro h
    obtain ⟨vs, rfl, hgroups⟩ := groups_of_readInto h
    exact hgroups
  · intro h
    rw [readInto_of_groups h]
    rfl

theorem isMalformed_of_readInto {before : List UInt16} {f : Failure}
    (h : readInto bs before = .error f) : ∃ d, f = .malformed d := by
  fun_induction readInto bs before with
  | case1 => cases h
  | case3 _ _ _ _ _ ih | case4 _ _ _ _ _ _ _ ih | case7 _ _ _ _ _ _ _ _ _ ih => exact ih h
  | case2 | case5 | case6 | case8 | case9 | case10 =>
    cases h
    exact ⟨_, rfl⟩

/-! ### Texts -/

/-- The text of a byte string, read group by group whatever its bytes are. -/
def decodeGroups (bs : Bytes) : Except Failure String := do
  match Utf16.ofUnits? (← readInto bs []) with
  | some cs => .ok (String.ofList cs)
  | none => Defect.unpairedSurrogate.fail

theorem decode_eq_decodeGroups (bs : Bytes) : decode bs = decodeGroups bs := decode_eq bs

/-- A byte string is read as a text exactly if it splits into groups whose units have all their
surrogates paired, and the text is the one with these units. Everything else is malformed. The short
way for plain bytes gives what reading by groups gives. -/
theorem decode_accepts (bs : Bytes) :
    (∀ s, decode bs = .ok s ↔
      ∃ us, Spelled bs us ∧ Utf16.Paired us ∧ Utf16.units s.toList = us) ∧
    ((∃ s, decode bs = .ok s) ↔ ∃ us, Spelled bs us ∧ Utf16.Paired us) ∧
    (∀ f, decode bs = .error f → ∃ d, f = .malformed d) ∧
    (bs.all isPlain → decode bs = .ok (String.ofList (bs.map Char.ofUInt8)) ∧
      decodeGroups bs = .ok (String.ofList (bs.map Char.ofUInt8))) := by
  have hok (s : String) : decode bs = .ok s ↔ Spelled bs (Utf16.units s.toList) := by
    rw [decode_eq_ok_iff, readInto_eq_ok_iff]
  refine ⟨fun s => ?_, ?_, fun f hf => ?_, fun hplain => ?_⟩
  · rw [hok]
    constructor
    · intro h
      exact ⟨_, h, Utf16.paired_units _, rfl⟩
    · rintro ⟨_, h, -, rfl⟩
      exact h
  · constructor
    · rintro ⟨s, hs⟩
      exact ⟨_, (hok s).1 hs, Utf16.paired_units _⟩
    · rintro ⟨us, hus, hpaired⟩
      obtain ⟨cs, hcs⟩ := Option.isSome_iff_exists.1 (Utf16.isSome_ofUnits?_iff.2 hpaired)
      refine ⟨String.ofList cs, (hok _).2 ?_⟩
      rwa [String.toList_ofList, Utf16.units_of_ofUnits? hcs]
  · rw [decode_eq_decodeGroups, decodeGroups, Outcome.bind_eq_error] at hf
    rcases hf with hf | ⟨us, -, hf⟩
    · exact isMalformed_of_readInto hf
    · split at hf
      · cases hf
      · cases hf
        exact ⟨_, rfl⟩
  · have hshort : decode bs = .ok (String.ofList (bs.map Char.ofUInt8)) := if_pos hplain
    exact ⟨hshort, by rw [← decode_eq_decodeGroups, hshort]⟩

end ModifiedUtf8

end ScriptProxy.Text
