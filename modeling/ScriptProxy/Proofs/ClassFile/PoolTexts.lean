import ScriptProxy.Proofs.ClassFile.Interning
import ScriptProxy.Proofs.Text.ShortestForm

/-!
# Texts that fit a pool

The bytes of a text constant are counted in sixteen bits. A text of a pool that was read fits, and so
does a pool to which only texts that fit were added. `encode_decoded` says what becomes of a text that
was read and is written again.
-/

namespace ScriptProxy

open Outcome

/-- The text is short enough for a constant. -/
def Text.Fits (s : String) : Prop := (ModifiedUtf8.encode s).length ≤ 65535

instance (s : String) : Decidable (Text.Fits s) := inferInstanceAs (Decidable (_ ≤ _))

theorem Text.Fits.of_sublist {s t : String} (h : Fits t) (hs : s.toList.Sublist t.toList) : Fits s :=
  Nat.le_trans (ModifiedUtf8.length_encode_of_sublist hs) h

namespace ClassFile

/-- All texts of a reference to a method are short enough for constants. -/
structure MethodSymbol.Fits (m : MethodSymbol) : Prop where
  owner : Text.Fits m.owner
  name : Text.Fits m.name
  descriptor : Text.Fits m.descriptor

namespace Pool

theorem TextsFit.fits_of_text {p : Pool} (hp : p.TextsFit) {i : UInt16} {s : String}
    (h : p.text i = .ok s) : Text.Fits s := by
  obtain ⟨bytes, hget, hs⟩ := text_eq_ok.1 h
  have hmem : some (.utf8 bytes) ∈ p.slots.toList :=
    Array.mem_def.1 (Array.mem_of_getElem? (get_eq_ok.1 hget))
  exact Nat.le_trans (Text.ModifiedUtf8.length_encode_le hs) (hp bytes hmem)

theorem keeps_push {c : Constant} (hc : c.Fits) : Keeps TextsFit (push c) := by
  intro p hp
  by_cases h : p.count + width c ≤ limit
  · obtain ⟨q, hq, hs⟩ := push_eq h
    rw [hq]
    intro bytes hb
    rw [left, hs, List.mem_append] at hb
    rcases hb with hb | hb
    · exact hp bytes hb
    · obtain rfl : c = .utf8 bytes := by
        unfold slotsOf at hb
        split at hb <;> simpa [eq_comm] using hb
      exact hc
  · rw [push, if_neg h]
    exact hp

theorem keeps_intern {c : Constant} (hc : c.Fits) : Keeps TextsFit (intern c) := by
  intro p hp
  unfold intern
  split
  · exact hp
  · exact keeps_push hc p hp

theorem keeps_addText {s : String} (hs : Text.Fits s) : Keeps TextsFit (addText s) :=
  keeps_intern hs

theorem keeps_addClass {name : String} (hn : Text.Fits name) : Keeps TextsFit (addClass name) :=
  (keeps_addText hn).bind fun _ => keeps_intern trivial

theorem keeps_addString {s : String} (hs : Text.Fits s) : Keeps TextsFit (addString s) :=
  (keeps_addText hs).bind fun _ => keeps_intern trivial

theorem keeps_addInteger (v : Int32) : Keeps TextsFit (addInteger v) := keeps_intern trivial

theorem keeps_addNameAndType {name descriptor : String} (hn : Text.Fits name)
    (hd : Text.Fits descriptor) : Keeps TextsFit (addNameAndType name descriptor) :=
  (keeps_addText hn).bind fun _ => (keeps_addText hd).bind fun _ => keeps_intern trivial

theorem keeps_addMethod {m : MethodSymbol} (hm : m.Fits) : Keeps TextsFit (addMethod m) :=
  (keeps_addClass hm.owner).bind fun _ =>
    (keeps_addNameAndType hm.name hm.descriptor).bind fun _ => keeps_intern trivial

theorem textsFit_of_read {c d : Cursor} {p : Pool} (h : read c = .ok p d) : p.TextsFit := by
  obtain ⟨bs, ⟨-, hbs⟩, -⟩ := (reads _ _ _).1 h
  exact (okIff_write p).isOk_iff.1 ⟨bs, hbs⟩

open Text.ModifiedUtf8 (decode encode ShortestGroups)

/-- A text survives being written and read. One that was read is not written in more bytes, and in the
same ones exactly if none of their groups is longer than its unit needs. So a text of a pool that was
read fits a constant, and any pool takes it that has it already or has a slot left, and still has a
written form if it had one. Only a full pool refuses it. -/
theorem encode_decoded :
    (∀ s, decode (encode s) = .ok s) ∧
    (∀ bs s, decode bs = .ok s →
      (encode s).length ≤ bs.length ∧ (encode s = bs ↔ ShortestGroups bs)) ∧
    ∀ c d (p : Pool) i s, Pool.read c = .ok p d → p.text i = .ok s →
      (encode s).length ≤ 65535 ∧ ∀ q : Pool, q.Reachable →
        (q.Admits (.utf8 (encode s)) →
          ∃ j r, addText s q = .ok j r ∧ r.text j = .ok s ∧ (q.TextsFit → r.TextsFit)) ∧
        (¬ q.Admits (.utf8 (encode s)) → addText s q = .error (.notSupported .fullPool) q) := by
  refine ⟨Text.ModifiedUtf8.decode_encode, fun bs s h => ?_, fun c d p i s hread hs => ?_⟩
  · exact ⟨Text.ModifiedUtf8.length_encode_le h, Text.ModifiedUtf8.encode_eq_iff h⟩
  have hfits : Text.Fits s := (textsFit_of_read hread).fits_of_text hs
  refine ⟨hfits, fun q hq => ⟨fun hadmits => ?_, fun hfull => ?_⟩⟩
  · obtain ⟨j, r, h⟩ := hadmits.intern hq.wellFormed
    have htext := (grows_addText hq.wellFormed s).found j r h
    refine ⟨j, r, h, htext, fun hqfit => ?_⟩
    have hleft := keeps_addText hfits q hqfit
    rwa [show addText s q = .ok j r from h] at hleft
  · exact intern_of_not_admits hfull hq.wellFormed

theorem encode_decoded_overlong :
    decode [0xC1, 0x81] = .ok "A" ∧ (encode "A").length ≤ 2 ∧ ¬ ShortestGroups [0xC1, 0x81] := by
  have h : decode [0xC1, 0x81] = .ok "A" := eq_ok_of_toOption (by decide +kernel)
  obtain ⟨hlength, hshortest⟩ := encode_decoded.2.1 _ _ h
  exact ⟨h, hlength, fun hs => absurd (hshortest.2 hs) (by decide)⟩

/-! A full pool that has a text in a longer form only does not take it again. -/

/-- The text `A` in a longer form, and integers behind it. -/
def filled (n : Nat) : Pool :=
  ⟨(none :: some (.utf8 [0xC1, 0x81]) :: List.replicate n (some (.integer 0))).toArray⟩

/-- The bytes of `filled n`. -/
def filledBytes (n : Nat) : Bytes :=
  BigEndian.digits 2 (n + 2) ++ ([1, 0, 2, 0xC1, 0x81] ++ (List.replicate n [3, 0, 0, 0, 0]).flatten)

section
variable {n : Nat}

theorem count_filled : (filled n).count = n + 2 := by simp [count, filled]

theorem wellFormed_filled (hn : n + 2 ≤ limit) : (filled n).WellFormed := by
  have laid : Laid (List.replicate n (some (.integer 0))) := by
    clear hn
    induction n with
    | zero => exact .nil
    | succ n ih => exact .narrow rfl ih
  exact ⟨⟨_, rfl, .narrow rfl laid⟩, by rwa [count_filled]⟩

theorem write_filled (hn : n + 2 ≤ limit) : (filled n).write = .ok (filledBytes n) := by
  have integers : (Form.of writeSlot).sequence (List.replicate n (some (.integer 0)))
      (List.replicate n [3, 0, 0, 0, 0]).flatten := by
    clear hn
    induction n with
    | zero => exact rfl
    | succ n ih =>
      exact ⟨[3, 0, 0, 0, 0], _, rfl, ih, by rw [List.replicate_succ, List.flatten_cons]⟩
  refine write_eq_ok.2 ⟨_, sequence_cons_none.2 ⟨_, _, rfl, integers, rfl⟩, ?_⟩
  rw [countWord_eq (wellFormed_filled hn), Written.word16, toNat_count (wellFormed_filled hn),
    count_filled]
  rfl

theorem get_filled : (filled n).get 1 = .ok (.utf8 [0xC1, 0x81]) := get_eq_ok.2 rfl

theorem eq_of_mem_filled {c : Constant} (h : some c ∈ (filled n).slots.toList) :
    c = .utf8 [0xC1, 0x81] ∨ c = .integer 0 := by
  simp only [filled, List.mem_cons, reduceCtorEq, Option.some.injEq, false_or,
    List.mem_replicate] at h
  exact h.imp_right And.right

theorem eq_of_get_filled {i : UInt16} {c : Constant} (h : (filled n).get i = .ok c) :
    c = .utf8 [0xC1, 0x81] ∨ c = .integer 0 :=
  eq_of_mem_filled (Array.mem_def.1 (Array.mem_of_getElem? (get_eq_ok.1 h)))

theorem reachable_filled (hn : n + 2 ≤ limit) : (filled n).Reachable :=
  (wellFormed_filled hn).reachable fun bytes hb => by
    have hbytes : bytes = [0xC1, 0x81] := by simpa [filled] using hb
    rw [hbytes]
    decide

/-- A full pool refuses all that it does not hold. -/
theorem intern_filled {c : Constant} (htext : c ≠ .utf8 [0xC1, 0x81]) (hinteger : c ≠ .integer 0) :
    intern c (filled 65533) = .error (.notSupported .fullPool) (filled 65533) := by
  refine intern_of_not_admits ?_ (wellFormed_filled (Nat.le_refl limit))
  rintro (⟨i, hi⟩ | hroom)
  · exact (eq_of_get_filled hi).elim htext hinteger
  · have hwidth : 0 < width c := by
      unfold width
      split <;> decide
    rw [count_filled, limit] at hroom
    omega

theorem addText_filled :
    (∃ d, Pool.read (Cursor.ofList (filledBytes 65533)) = .ok (filled 65533) d) ∧
    (filled 65533).text 1 = .ok "A" ∧
    addText "A" (filled 65533) = .error (.notSupported .fullPool) (filled 65533) := by
  have hwf : (filled 65533).WellFormed := wellFormed_filled (Nat.le_refl limit)
  have htext : (filled 65533).text 1 = .ok "A" :=
    text_eq_ok.2 ⟨_, get_filled, eq_ok_of_toOption (by decide +kernel)⟩
  refine ⟨hwf.read_of_write (write_filled (Nat.le_refl limit)), htext, ?_⟩
  refine intern_of_not_admits ?_ hwf
  rintro (⟨i, hi⟩ | hroom)
  · have hne : encode "A" ≠ [0xC1, 0x81] := by decide
    rcases eq_of_get_filled hi with h | h
    · exact hne (Constant.utf8.inj h)
    · cases h
  · rw [count_filled] at hroom
    exact absurd hroom (by decide)

end

end Pool

end ClassFile

end ScriptProxy
