import ScriptProxy.Proofs.Text.EncodedLength

/-!
# The shortest form of a text

A text is written in its shortest form: each unit in the shortest group that stands for it
(`group_encodeUnit`, `shortest_iff_length`). Groups of one length that stand for one unit are the same
(`Group.eq_of_length_eq`), so a byte string is the written form of what it is read as exactly if none of
its groups is longer than its unit needs: `encode_eq_iff`.
-/

namespace ScriptProxy.Text.ModifiedUtf8

variable {g bs : Bytes} {u : UInt16}

/-- The group is not longer than its unit needs: two bytes are for 0 and for the units from 0x80 to
0x7FF, and three bytes for those from 0x800 on. -/
structure Shortest (g : Bytes) (u : UInt16) : Prop where
  ofTwo : g.length = 2 → u.toNat = 0 ∨ 0x80 ≤ u.toNat ∧ u.toNat ≤ 0x7FF
  ofThree : g.length = 3 → 0x800 ≤ u.toNat

/-- The bytes are groups of which none is longer than its unit needs. -/
inductive ShortestGroups : Bytes → Prop where
  | nil : ShortestGroups []
  | cons {g bs : Bytes} {u : UInt16} (hg : Group g u) (hs : Shortest g u) (h : ShortestGroups bs) :
    ShortestGroups (g ++ bs)

/-- The group that is written for a unit stands for it. -/
theorem group_encodeUnit (u : UInt16) : Group (encodeUnit u) u := by
  have hread : readInto (encodeUnit u) [] = .ok [u] := by
    simpa using readInto_flatMap_encodeUnit [u] []
  obtain ⟨vs, hvs, hgroups⟩ := groups_of_readInto hread
  obtain rfl : vs = [u] := hvs.symm
  generalize encodeUnit u = bs at hgroups
  cases hgroups with
  | cons hg hrest =>
    cases hrest
    rwa [List.append_nil]

theorem shortest_iff_length (h : Group g u) : Shortest g u ↔ g.length = (encodeUnit u).length := by
  rw [length_encodeUnit]
  cases h with
  | @plain a h0 ha =>
    rw [UInt8.toNat_toUInt16, if_pos (by omega)]
    exact ⟨fun _ => rfl, fun _ => ⟨nofun, nofun⟩⟩
  | @pair a b ha ha' hb =>
    have hu : (pairUnit a b).toNat ≤ 0x7FF := by
      rw [toNat_pairUnit]
      omega
    generalize pairUnit a b = u at hu
    constructor
    · intro hs
      have := hs.ofTwo rfl
      rw [if_neg (by omega), if_pos hu]
      rfl
    · intro hl
      refine ⟨fun _ => ?_, nofun⟩
      split at hl
      · cases hl
      · omega
  | @triple a b c =>
    generalize tripleUnit a b c = u
    constructor
    · intro hs
      have := hs.ofThree rfl
      rw [if_neg (by omega), if_neg (by omega)]
      rfl
    · intro hl
      refine ⟨nofun, fun _ => ?_⟩
      split at hl
      · cases hl
      · split at hl
        · cases hl
        · omega

/-- Groups of one length for one unit are the same. -/
theorem Group.eq_of_length_eq {g' : Bytes} {u' : UInt16} (h : Group g u) (h' : Group g' u')
    (hu : u = u') (hl : g.length = g'.length) : g = g' := by
  have hu := congrArg UInt16.toNat hu
  cases h with
  | plain =>
    cases h' with
    | plain =>
      rw [UInt8.toNat_toUInt16, UInt8.toNat_toUInt16, UInt8.toNat_inj] at hu
      rw [hu]
    | pair | triple => cases hl
  | @pair a b ha ha' hb =>
    cases h' with
    | @pair a' b' hc hc' hb' =>
      rw [(mask_eq _).2.2.2, decide_eq_true_eq] at hb hb'
      rw [toNat_pairUnit, toNat_pairUnit] at hu
      have ha : a = a' := UInt8.toNat_inj.1 (by omega)
      have hb : b = b' := UInt8.toNat_inj.1 (by omega)
      rw [ha, hb]
    | plain | triple => cases hl
  | @triple a b c ha ha' hb hc =>
    cases h' with
    | @triple a' b' c' hd hd' hb' hc' =>
      rw [(mask_eq _).2.2.2, decide_eq_true_eq] at hb hb' hc hc'
      rw [toNat_tripleUnit, toNat_tripleUnit] at hu
      have ha : a = a' := UInt8.toNat_inj.1 (by omega)
      have hb : b = b' := UInt8.toNat_inj.1 (by omega)
      have hc : c = c' := UInt8.toNat_inj.1 (by omega)
      rw [ha, hb, hc]
    | plain | pair => cases hl

/-- The shortest group for a unit is the one that is written. -/
theorem Group.eq_encodeUnit (h : Group g u) (hs : Shortest g u) : g = encodeUnit u :=
  h.eq_of_length_eq (group_encodeUnit u) rfl ((shortest_iff_length h).1 hs)

theorem shortest_encodeUnit (u : UInt16) : Shortest (encodeUnit u) u :=
  (shortest_iff_length (group_encodeUnit u)).2 rfl

/-- Groups of which none is too long are what is written for some units. -/
theorem shortestGroups_iff : ShortestGroups bs ↔ ∃ us : List UInt16, us.flatMap encodeUnit = bs := by
  constructor
  · intro h
    induction h with
    | nil => exact ⟨[], rfl⟩
    | @cons g bs u hg hs _ ih =>
      obtain ⟨us, rfl⟩ := ih
      exact ⟨u :: us, by rw [List.flatMap_cons, hg.eq_encodeUnit hs]⟩
  · rintro ⟨us, rfl⟩
    induction us with
    | nil => exact .nil
    | cons u us ih =>
      rw [List.flatMap_cons]
      exact .cons (group_encodeUnit u) (shortest_encodeUnit u) ih

/-- What a text was read from is its written form exactly if none of the groups is too long. -/
theorem encode_eq_iff {s : String} (h : decode bs = .ok s) : encode s = bs ↔ ShortestGroups bs := by
  rw [shortestGroups_iff]
  constructor
  · rintro rfl
    exact ⟨_, rfl⟩
  · rintro ⟨us, rfl⟩
    rw [decode_eq_ok_iff, readInto_flatMap_encodeUnit] at h
    rw [encode, ← Except.ok.inj h]
    rfl

end ScriptProxy.Text.ModifiedUtf8
