import ScriptProxy.Exchange.Handle

/-!
# What a handle table keeps

A handle that has been given out and not been released stands for its object as long as its
generation lasts, whatever is done with the table meanwhile: `Stands`, with one lemma for each
operation of a table. What makes it so is that no slot with an object is free: `WellFormed`.
-/

namespace ScriptProxy.Exchange.HandleTable

variable {α : Type} {t : HandleTable α} {h k : Handle} {o o' : α}

/-- The free slots are without objects, and each of them is free once. -/
structure WellFormed (t : HandleTable α) : Prop where
  nodup : t.free.Nodup
  vacant : ∀ i ∈ t.free, t.slots[i]? = some none

/-- The handle stands for the object, if it is one of the table. A handle of the present generation
has its object in its slot and has not been released since the last sweep. -/
def Stands (t : HandleTable α) (k : Handle) (o : α) : Prop :=
  k.table = t.number → k.generation ≤ t.generation ∧
    (k.generation = t.generation →
      t.slots[k.slot]? = some (some o) ∧ (k.generation, k.slot) ∉ t.released)

/-- A handle is followed to its object as long as its generation lasts, and to nothing later. -/
theorem Stands.get? (hs : t.Stands k o) (ht : k.table = t.number) :
    t.get? k = if k.generation = t.generation then some o else none := by
  unfold HandleTable.get?
  split
  · next hg => rw [((hs ht).2 hg).1]; rfl
  · rfl

theorem Stands.of_table_ne (ht : k.table ≠ t.number) : t.Stands k o := fun h => absurd h ht

theorem wellFormed_start (number : Nat) : (start number : HandleTable α).WellFormed :=
  ⟨.nil, by simp [start]⟩

theorem wellFormed_reset (t : HandleTable α) : t.reset.WellFormed := ⟨.nil, by simp [reset]⟩

theorem Stands.reset (hs : t.Stands k o) : t.reset.Stands k o := by
  intro ht
  have hg := (hs ht).1
  refine ⟨Nat.le_succ_of_le hg, fun h => ?_⟩
  change k.generation = t.generation + 1 at h
  omega

@[simp] theorem number_release (t : HandleTable α) (h : Handle) :
    (t.release h).number = t.number := by
  unfold release
  split <;> rfl

theorem WellFormed.release (hw : t.WellFormed) (h : Handle) : (t.release h).WellFormed := by
  unfold HandleTable.release
  split
  · exact ⟨hw.nodup, hw.vacant⟩
  · exact hw

/-- Another handle that is released leaves a handle as it is. -/
theorem Stands.release (hs : t.Stands k o) (hk : k ≠ h) : (t.release h).Stands k o := by
  unfold HandleTable.release
  split
  · next hh =>
    intro ht
    obtain ⟨hle, hcur⟩ := hs ht
    refine ⟨hle, fun hg => ⟨(hcur hg).1, ?_⟩⟩
    rw [List.mem_append, List.mem_singleton]
    rintro (hm | hm)
    · exact (hcur hg).2 hm
    · obtain ⟨kt, kg, ks⟩ := k
      obtain ⟨ht', hg', hs'⟩ := h
      obtain ⟨rfl, rfl⟩ := Prod.mk.inj hm
      exact hk (by rw [show kt = ht' from ht.trans hh.symm])
  · exact hs

@[simp] theorem generation_release (t : HandleTable α) (h : Handle) :
    (t.release h).generation = t.generation := by
  unfold release
  split <;> rfl

/-- Several handles that are released at once leave the others as they are. -/
theorem foldl_release (held : List Handle) (t : HandleTable α) :
    (held.foldl release t).number = t.number ∧ (held.foldl release t).generation = t.generation ∧
      (t.WellFormed → (held.foldl release t).WellFormed) ∧
      ∀ k o, t.Stands k o → k ∉ held → (held.foldl release t).Stands k o := by
  induction held generalizing t with
  | nil => exact ⟨rfl, rfl, id, fun _ _ hs _ => hs⟩
  | cons h held ih =>
    obtain ⟨hn, hg, hw, hs⟩ := ih (t.release h)
    refine ⟨hn.trans (number_release t h), hg.trans (generation_release t h),
      fun hw' => hw (hw'.release h), fun k o hk hm => ?_⟩
    obtain ⟨hne, hm⟩ := not_or.1 (mt List.mem_cons.2 hm)
    exact hs k o (hk.release hne) hm

/-! ### Sweeping -/

@[simp] theorem number_vacate (t : HandleTable α) (i : Nat) : (t.vacate i).number = t.number := by
  unfold vacate
  split <;> rfl

@[simp] theorem generation_vacate (t : HandleTable α) (i : Nat) :
    (t.vacate i).generation = t.generation := by
  unfold vacate
  split <;> rfl

@[simp] theorem released_vacate (t : HandleTable α) (i : Nat) :
    (t.vacate i).released = t.released := by
  unfold vacate
  split <;> rfl

theorem WellFormed.vacate (hw : t.WellFormed) (i : Nat) : (t.vacate i).WellFormed := by
  unfold HandleTable.vacate
  split
  · next hi =>
    have hn : i ∉ t.free := fun hm => by simp [hw.vacant i hm] at hi
    refine ⟨List.nodup_cons.2 ⟨hn, hw.nodup⟩, fun j hj => ?_⟩
    dsimp only
    rw [List.getElem?_set]
    rcases List.mem_cons.1 hj with rfl | hj
    · rw [if_pos rfl, if_pos (List.getElem?_eq_some_iff.1 hi).1]
    · rw [if_neg (by rintro rfl; exact hn hj), hw.vacant j hj]
  · exact hw

theorem slots_vacate_of_ne {i j : Nat} (hij : i ≠ j) : (t.vacate i).slots[j]? = t.slots[j]? := by
  unfold vacate
  split
  · exact List.getElem?_set_ne hij
  · rfl

/-- The part of a sweep that is done with some of the released handles. -/
def sweptOf (t : HandleTable α) (released : List (Nat × Nat)) : HandleTable α :=
  released.foldl (fun t (generation, slot) =>
    if generation = t.generation then t.vacate slot else t) t

theorem sweptOf_cons (t : HandleTable α) (p : Nat × Nat) (released : List (Nat × Nat)) :
    t.sweptOf (p :: released) =
      (if p.1 = t.generation then t.vacate p.2 else t).sweptOf released := rfl

theorem wellFormed_sweptOf (hw : t.WellFormed) (released : List (Nat × Nat)) :
    (t.sweptOf released).WellFormed := by
  induction released generalizing t with
  | nil => exact hw
  | cons p released ih =>
    rw [sweptOf_cons]
    split
    · exact ih (hw.vacate p.2)
    · exact ih hw

/-- A sweep changes no slot but those of released handles. -/
theorem sweptOf_frame (t : HandleTable α) (released : List (Nat × Nat)) :
    (t.sweptOf released).number = t.number ∧ (t.sweptOf released).generation = t.generation ∧
      (t.sweptOf released).released = t.released ∧
      ∀ i, (t.generation, i) ∉ released → (t.sweptOf released).slots[i]? = t.slots[i]? := by
  induction released generalizing t with
  | nil => exact ⟨rfl, rfl, rfl, fun _ _ => rfl⟩
  | cons p released ih =>
    obtain ⟨g, j⟩ := p
    rw [sweptOf_cons]
    split
    · next hg =>
      obtain ⟨hn, hg', hr, hs⟩ := ih (t.vacate j)
      rw [number_vacate] at hn
      rw [generation_vacate] at hg' hs
      rw [released_vacate] at hr
      refine ⟨hn, hg', hr, fun i hi => ?_⟩
      obtain ⟨hij, hi⟩ := not_or.1 (mt List.mem_cons.2 hi)
      rw [hs i hi, slots_vacate_of_ne]
      rintro rfl
      exact hij (by rw [← hg])
    · obtain ⟨hn, hg', hr, hs⟩ := ih t
      exact ⟨hn, hg', hr, fun i hi => hs i (mt (List.mem_cons_of_mem _) hi)⟩

@[simp] theorem number_sweep (t : HandleTable α) : t.sweep.number = t.number :=
  (sweptOf_frame { t with released := [] } t.released).1

@[simp] theorem generation_sweep (t : HandleTable α) : t.sweep.generation = t.generation :=
  (sweptOf_frame { t with released := [] } t.released).2.1

@[simp] theorem released_sweep (t : HandleTable α) : t.sweep.released = [] :=
  (sweptOf_frame { t with released := [] } t.released).2.2.1

theorem slots_sweep {i : Nat} (hi : (t.generation, i) ∉ t.released) :
    t.sweep.slots[i]? = t.slots[i]? :=
  (sweptOf_frame { t with released := [] } t.released).2.2.2 i hi

theorem WellFormed.sweep (hw : t.WellFormed) : t.sweep.WellFormed :=
  wellFormed_sweptOf (t := { t with released := [] }) ⟨hw.nodup, hw.vacant⟩ t.released

theorem Stands.sweep (hs : t.Stands k o) : t.sweep.Stands k o := by
  intro ht
  rw [number_sweep] at ht
  obtain ⟨hle, hcur⟩ := hs ht
  rw [generation_sweep, released_sweep]
  refine ⟨hle, fun hg => ?_⟩
  obtain ⟨hslot, hrel⟩ := hcur hg
  rw [slots_sweep (hg ▸ hrel)]
  exact ⟨hslot, List.not_mem_nil⟩

/-! ### Making handles -/

/-- What the insertion of an object does: it makes a handle of the present generation. -/
theorem insert_frame {t' : HandleTable α} (hi : t.insert o = .ok (k, t')) :
    t'.number = t.number ∧ t'.generation = t.generation ∧
      k.table = t.number ∧ k.generation = t.generation := by
  unfold insert at hi
  dsimp only at hi
  split at hi
  · obtain ⟨rfl, rfl⟩ := Prod.mk.inj (Except.ok.inj hi)
    simp
  · split at hi
    · obtain ⟨rfl, rfl⟩ := Prod.mk.inj (Except.ok.inj hi)
      simp
    · cases hi

/-- The new handle stands for the object, and is none of those that stood for one before. Those
stay. -/
structure Inserted (t : HandleTable α) (o : α) (k : Handle) (t' : HandleTable α) : Prop where
  wellFormed : t'.WellFormed
  stands : t'.Stands k o
  others : ∀ {h : Handle} {o' : α}, t.Stands h o' → h ≠ k ∧ t'.Stands h o'

/-- An object that is put into a slot without one. -/
theorem Inserted.of_slot {i : Nat} {t' : HandleTable α} (hn : t'.number = t.number)
    (hg : t'.generation = t.generation) (hr : t'.released = []) (hw : t'.WellFormed)
    (hi : ∀ o', t.sweep.slots[i]? ≠ some (some o')) (hi' : t'.slots[i]? = some (some o))
    (hs : ∀ j, j ≠ i → ∀ o', t.sweep.slots[j]? = some (some o') → t'.slots[j]? = some (some o')) :
    Inserted t o ⟨t.number, t.generation, i⟩ t' where
  wellFormed := hw
  stands := fun _ => ⟨Nat.le_of_eq hg.symm, fun _ => ⟨hi', by simp [hr]⟩⟩
  others := fun {h o'} hh => by
    have hh := hh.sweep
    rw [Stands, number_sweep, generation_sweep] at hh
    have hne : h ≠ ⟨t.number, t.generation, i⟩ := by
      rintro rfl
      exact hi o' ((hh rfl).2 rfl).1
    refine ⟨hne, fun ht => ?_⟩
    rw [hn] at ht
    obtain ⟨hle, hcur⟩ := hh ht
    rw [hg, hr]
    refine ⟨hle, fun hg => ⟨hs _ ?_ o' (hcur hg).1, List.not_mem_nil⟩⟩
    rintro rfl
    exact hne (by rw [← ht, ← hg])

theorem WellFormed.insert (hw : t.WellFormed) {t' : HandleTable α}
    (hi : t.insert o = .ok (k, t')) : Inserted t o k t' := by
  have hsw := hw.sweep
  unfold HandleTable.insert at hi
  dsimp only at hi
  split at hi
  · next i free hf =>
    obtain ⟨rfl, rfl⟩ := Prod.mk.inj (Except.ok.inj hi)
    have hv := hsw.vacant i (hf ▸ List.mem_cons_self)
    have hnd := List.nodup_cons.1 (hf ▸ hsw.nodup)
    rw [number_sweep, generation_sweep]
    refine .of_slot rfl rfl (released_sweep t) ⟨hnd.2, ?_⟩ ?_ ?_ ?_
    · intro j hj
      rw [List.getElem?_set_ne (by rintro rfl; exact hnd.1 hj)]
      exact hsw.vacant j (hf ▸ List.mem_cons_of_mem _ hj)
    · simp [hv]
    · exact List.getElem?_set_self (List.getElem?_eq_some_iff.1 hv).1
    · exact fun j hj o' ho => by rwa [List.getElem?_set_ne hj.symm]
  · next hf =>
    split at hi
    · obtain ⟨rfl, rfl⟩ := Prod.mk.inj (Except.ok.inj hi)
      rw [number_sweep, generation_sweep]
      refine .of_slot rfl rfl (released_sweep t) ⟨hsw.nodup, ?_⟩ ?_ ?_ ?_
      · simp [hf]
      · simp
      · simp
      · intro j _ o' ho
        rw [List.getElem?_append_left (List.getElem?_eq_some_iff.1 ho).1]
        exact ho
    · cases hi

end ScriptProxy.Exchange.HandleTable
