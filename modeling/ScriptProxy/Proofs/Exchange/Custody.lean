import Mathlib.Algebra.BigOperators.Group.Finset.Piecewise
import Mathlib.Data.List.Perm.Basic
import ScriptProxy.Proofs.Exchange.HandleTable

/-!
# Custody of handles

Whoever has a handle can clone it, and its slot is released with the last clone. A `Custody` is a
table with all handles that it has given out, on which objects are inserted, handles cloned and
dropped, and the table swept and reset, in any order. What every step preserves is a balance, slot
by slot: a slot has an object exactly if one handle of the present generation is held for it, or
else one release of it waits for the next sweep.
-/

namespace ScriptProxy.Exchange

variable {α : Type}

namespace HandleTable

variable {t t' : HandleTable α} {k : Handle} {o : α}

/-! ### The free slots -/

/-- The free slots are the slots without an object, each of them once. -/
structure Exact (t : HandleTable α) : Prop extends WellFormed t where
  complete : ∀ i, t.slots[i]? = some none → i ∈ t.free

theorem Exact.mem_free (hx : t.Exact) (i : Nat) : i ∈ t.free ↔ t.slots[i]? = some none :=
  ⟨hx.vacant i, hx.complete i⟩

theorem exact_start (number : Nat) : (start number : HandleTable α).Exact :=
  ⟨wellFormed_start number, by simp [start]⟩

theorem exact_reset (t : HandleTable α) : t.reset.Exact :=
  ⟨wellFormed_reset t, by simp [reset]⟩

theorem Exact.release (hx : t.Exact) (h : Handle) : (t.release h).Exact := by
  refine ⟨hx.toWellFormed.release h, ?_⟩
  unfold HandleTable.release
  split <;> exact hx.complete

theorem Exact.vacate (hx : t.Exact) (i : Nat) : (t.vacate i).Exact := by
  refine ⟨hx.toWellFormed.vacate i, fun j hj => ?_⟩
  unfold HandleTable.vacate at hj ⊢
  split at hj
  · rcases eq_or_ne i j with rfl | hij
    · exact List.mem_cons_self
    · rw [List.getElem?_set_ne hij] at hj
      exact List.mem_cons_of_mem _ (hx.complete j hj)
  · exact hx.complete j hj

theorem Exact.sweep (hx : t.Exact) : t.sweep.Exact := by
  have swept (released : List (Nat × Nat)) (t : HandleTable α) (hx : t.Exact) :
      (t.sweptOf released).Exact := by
    induction released generalizing t with
    | nil => exact hx
    | cons p released ih =>
      rw [sweptOf_cons]
      split
      · exact ih _ (hx.vacate p.2)
      · exact ih _ hx
  exact swept t.released { t with released := [] } ⟨⟨hx.nodup, hx.vacant⟩, hx.complete⟩

/-! ### The slots with an object -/

/-- The number of objects in a slot, which is zero or one. -/
def filled (t : HandleTable α) (i : Nat) : Nat := if t.slots[i]?.join.isSome then 1 else 0

/-- The number of releases of a slot that the next sweep is going to find. -/
def due (t : HandleTable α) (i : Nat) : Nat := t.released.count (t.generation, i)

theorem filled_le_one (t : HandleTable α) (i : Nat) : t.filled i ≤ 1 := by
  unfold filled
  split <;> simp

theorem occupied_eq_sum (t : HandleTable α) :
    t.occupied = ∑ i ∈ Finset.range t.slots.length, t.filled i := by
  unfold occupied filled
  induction t.slots with
  | nil => rfl
  | cons o slots ih =>
    rw [List.length_cons, Finset.sum_range_succ', List.countP_cons, ih]
    rfl

theorem filled_release (t : HandleTable α) (h : Handle) (i : Nat) :
    (t.release h).filled i = t.filled i := by
  unfold filled release
  split <;> rfl

theorem due_release {h : Handle} (hn : h.table = t.number) (i : Nat) :
    (t.release h).due i =
      t.due i + if h.generation = t.generation ∧ h.slot = i then 1 else 0 := by
  unfold due
  rw [generation_release, release, if_pos hn, List.count_append, List.count_singleton]
  simp

theorem filled_vacate (t : HandleTable α) (i j : Nat) :
    (t.vacate j).filled i = if i = j then 0 else t.filled i := by
  split
  · next hij =>
    subst hij
    unfold filled vacate
    split
    · next hi => simp [List.getElem?_set_self (List.getElem?_eq_some_iff.1 hi).1]
    · next hi =>
      match hs : t.slots[i]? with
      | none | some none => simp
      | some (some o) => exact absurd hs (hi o)
  · next hij => rw [filled, slots_vacate_of_ne (Ne.symm hij), filled]

/-- A sweep takes away what was released. -/
theorem filled_sweep {n : Nat → Nat} (hn : ∀ i, n i + t.due i = t.filled i) (i : Nat) :
    t.sweep.filled i = n i := by
  have swept (released : List (Nat × Nat)) (t : HandleTable α)
      (hn : ∀ i, n i + released.count (t.generation, i) = t.filled i) (i : Nat) :
      (t.sweptOf released).filled i = n i := by
    induction released generalizing t with
    | nil => exact (hn i).symm
    | cons p released ih =>
      obtain ⟨g, j⟩ := p
      rw [sweptOf_cons]
      split
      · next hg =>
        dsimp only at hg
        subst hg
        refine ih _ fun i => ?_
        have hi := hn i
        rw [filled_vacate, generation_vacate]
        split
        · next hij =>
          subst hij
          have hle := t.filled_le_one i
          rw [List.count_cons_self] at hi
          omega
        · next hij =>
          rwa [List.count_cons_of_ne (by simpa using Ne.symm hij)] at hi
      · next hg =>
        refine ih _ fun i => ?_
        have hi := hn i
        rwa [List.count_cons_of_ne (fun h => hg (Prod.mk.inj h).1)] at hi
  exact swept t.released { t with released := [] } hn i

/-- An object is put into a slot that a sweep has left without one. -/
theorem Exact.insert (hx : t.Exact) (hi : t.insert o = .ok (k, t')) :
    t'.Exact ∧ t'.released = [] ∧
      ∀ i, t'.filled i = t.sweep.filled i + if k.slot = i then 1 else 0 := by
  have hw := (hx.toWellFormed.insert hi).wellFormed
  have hsw := hx.sweep
  unfold HandleTable.insert at hi
  dsimp only at hi
  split at hi
  · next j free hf =>
    obtain ⟨rfl, rfl⟩ := Prod.mk.inj (Except.ok.inj hi)
    have hv := hsw.vacant j (hf ▸ List.mem_cons_self)
    have hj := (List.getElem?_eq_some_iff.1 hv).1
    refine ⟨⟨hw, fun i hi => ?_⟩, released_sweep t, fun i => ?_⟩
    · dsimp only at hi ⊢
      rcases eq_or_ne j i with rfl | hij
      · rw [List.getElem?_set_self hj] at hi
        cases hi
      · rw [List.getElem?_set_ne hij] at hi
        exact (List.mem_cons.1 (hf ▸ hsw.complete i hi)).resolve_left (Ne.symm hij)
    · unfold filled
      rcases eq_or_ne j i with rfl | hij
      · rw [hv, List.getElem?_set_self hj]
        simp
      · simp [List.getElem?_set_ne hij, hij]
  · next hf =>
    split at hi
    · obtain ⟨rfl, rfl⟩ := Prod.mk.inj (Except.ok.inj hi)
      refine ⟨⟨hw, fun i hi => ?_⟩, released_sweep t, fun i => ?_⟩
      · dsimp only at hi ⊢
        refine hsw.complete i ?_
        rw [List.getElem?_append] at hi
        split at hi
        · exact hi
        · simp [List.getElem?_singleton] at hi
      · unfold filled
        dsimp only
        rw [List.getElem?_append]
        split
        · next hlt => simp [Nat.ne_of_gt hlt]
        · next hlt =>
          rw [List.getElem?_eq_none (Nat.le_of_not_lt hlt), List.getElem?_singleton]
          rcases eq_or_ne t.sweep.slots.length i with rfl | hne
          · simp
          · have : i - t.sweep.slots.length ≠ 0 := by omega
            simp [hne, this]
    · cases hi

end HandleTable

/-! ### Handles and their clones -/

/-- A handle that has been given out, the object that it was made for, and how many clones of it
there are, the first one included. -/
structure Issue (α : Type) where
  handle : Handle
  object : α
  clones : Nat
  deriving DecidableEq, Repr

/-- Whether there is a clone of the handle, and the handle is one of the generation. -/
def Issue.isHeld (generation : Nat) (e : Issue α) : Bool :=
  e.clones != 0 && e.handle.generation == generation

@[simp] theorem Issue.isHeld_iff {generation : Nat} {e : Issue α} :
    e.isHeld generation = true ↔ e.clones ≠ 0 ∧ e.handle.generation = generation := by
  simp [isHeld]

/-- A table with all the handles that it has given out, in the order in which it has. -/
structure Custody (α : Type) where
  table : HandleTable α
  issued : List (Issue α)
  deriving DecidableEq, Repr

/-- What can be done with a table and with the handles that it has given out, which are counted from
zero. -/
inductive Custody.Act (α : Type) where
  | insert (object : α)
  | clone (number : Nat)
  | drop (number : Nat)
  | sweep
  | reset
  deriving DecidableEq, Repr

namespace Custody

open HandleTable (filled due)

def start (number : Nat) : Custody α := ⟨.start number, []⟩

/-- A handle without clones can neither be cloned nor dropped. Its slot has been released with the
last of them. -/
def act (c : Custody α) : Act α → Custody α
  | .insert o =>
    match c.table.insert o with
    | .ok (h, t) => ⟨t, c.issued ++ [⟨h, o, 1⟩]⟩
    | .error _ => { c with table := c.table.sweep }
  | .clone i =>
    match c.issued[i]? with
    | some ⟨h, o, n + 1⟩ => { c with issued := c.issued.set i ⟨h, o, n + 2⟩ }
    | _ => c
  | .drop i =>
    match c.issued[i]? with
    | some ⟨h, o, 1⟩ => ⟨c.table.release h, c.issued.set i ⟨h, o, 0⟩⟩
    | some ⟨h, o, n + 2⟩ => { c with issued := c.issued.set i ⟨h, o, n + 1⟩ }
    | _ => c
  | .sweep => { c with table := c.table.sweep }
  | .reset => { c with table := c.table.reset }

def runAll (acts : List (Act α)) (c : Custody α) : Custody α := acts.foldl act c

/-- The number of handles of the present generation that are held for a slot. -/
def held (c : Custody α) (i : Nat) : Nat :=
  c.issued.countP fun e => e.isHeld c.table.generation && e.handle.slot == i

/-- What is between the table and the handles that it has given out. Every object in a slot is
accounted for by one handle that is held, or by one release. -/
structure Balanced (c : Custody α) : Prop where
  exact : c.table.Exact
  table : ∀ e ∈ c.issued, e.handle.table = c.table.number
  stands : ∀ e ∈ c.issued, e.clones ≠ 0 → c.table.Stands e.handle e.object
  balance : ∀ i, c.held i + c.table.due i = c.table.filled i

variable {c : Custody α} {e e' : Issue α}

theorem balanced_start (number : Nat) : Balanced (start number : Custody α) where
  exact := HandleTable.exact_start number
  table := by simp [start]
  stands := by simp [start]
  balance := by simp [start, held, due, filled, HandleTable.start]

theorem perm_of_getElem? {i : Nat} (hi : c.issued[i]? = some e) :
    c.issued.Perm (e :: c.issued.eraseIdx i) := by
  obtain ⟨hlt, rfl⟩ := List.getElem?_eq_some_iff.1 hi
  exact (List.getElem_cons_eraseIdx_perm hlt).symm

namespace Balanced

/-- No two handles are held for a slot. -/
theorem slot_ne (hb : Balanced c) {i : Nat} (hi : c.issued[i]? = some e)
    (he' : e' ∈ c.issued.eraseIdx i) (h : e.isHeld c.table.generation = true)
    (h' : e'.isHeld c.table.generation = true) :
    e'.handle.slot ≠ e.handle.slot := by
  intro hs
  have hpos : 0 < (c.issued.eraseIdx i).countP fun e' =>
      e'.isHeld c.table.generation && e'.handle.slot == e.handle.slot :=
    List.countP_pos_iff.2 ⟨e', he', by simp [h', hs]⟩
  have hbal := hb.balance e.handle.slot
  have hle := c.table.filled_le_one e.handle.slot
  rw [held, (perm_of_getElem? hi).countP_eq, List.countP_cons_of_pos (by simp [h])] at hbal
  omega

theorem get? (hb : Balanced c) (he : e ∈ c.issued) (h : e.isHeld c.table.generation = true) :
    c.table.get? e.handle = some e.object := by
  obtain ⟨hc, hg⟩ := Issue.isHeld_iff.1 h
  rw [(hb.stands e he hc).get? (hb.table e he), if_pos hg]

theorem sweep (hb : Balanced c) : Balanced { c with table := c.table.sweep } where
  exact := hb.exact.sweep
  table := fun e he => (hb.table e he).trans (HandleTable.number_sweep _).symm
  stands := fun e he hc => (hb.stands e he hc).sweep
  balance := fun i => by
    rw [HandleTable.filled_sweep hb.balance, due, HandleTable.released_sweep, held, held,
      HandleTable.generation_sweep]
    rfl

/-- A handle of the generation before is none of the present one. -/
theorem reset (hb : Balanced c) : Balanced { c with table := c.table.reset } where
  exact := HandleTable.exact_reset _
  table := hb.table
  stands := fun e he hc => (hb.stands e he hc).reset
  balance := fun i => by
    have hheld : held { c with table := c.table.reset } i = 0 := by
      refine List.countP_eq_zero.2 fun e he h => ?_
      obtain ⟨hh, -⟩ := Bool.and_eq_true_iff.1 h
      obtain ⟨hc, hg⟩ := Issue.isHeld_iff.1 hh
      have hle := (hb.stands e he hc (hb.table e he)).1
      exact Nat.not_succ_le_self _ (hg ▸ hle)
    rw [hheld]
    rfl

theorem insert (hb : Balanced c) {o : α} {h : Handle} {t : HandleTable α}
    (hi : c.table.insert o = .ok (h, t)) : Balanced ⟨t, c.issued ++ [⟨h, o, 1⟩]⟩ := by
  obtain ⟨hx, hr, hf⟩ := hb.exact.insert hi
  obtain ⟨hn, hg, hht, hhg⟩ := HandleTable.insert_frame hi
  have hin := hb.exact.toWellFormed.insert hi
  refine ⟨hx, fun e he => ?_, fun e he hc => ?_, fun i => ?_⟩
  · rcases List.mem_append.1 he with he | he
    · exact (hb.table e he).trans hn.symm
    · obtain rfl := List.mem_singleton.1 he
      exact hht.trans hn.symm
  · rcases List.mem_append.1 he with he | he
    · exact (hin.others (hb.stands e he hc)).2
    · obtain rfl := List.mem_singleton.1 he
      exact hin.stands
  · rw [hf, HandleTable.filled_sweep hb.balance, due, hr, held, List.countP_append, hg]
    simp [held, List.countP_cons, Issue.isHeld, hhg]

/-- Another clone, or one less, but not the last. -/
theorem recount (hb : Balanced c) {i : Nat} {h : Handle} {o : α} {n : Nat}
    (hi : c.issued[i]? = some ⟨h, o, n + 1⟩) (m : Nat) :
    Balanced { c with issued := c.issued.set i ⟨h, o, m + 1⟩ } := by
  have hp := perm_of_getElem? hi
  have hp' := List.set_perm_cons_eraseIdx (List.getElem?_eq_some_iff.1 hi).1 ⟨h, o, m + 1⟩
  generalize c.issued.set i ⟨h, o, m + 1⟩ = issued at hp' ⊢
  have mem {e : Issue α} (he : e ∈ issued) : e = ⟨h, o, m + 1⟩ ∨ e ∈ c.issued :=
    (List.mem_cons.1 (hp'.mem_iff.1 he)).imp_right fun he => hp.mem_iff.2 (.tail _ he)
  have hmem : ⟨h, o, n + 1⟩ ∈ c.issued := hp.mem_iff.2 List.mem_cons_self
  have hn : h.table = c.table.number := hb.table _ hmem
  have hs : c.table.Stands h o := hb.stands _ hmem (Nat.succ_ne_zero n)
  refine ⟨hb.exact, fun e he => ?_, fun e he hc => ?_, fun i => ?_⟩
  · rcases mem he with rfl | he
    · exact hn
    · exact hb.table e he
  · rcases mem he with rfl | he
    · exact hs
    · exact hb.stands e he hc
  · rw [← hb.balance i, held, held, hp.countP_eq, hp'.countP_eq, List.countP_cons, List.countP_cons]
    rfl

/-- The last clone goes, and the object waits for the next sweep. -/
theorem release (hb : Balanced c) {i : Nat} {h : Handle} {o : α}
    (hi : c.issued[i]? = some ⟨h, o, 1⟩) :
    Balanced ⟨c.table.release h, c.issued.set i ⟨h, o, 0⟩⟩ := by
  have hp := perm_of_getElem? hi
  have hp' := List.set_perm_cons_eraseIdx (List.getElem?_eq_some_iff.1 hi).1 ⟨h, o, 0⟩
  generalize c.issued.set i ⟨h, o, 0⟩ = issued at hp' ⊢
  have hmem : ⟨h, o, 1⟩ ∈ c.issued := hp.mem_iff.2 List.mem_cons_self
  have mem {e : Issue α} (he : e ∈ issued) :
      e = ⟨h, o, 0⟩ ∨ e ∈ c.issued.eraseIdx i ∧ e ∈ c.issued :=
    (List.mem_cons.1 (hp'.mem_iff.1 he)).imp_right fun he => ⟨he, hp.mem_iff.2 (.tail _ he)⟩
  have hn : h.table = c.table.number := hb.table _ hmem
  refine ⟨hb.exact.release h, fun e he => ?_, fun e he hc => ?_, fun i => ?_⟩
  · rw [HandleTable.number_release]
    rcases mem he with rfl | ⟨-, he⟩
    · exact hn
    · exact hb.table e he
  · rcases mem he with rfl | ⟨hrest, he⟩
    · exact absurd rfl hc
    have hs := hb.stands e he hc
    -- A handle of another generation may have the same slot, but then the release is none of its.
    by_cases hg : e.handle.generation = c.table.generation
    · refine hs.release ?_
      rintro rfl
      exact hb.slot_ne hi hrest (by simp [hg]) (by simp [hc, hg]) rfl
    · intro ht
      rw [HandleTable.number_release] at ht
      rw [HandleTable.generation_release]
      exact ⟨(hs ht).1, fun h => absurd h hg⟩
  · have hbal := hb.balance i
    rw [held, hp.countP_eq, List.countP_cons] at hbal
    rw [held, hp'.countP_eq, List.countP_cons, HandleTable.filled_release,
      HandleTable.due_release hn, HandleTable.generation_release, ← hbal]
    simp only [Issue.isHeld, bne_self_eq_false, Bool.false_and, Bool.false_eq_true, ↓reduceIte,
      add_zero, Nat.reduceBNe, Bool.true_and, Bool.and_eq_true, beq_iff_eq]
    omega

/-- Every step keeps the balance. -/
theorem act (hb : Balanced c) (a : Act α) : Balanced (c.act a) := by
  cases a with
  | insert o =>
    dsimp only [Custody.act]
    split
    · next hi => exact hb.insert hi
    · exact hb.sweep
  | clone i =>
    dsimp only [Custody.act]
    split
    · next hi => exact hb.recount hi _
    · exact hb
  | drop i =>
    dsimp only [Custody.act]
    split
    · next hi => exact hb.release hi
    · next hi => exact hb.recount hi _
    · exact hb
  | sweep => exact hb.sweep
  | reset => exact hb.reset

theorem runAll (hb : Balanced c) (acts : List (Act α)) : Balanced (runAll acts c) := by
  induction acts generalizing c with
  | nil => exact hb
  | cons a acts ih => exact ih (hb.act a)

end Balanced

/-! ### What is left by a sweep -/

/-- Whatever is counted, one slot at a time. -/
theorem sum_countP {β : Type} (p : β → Bool) (slot : β → Nat) {n : Nat} {l : List β}
    (hl : ∀ b ∈ l, p b = true → slot b < n) :
    ∑ i ∈ Finset.range n, l.countP (fun b => p b && slot b == i) = l.countP p := by
  induction l with
  | nil => simp
  | cons b l ih =>
    obtain ⟨hb, hl⟩ := List.forall_mem_cons.1 hl
    simp only [List.countP_cons, Finset.sum_add_distrib, ih hl]
    congr 1
    cases hp : p b with
    | false => simp
    | true => simp [Finset.sum_ite_eq, hb hp]

/-- Behind a sweep, the objects are those of the handles that are held. -/
theorem Balanced.occupied_sweep (hb : Balanced c) :
    c.table.sweep.occupied = c.issued.countP (·.isHeld c.table.generation) := by
  have hs := hb.sweep
  have hlt : ∀ e ∈ c.issued, e.isHeld c.table.generation = true →
      e.handle.slot < c.table.sweep.slots.length := by
    intro e he h
    obtain ⟨hc, hg⟩ := Issue.isHeld_iff.1 h
    have hg' := hg.trans (HandleTable.generation_sweep c.table).symm
    have hslot := ((hs.stands e he hc (hs.table e he)).2 hg').1
    exact (List.getElem?_eq_some_iff.1 hslot).1
  rw [HandleTable.occupied_eq_sum, ← sum_countP _ (·.handle.slot) hlt]
  exact Finset.sum_congr rfl fun i _ => HandleTable.filled_sweep hb.balance i

/-- Whatever is done with a table and the handles that it gives out, the handles of the present page
that are held have slots of their own and lead to the objects they were made for, and no handle of an
earlier page leads to any. The free slots are the slots without an object, each of them once, and a
sweep leaves as many objects as there are handles of the present page that are held. -/
theorem custody_runAll (number : Nat) (acts : List (Act α)) :
    let c := runAll acts (start number)
    (∀ (i j : Nat) (e e' : Issue α), c.issued[i]? = some e → c.issued[j]? = some e' → i ≠ j →
      e.isHeld c.table.generation = true → e'.isHeld c.table.generation = true →
      e.handle.slot ≠ e'.handle.slot) ∧
    (∀ e ∈ c.issued, e.isHeld c.table.generation = true →
      c.table.get? e.handle = some e.object) ∧
    (∀ h : Handle, h.generation < c.table.generation → c.table.get? h = none) ∧
    (c.table.free.Nodup ∧ ∀ i, i ∈ c.table.free ↔ c.table.slots[i]? = some none) ∧
    c.table.sweep.occupied = c.issued.countP (·.isHeld c.table.generation) := by
  intro c
  have hb : Balanced c := (balanced_start number).runAll acts
  refine ⟨fun i j e e' hi hj hij h h' => ?_, fun e he h => hb.get? he h, fun h hg => ?_,
    ⟨hb.exact.nodup, hb.exact.mem_free⟩, hb.occupied_sweep⟩
  · have hmem := List.mem_eraseIdx_iff_getElem?.2 ⟨j, hij.symm, hj⟩
    exact (hb.slot_ne hi hmem h h').symm
  · rw [HandleTable.get?, if_neg (Nat.ne_of_lt hg)]

/-- A slot is used again when the last clone of its handle has gone, but not before. -/
example : (runAll [.insert 'a', .clone 0, .drop 0, .insert 'b', .drop 0, .insert 'c']
    (start 0)).issued.map (fun e => (e.handle.slot, e.object)) = [(0, 'a'), (1, 'b'), (0, 'c')] := by
  decide

end Custody

end ScriptProxy.Exchange
