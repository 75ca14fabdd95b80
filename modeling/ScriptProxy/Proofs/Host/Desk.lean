import Mathlib.Logic.Relation
import ScriptProxy.Host.Basic
import ScriptProxy.Proofs.Exchange.Custody

/-!
# A page and the handles for its objects

A `Desk` is a page with the custody of the handles that were given out for its objects. A handle is only
ever made for an object of the page that is no array, the holders clone and drop what they have, scripts
are evaluated, and pages are loaded. Wherever that leads, every handle that is held has an object of the
page, and that is no array: `Step.sound` is one step, and `Reachable.sound` any number of them. There is
room for another handle as long as not all slots are held: `Desk.Sound.exists_insert`.
-/

namespace ScriptProxy

open Exchange (Handle HandleTable Issue Custody)
open Script (Realm)

/-! ### Tables and custody -/

namespace Exchange

variable {α : Type} {c : Custody α}

/-- If there is not an object in every slot that a table can have, there is room for one more. -/
theorem HandleTable.Exact.exists_insert {t : HandleTable α} (hx : t.Exact)
    (hroom : t.sweep.occupied < HandleTable.capacity) (o : α) : ∃ k t', t.insert o = .ok (k, t') := by
  have hsweep := hx.sweep
  unfold HandleTable.insert
  dsimp only
  cases hfree : t.sweep.free with
  | cons slot free => exact ⟨_, _, rfl⟩
  | nil =>
    -- without a free slot, all of them have objects
    have hfull : t.sweep.occupied = t.sweep.slots.length := by
      refine List.countP_eq_length.2 fun slot hslot => ?_
      obtain ⟨i, hi⟩ := List.mem_iff_getElem?.1 hslot
      cases slot with
      | some o => rfl
      | none =>
        have hmem := hsweep.complete i hi
        rw [hfree] at hmem
        cases hmem
    rw [if_pos (hfull ▸ hroom)]
    exact ⟨_, _, rfl⟩

/-- A handle that is held with one clone more or less was held before. -/
theorem Custody.held_of_set {issued : List (Issue α)} {i m n g : Nat} {k : Handle}
    {o : α} (hi : issued[i]? = some ⟨k, o, n + 1⟩) {e' : Issue α}
    (he' : e' ∈ issued.set i ⟨k, o, m⟩) (hheld : e'.isHeld g = true) :
    ∃ e ∈ issued, e.isHeld g = true ∧ e.object = e'.object := by
  rcases List.mem_or_eq_of_mem_set he' with he' | rfl
  · exact ⟨e', he', hheld, rfl⟩
  · have hg := (Issue.isHeld_iff.1 hheld).2
    exact ⟨_, List.mem_of_getElem? hi, Issue.isHeld_iff.2 ⟨Nat.succ_ne_zero n, hg⟩, rfl⟩

/-- No handle is held for the page after the last one. -/
theorem Custody.Balanced.not_held_reset (hb : c.Balanced) {e : Issue α} (he : e ∈ c.issued) :
    ¬ e.isHeld (c.act .reset).table.generation = true := by
  intro hheld
  obtain ⟨hc, hg⟩ := Issue.isHeld_iff.1 hheld
  have hle := (hb.stands e he hc (hb.table e he)).1
  exact absurd (hg ▸ hle) (Nat.not_succ_le_self _)

/-- A handle that is held after something was done is one that was held before, or a new one. -/
theorem Custody.Balanced.held_of_act (hb : c.Balanced) (a : Custody.Act α) {e' : Issue α}
    (he' : e' ∈ (c.act a).issued) (hheld : e'.isHeld (c.act a).table.generation = true) :
    (∃ e ∈ c.issued, e.isHeld c.table.generation = true ∧ e.object = e'.object) ∨
      a = .insert e'.object := by
  cases a with
  | insert o =>
    dsimp only [Custody.act] at he' hheld
    cases hi : c.table.insert o with
    | error f =>
      rw [hi] at he' hheld
      exact .inl ⟨e', he', HandleTable.generation_sweep c.table ▸ hheld, rfl⟩
    | ok p =>
      rw [hi] at he' hheld
      have hg : p.2.generation = c.table.generation := (HandleTable.insert_frame hi).2.1
      rcases List.mem_append.1 he' with he' | he'
      · exact .inl ⟨e', he', hg ▸ hheld, rfl⟩
      · obtain rfl := List.mem_singleton.1 he'
        exact .inr rfl
  | clone i =>
    left
    dsimp only [Custody.act] at he' hheld
    split at he'
    · next hi => exact Custody.held_of_set hi he' (by simpa only [hi] using hheld)
    · next hi =>
      split at hheld
      · next hi' => exact absurd hi' (hi _ _ _)
      · exact ⟨e', he', hheld, rfl⟩
  | drop i =>
    left
    dsimp only [Custody.act] at he' hheld
    split at he'
    · next hi =>
      rw [hi] at hheld
      exact Custody.held_of_set hi he' (HandleTable.generation_release c.table _ ▸ hheld)
    · next hi => exact Custody.held_of_set hi he' (by simpa only [hi] using hheld)
    · next hlast hmore =>
      split at hheld
      · next hi => exact absurd hi (hlast _ _)
      · next hi => exact absurd hi (hmore _ _ _)
      · exact ⟨e', he', hheld, rfl⟩
  | sweep => exact .inl ⟨e', he', HandleTable.generation_sweep c.table ▸ hheld, rfl⟩
  | reset => exact absurd hheld (hb.not_held_reset he')

end Exchange

/-! ### What happens at a desk -/

/-- No object of a realm is lost, and none becomes an array or is one no more. -/
def Script.Realm.Retains (r r' : Realm) : Prop :=
  ∀ place o, r.object? place = some o → ∃ o', r'.object? place = some o' ∧ o'.isArray = o.isArray

/-- A page and the handles that were given out for its objects. -/
structure Desk where
  custody : Custody Nat
  page : Realm

namespace Desk

variable {d d' : Desk}

/-- What can happen at a desk. -/
inductive Step (d : Desk) : Desk → Prop
  | handOut {place : Nat} {o : Script.Object} (ho : d.page.object? place = some o)
    (hplain : o.isArray = false) : Step d { d with custody := d.custody.act (.insert place) }
  | clone (number : Nat) : Step d { d with custody := d.custody.act (.clone number) }
  | drop (number : Nat) : Step d { d with custody := d.custody.act (.drop number) }
  | sweep : Step d { d with custody := d.custody.act .sweep }
  | evaluate {page : Realm} (h : d.page.Retains page) : Step d { d with page }
  | load (page : Realm) : Step d ⟨d.custody.act .reset, page⟩

/-- Whatever has happened since there were no handles. -/
def Reachable (d : Desk) : Prop :=
  ∃ number page, Relation.ReflTransGen Step ⟨.start number, page⟩ d

/-- The handles are in order, and those that are held are for objects of the page that are no arrays. -/
structure Sound (d : Desk) : Prop where
  balanced : d.custody.Balanced
  objects : ∀ e ∈ d.custody.issued, e.isHeld d.custody.table.generation = true →
    ∃ o, d.page.object? e.object = some o ∧ o.isArray = false

theorem Sound.act (hd : d.Sound) (a : Custody.Act Nat)
    (ha : ∀ place, a = .insert place → ∃ o, d.page.object? place = some o ∧ o.isArray = false) :
    Sound { d with custody := d.custody.act a } where
  balanced := hd.balanced.act a
  objects := fun e he hheld => by
    obtain ⟨e₀, he₀, hheld₀, ho⟩ | ha' := hd.balanced.held_of_act a he hheld
    · exact ho ▸ hd.objects e₀ he₀ hheld₀
    · exact ha e.object ha'

theorem Step.sound (h : Step d d') (hd : d.Sound) : d'.Sound := by
  cases h with
  | handOut ho hplain =>
    refine hd.act _ fun place hp => ?_
    cases hp
    exact ⟨_, ho, hplain⟩
  | clone => exact hd.act _ nofun
  | drop => exact hd.act _ nofun
  | sweep => exact hd.act _ nofun
  | evaluate hr =>
    refine ⟨hd.balanced, fun e he hheld => ?_⟩
    obtain ⟨o, ho, hplain⟩ := hd.objects e he hheld
    obtain ⟨o', ho', hkind⟩ := hr _ o ho
    exact ⟨o', ho', hkind.trans hplain⟩
  | load page =>
    exact ⟨hd.balanced.act .reset, fun e he hheld => absurd hheld (hd.balanced.not_held_reset he)⟩

theorem Sound.steps (hd : d.Sound) (h : Relation.ReflTransGen Step d d') : d'.Sound := by
  induction h with
  | refl => exact hd
  | tail _ hstep ih => exact hstep.sound ih

theorem Reachable.sound (h : d.Reachable) : d.Sound := by
  obtain ⟨number, page, h⟩ := h
  have hstart : Sound ⟨.start number, page⟩ := ⟨Custody.balanced_start number, nofun⟩
  exact hstart.steps h

theorem Reachable.steps (h : d.Reachable) (hsteps : Relation.ReflTransGen Step d d') : d'.Reachable := by
  obtain ⟨number, page, h⟩ := h
  exact ⟨number, page, h.trans hsteps⟩

/-! ### The handles that are held -/

/-- The handle is held, is one of the present page, and is for the object at a place. -/
def LeadsTo (d : Desk) (k : Handle) (place : Nat) : Prop :=
  ∃ e ∈ d.custody.issued, e.handle = k ∧ e.object = place ∧
    e.isHeld d.custody.table.generation = true

/-- The handle is held, and is one of the present page. -/
def Live (d : Desk) (k : Handle) : Prop := ∃ place, d.LeadsTo k place

/-- The number of handles of the present page that are held. -/
def held (d : Desk) : Nat := d.custody.issued.countP (·.isHeld d.custody.table.generation)

theorem Sound.get? {k : Handle} {place : Nat} (hd : d.Sound) (h : d.LeadsTo k place) :
    d.custody.table.get? k = some place := by
  obtain ⟨e, he, rfl, rfl, hheld⟩ := h
  exact hd.balanced.get? he hheld

theorem Sound.object? {k : Handle} {place : Nat} (hd : d.Sound) (h : d.LeadsTo k place) :
    ∃ o, d.page.object? place = some o ∧ o.isArray = false := by
  obtain ⟨e, he, -, rfl, hheld⟩ := h
  exact hd.objects e he hheld

theorem Sound.occupied (hd : d.Sound) : d.custody.table.sweep.occupied = d.held :=
  hd.balanced.occupied_sweep

/-! ### Handing out -/

/-- A number of handles has been handed out, and nothing else was done. -/
structure HandsOut (d : Desk) (n : Nat) (d' : Desk) : Prop where
  steps : Relation.ReflTransGen Step d d'
  page : d'.page = d.page
  held : d'.held = d.held + n
  leads : ∀ {k place}, d.LeadsTo k place → d'.LeadsTo k place

theorem HandsOut.refl (d : Desk) : d.HandsOut 0 d := ⟨.refl, rfl, rfl, id⟩

theorem HandsOut.trans {d₁ : Desk} {m n : Nat} (h : d.HandsOut m d₁) (h' : d₁.HandsOut n d') :
    d.HandsOut (m + n) d' where
  steps := h.steps.trans h'.steps
  page := h'.page.trans h.page
  held := by rw [h'.held, h.held, Nat.add_assoc]
  leads := fun hk => h'.leads (h.leads hk)

/-- As long as not every slot that there can be is held, an object gets a handle. -/
theorem Sound.exists_insert {place : Nat} {o : Script.Object} (hd : d.Sound)
    (ho : d.page.object? place = some o) (hplain : o.isArray = false)
    (hroom : d.held < HandleTable.capacity) :
    ∃ k d', d.custody.table.insert place = .ok (k, d'.custody.table) ∧ d.HandsOut 1 d' ∧
      d'.LeadsTo k place := by
  obtain ⟨k, t, hi⟩ := hd.balanced.exact.exists_insert (hd.occupied ▸ hroom) place
  obtain ⟨-, hg, -, hkg⟩ := HandleTable.insert_frame hi
  have hact : d.custody.act (.insert place) = ⟨t, d.custody.issued ++ [⟨k, place, 1⟩]⟩ := by
    simp only [Custody.act, hi]
  have hstep := Step.handOut ho hplain
  rw [hact] at hstep
  refine ⟨k, _, hi, ⟨.single hstep, rfl, ?_, ?_⟩, ?_⟩
  · simp [held, hg, List.countP_append, Issue.isHeld, hkg]
  · rintro k' place' ⟨e, he, hk, hp, hheld⟩
    exact ⟨e, List.mem_append_left _ he, hk, hp, hg.symm ▸ hheld⟩
  · exact ⟨⟨k, place, 1⟩, by simp, rfl, rfl, Issue.isHeld_iff.2 ⟨one_ne_zero, hkg.trans hg.symm⟩⟩

end Desk

end ScriptProxy
