import Mathlib.Logic.Relation
import ScriptProxy.Proofs.Exchange.HandleTable
import ScriptProxy.Proofs.Host.Frame
import ScriptProxy.Proofs.Script.Whole

/-!
# Pages refer to nothing that is not there

A host is `Whole` if its engine only refers to objects that are there, and so do its page and the
handles for the objects of the page. Loading pages, registering and calling functions, and letting go
of handles all keep it so. Wherever they lead, the page of a host is closed: `closed_of_reachable`.
-/

namespace ScriptProxy

open Exchange (Handle HandleTable)
open Outcome (left)
open Script (Evaluation Evaluator Realm nowhere)

/-! ### The objects of a table -/

namespace Exchange.HandleTable

variable {α : Type} {t t' : HandleTable α} {o : α}

/-- The object is in a slot of the table. -/
def Lists (t : HandleTable α) (o : α) : Prop := some o ∈ t.slots

theorem Lists.of_get? {k : Handle} (h : t.get? k = some o) : t.Lists o := by
  unfold get? at h
  split at h
  · exact List.mem_of_getElem? (Option.join_eq_some_iff.1 h)
  · cases h

theorem Lists.of_vacate {slot : Nat} (h : (t.vacate slot).Lists o) : t.Lists o := by
  unfold vacate at h
  split at h
  · rcases List.mem_or_eq_of_mem_set h with h | h
    · exact h
    · cases h
  · exact h

theorem Lists.of_sweptOf {released : List (Nat × Nat)} (h : (t.sweptOf released).Lists o) :
    t.Lists o := by
  induction released generalizing t with
  | nil => exact h
  | cons p rest ih =>
    rw [sweptOf_cons] at h
    split at h
    · exact (ih h).of_vacate
    · exact ih h

theorem Lists.of_sweep (h : t.sweep.Lists o) : t.Lists o := Lists.of_sweptOf (t := { t with released := [] }) h

theorem Lists.of_insert {k : Handle} {o' : α} (hi : t.insert o' = .ok (k, t')) (h : t'.Lists o) :
    o = o' ∨ t.Lists o := by
  unfold insert at hi
  dsimp only at hi
  split at hi
  · cases hi
    rcases List.mem_or_eq_of_mem_set h with h | h
    · exact .inr (Lists.of_sweep h)
    · exact .inl (Option.some.inj h)
  · split at hi
    · cases hi
      rcases List.mem_append.1 h with h | h
      · exact .inr (Lists.of_sweep h)
      · exact .inl (Option.some.inj (List.mem_singleton.1 h))
    · cases hi

theorem Lists.of_release {held : List Handle} (h : (held.foldl release t).Lists o) : t.Lists o := by
  induction held generalizing t with
  | nil => exact h
  | cons k held ih =>
    have h := ih h
    unfold release at h
    split at h <;> exact h

end Exchange.HandleTable

namespace Host

variable {α β : Type} {h h' h₁ : Host} {v : Script.Value} {namespaceName module name : String}
  {e : Evaluator} {r : Realm} {t : HandleTable Nat}

/-! ### Evaluations of a host -/

section Evaluations

open Script (Sound)

mutual
theorem sound_enter {r : Realm} (hr : r.Whole) (ht : ∀ place, t.Lists place → r.Has [place]) :
    (v : Exchange.Value) → Sound Script.Value.places (enter t v) r
  | .undefined | .null | .bool _ | .int _ | .double _ | .string _ | .textLike _ => .pure hr r.has_nil
  | .array vs => by
    rw [enter]
    exact (sound_enterAll hr ht vs).bind fun ws r' hg hws =>
      Script.Evaluation.sound_makeArray hg.whole hws
  | .object k => by
    rw [enter]
    refine .pure hr ?_
    cases hk : t.get? k with
    | some place => exact ht place (.of_get? hk)
    | none => exact r.has_nil

theorem sound_enterAll {r : Realm} (hr : r.Whole) (ht : ∀ place, t.Lists place → r.Has [place]) :
    (vs : List Exchange.Value) → Sound (List.flatMap Script.Value.places) (enterAll t vs) r
  | [] => .pure hr r.has_nil
  | v :: vs => by
    rw [enterAll]
    refine (sound_enter hr ht v).bind fun w r₁ hg hw => ?_
    refine (sound_enterAll hg.whole (fun place hp => hg.has (ht place hp)) vs).bind
      fun ws r₂ hg₂ hws => .pure hg₂.whole ?_
    rw [List.flatMap_cons]
    exact Realm.has_append.2 ⟨hg₂.has hw, hws⟩
end

variable (he : e.Respects) (hr : r.Whole)
include he hr

theorem sound_pageVariable (name : String) : Sound Script.Value.places (pageVariable e name) r :=
  Evaluator.sound_read he hr (by simpa using hr.base .globals) name

theorem sound_opening (scripts : List Page.Script) : Sound nowhere (opening e namespaceName scripts) r := by
  have hscripts : Sound nowhere (forIn scripts PUnit.unit fun s _ => do
      let _ ← e.run s.source
      pure (ForInStep.yield PUnit.unit)) r := by
    induction scripts generalizing r with
    | nil => exact .pure hr r.has_nil
    | cons s scripts ih =>
      rw [List.forIn_cons, bind_assoc]
      exact (he.run hr _).bind fun _ r₁ hg _ => ih hg.whole
  refine hscripts.bind fun _ r₁ hg _ => ?_
  refine (sound_pageVariable he hg.whole namespaceName).bind fun space r₂ hg₂ _ => ?_
  split
  · exact .pure hg₂.whole r₂.has_nil
  · exact (he.run hg₂.whole _).bind fun _ r₃ hg₃ _ => .pure hg₃.whole r₃.has_nil

theorem sound_module (b : Import.Binding) : Sound Script.Value.places (Host.module e namespaceName b) r := by
  refine (sound_pageVariable he hr namespaceName).bind fun space r₁ hg₁ hspace => ?_
  extract_lets put find
  have hput (m : Script.Value) (r₂ : Realm) (hg₂ : r₁.Grows r₂) (hm : r₂.Has m.places) :
      Sound Script.Value.places (put m) r₂ :=
    (Evaluator.sound_write he hg₂.whole (hg₂.has hspace) hm b.module).bind
      fun _ r₃ hg₃ _ => .pure hg₃.whole (hg₃.has hm)
  have hfind (u : PUnit) (r₂ : Realm) (hg₂ : r₁.Grows r₂) :
      Sound Script.Value.places (find u) r₂ := by
    refine (Evaluator.sound_read he hg₂.whole (hg₂.has hspace) b.module).bind fun found r₃ hg₃ hfound => ?_
    split
    · exact .pure hg₃.whole hfound
    have hg₃ := hg₂.trans hg₃
    refine (sound_pageVariable he hg₃.whole b.module).bind fun global r₄ hg₄ hglobal => ?_
    have hg₄ := hg₃.trans hg₄
    split
    · exact hput global r₄ hg₄ hglobal
    · exact (Evaluation.sound_makeObject hg₄.whole (by simp)).bind fun m r₅ hg₅ hm =>
        hput m r₅ (hg₄.trans hg₅) hm
  split
  · have hraise : Sound nowhere (Evaluation.raiseConversion space "object" : Evaluation Unit) r₁ :=
      Evaluation.sound_raiseConversion hg₁.whole _ _
    exact hraise.bind fun u r₂ hg₂ _ => hfind u r₂ hg₂
  · exact hfind () r₁ hg₁.whole.refl

theorem sound_installing (b : Import.Binding) : Sound nowhere (installing e namespaceName b) r := by
  refine (sound_module he hr b).bind fun m r₁ hg₁ hm => ?_
  split
  · exact .pure hg₁.whole r₁.has_nil
  · refine (he.run hg₁.whole _).bind fun f r₂ hg₂ hf => ?_
    exact Evaluator.sound_write he hg₂.whole (hg₂.has hm) hf b.name

/-- The places of what is found for a call. -/
def placesOfFound (found : Option (Script.Value × Script.Value)) : List Nat :=
  found.toList.flatMap fun p => p.1.places ++ p.2.places

theorem sound_function? : Sound placesOfFound (function? e namespaceName module name) r := by
  refine (sound_pageVariable he hr namespaceName).bind fun space r₁ hg₁ hspace => ?_
  extract_lets pick search
  have hpick (m : Script.Value) (r₂ : Realm) (hg₂ : r₁.Grows r₂) (hm : r₂.Has m.places) :
      Sound placesOfFound (pick m) r₂ := by
    simp only [pick]
    split
    · exact .pure hg₂.whole r₂.has_nil
    · refine (Evaluator.sound_read he hg₂.whole hm name).bind fun f r₃ hg₃ hf => ?_
      refine .get (.pure hg₃.whole ?_)
      split
      · simpa [placesOfFound] using ⟨hg₃.has hm, hf⟩
      · exact r₃.has_nil
  have hsearch (found : Script.Value) (r₂ : Realm) (hg₂ : r₁.Grows r₂) (hfound : r₂.Has found.places) :
      Sound placesOfFound (search found) r₂ := by
    simp only [search]
    split
    · exact hpick found r₂ hg₂ hfound
    · exact (sound_pageVariable he hg₂.whole module).bind fun m r₃ hg₃ hm =>
        hpick m r₃ (hg₂.trans hg₃) hm
  split
  · exact (Evaluator.sound_read he hg₁.whole hspace module).bind hsearch
  · exact hsearch .undefined r₁ hg₁.whole.refl r₁.has_nil

theorem grows_failureOf (hv : r.Has v.places) : r.Grows (failureOf e v r).2 := by
  have hm := Evaluator.sound_messageOf he hr hv
  unfold Sound at hm
  unfold failureOf
  cases h : e.messageOf v r with
  | ok message r₁ =>
    rw [h] at hm
    exact hm.1
  | error w r₁ =>
    rw [h] at hm
    exact hm.1

end Evaluations

/-! ### Whole hosts -/

/-- All the places are those of objects of the page, if there is one. -/
def Has (h : Host) (ps : List Nat) : Prop := ∀ r, h.page = some r → r.Has ps

/-- The engine, the page and the handles only refer to objects that are there. -/
structure Whole (h : Host) : Prop where
  engine : h.platform.engine.Respects
  page : ∀ r, h.page = some r → r.Whole
  handles : ∀ place, h.handles.Lists place → h.Has [place]

/-- The host is whole, and its page has what it had. -/
structure Grows (h h' : Host) : Prop where
  whole : h'.Whole
  has : ∀ {ps}, h.Has ps → h'.Has ps

theorem whole_of_unloaded (he : h.platform.engine.Respects) (hp : h.page = none) : h.Whole := by
  have absurd (r : Realm) : h.page ≠ some r := by simp [hp]
  exact ⟨he, fun r hr => (absurd r hr).elim, fun _ _ r hr => (absurd r hr).elim⟩

theorem Whole.refl (hh : h.Whole) : h.Grows h := ⟨hh, id⟩

theorem Grows.trans (hg : h.Grows h₁) (hg' : h₁.Grows h') : h.Grows h' :=
  ⟨hg'.whole, fun hp => hg'.has (hg.has hp)⟩

theorem has_nil (h : Host) : h.Has [] := fun r _ => r.has_nil

/-- The action leaves the host whole, and the places in what it gives are there. -/
def Sound (places : α → List Nat) (m : EStateM Failure Host α) (h : Host) : Prop :=
  Outcome.Ends Grows (fun a h' => h'.Has (places a)) (fun _ _ => True) h (m h)

variable {places : α → List Nat} {places' : β → List Nat}

theorem Sound.pure (hh : h.Whole) {a : α} (ha : h.Has (places a)) : Sound places (pure a) h :=
  ⟨hh.refl, ha⟩

theorem Sound.bind {m : EStateM Failure Host α} {f : α → EStateM Failure Host β}
    (hm : Sound places m h) (hf : ∀ a h', h.Grows h' → h'.Has (places a) → Sound places' (f a) h') :
    Sound places' (m >>= f) h := Outcome.Ends.bind (fun _ _ _ => .trans) hm hf

theorem Sound.get {f : Host → EStateM Failure Host α} (hf : Sound places (f h) h) :
    Sound places (get >>= f) h := hf

theorem Sound.grows {m : EStateM Failure Host α} (hm : Sound places m h) : h.Grows (left (m h)) := by
  unfold Sound at hm
  cases hx : m h with
  | ok a h' =>
    rw [hx] at hm
    exact hm.1
  | error f h' =>
    rw [hx] at hm
    exact hm.1

/-- What has become of a page becomes the page of the host. -/
theorem Whole.withRealm {r' : Realm} (hh : h.Whole) (hp : h.page = some r) (hg : r.Grows r') :
    h.Grows (h.withRealm r') where
  whole := by
    refine ⟨hh.engine, fun r₁ hp₁ => ?_, fun place hl r₁ hp₁ => ?_⟩
    · cases hp₁
      exact ⟨hg.whole.base, hg.whole.objects⟩
    · cases hp₁
      exact hg.has (hh.handles place hl r hp)
  has := fun hps r₁ hp₁ => by
    cases hp₁
    exact hg.has (hps r hp)

theorem sound_evaluating {m : Evaluator → Evaluation α} (hh : h.Whole)
    (hm : ∀ r, h.page = some r → Script.Sound places (m h.platform.engine) r) :
    Sound places (evaluating m) h := by
  unfold Sound evaluating
  cases hp : h.page with
  | none => exact ⟨hh.refl, trivial⟩
  | some r =>
    have hm := hm r hp
    unfold Script.Sound at hm
    dsimp only
    cases hr : m h.platform.engine r with
    | ok a r' =>
      rw [hr] at hm
      refine ⟨hh.withRealm hp hm.1, fun r₁ hp₁ => ?_⟩
      cases hp₁
      exact hm.2
    | error v r' =>
      rw [hr] at hm
      exact ⟨hh.withRealm hp (hm.1.trans (grows_failureOf hh.engine hm.1.whole hm.2)), trivial⟩

theorem sound_handOut {place : Nat} (hh : h.Whole) (hp : h.Has [place]) :
    Sound nowhere (handOut place) h := by
  unfold Sound handOut
  cases hi : h.handles.insert place with
  | error f => exact ⟨hh.refl, trivial⟩
  | ok p =>
    obtain ⟨k, t⟩ := p
    refine ⟨⟨⟨hh.engine, hh.page, fun place' hl => ?_⟩, id⟩, has_nil _⟩
    rcases hl.of_insert hi with rfl | hl
    · exact hp
    · exact hh.handles place' hl

theorem Whole.release (hh : h.Whole) (held : List Handle) : h.Grows (h.release held) :=
  ⟨⟨hh.engine, hh.page, fun place hl => hh.handles place hl.of_release⟩, id⟩

/-! ### Leaving and calling -/

theorem sound_leaveElements {leave : Script.Value → EStateM Failure Host Exchange.Value}
    (hleave : ∀ {v h}, h.Whole → h.Has v.places → Sound nowhere (leave v) h) (hh : h.Whole)
    (hv : h.Has v.places) (numbers : List Nat) : Sound nowhere (leaveElements leave v numbers) h := by
  induction numbers generalizing h with
  | nil => exact .pure hh h.has_nil
  | cons i rest ih =>
    unfold leaveElements
    refine (sound_evaluating hh fun r hp =>
      Evaluator.sound_element hh.engine (hh.page r hp) (hv r hp) i).bind fun x h₁ hg hx => ?_
    refine (hleave hg.whole hx).bind fun w h₂ hg₂ _ => ?_
    have hrest := ih hg₂.whole (hg₂.has (hg.has hv))
    unfold Sound at hrest ⊢
    dsimp only
    cases hx : leaveElements leave v rest h₂ with
    | ok ws h₃ =>
      rw [hx] at hrest
      exact ⟨hrest.1, h₃.has_nil⟩
    | error f h₃ =>
      rw [hx] at hrest
      exact ⟨hrest.1.trans (hrest.1.whole.release w.handles), trivial⟩

theorem sound_leaveWithin (depth : Nat) (hh : h.Whole) (hv : h.Has v.places) :
    Sound nowhere (leaveWithin depth v) h := by
  induction depth generalizing v h with
  | zero =>
    cases v with
    | object place =>
      rw [leaveWithin]
      refine .get ?_
      split
      · exact ⟨hh.refl, trivial⟩
      · exact sound_handOut hh hv
    | _ => exact .pure hh h.has_nil
  | succ depth ih =>
    cases v with
    | object place =>
      rw [leaveWithin]
      refine .get ?_
      split
      · refine (sound_evaluating hh fun r hp =>
          Evaluator.sound_lengthOf hh.engine (hh.page r hp) (hv r hp)).bind fun n h₁ hg _ => ?_
        exact (sound_leaveElements ih hg.whole (hg.has hv) _).bind fun ws h₂ hg₂ _ =>
          .pure hg₂.whole h₂.has_nil
      · exact sound_handOut hh hv
    | _ => exact .pure hh h.has_nil

theorem sound_leave (hh : h.Whole) (hv : h.Has v.places) : Sound nowhere (leave v) h :=
  sound_leaveWithin _ hh hv

theorem sound_entering (hh : h.Whole) (vs : List Exchange.Value) :
    Sound (List.flatMap Script.Value.places) (entering vs) h :=
  sound_evaluating (m := fun _ => enterAll h.handles vs) hh fun r hp =>
    sound_enterAll (hh.page r hp) (fun place hl => hh.handles place hl r hp) vs

theorem sound_register (hh : h.Whole) (b : Import.Binding) : Sound nowhere (register b) h :=
  sound_evaluating (m := (installing · h.config.namespaceName b)) hh fun r hp =>
    sound_installing hh.engine (hh.page r hp) b

theorem sound_invoke (hh : h.Whole) (module name : String) (args : List Exchange.Value) :
    Sound nowhere (invoke module name args) h := by
  refine Sound.bind (m := evaluating (function? · h.config.namespaceName module name))
    (sound_evaluating hh fun r hp => sound_function? hh.engine (hh.page r hp)) fun found h₁ hg₁ hfound => ?_
  split
  · exact ⟨hg₁.whole.refl, trivial⟩
  · next m f =>
    have hfound (r : Realm) (hp : h₁.page = some r) : r.Has m.places ∧ r.Has f.places := by
      simpa [placesOfFound] using hfound r hp
    refine (sound_entering hg₁.whole args).bind fun vs h₂ hg₂ hvs => ?_
    refine (sound_evaluating hg₂.whole fun r hp => ?_).bind fun v h₃ hg₃ hv => sound_leave hg₃.whole hv
    exact hg₂.whole.engine.call (hg₂.whole.page r hp) (hg₂.has (fun r hp => (hfound r hp).2) r hp)
      (hg₂.has (fun r hp => (hfound r hp).1) r hp) (hvs r hp)

theorem sound_evaluate (hh : h.Whole) (text : String) : Sound nowhere (evaluate text) h :=
  (sound_evaluating hh fun r hp => hh.engine.run (hh.page r hp) text).bind fun _ _ hg hv =>
    sound_leave hg.whole hv

/-! ### Loading -/

theorem Whole.fresh (hh : h.Whole) : h.fresh.Whole where
  engine := hh.engine
  page := fun r hp => by
    obtain rfl := Option.some.inj hp
    exact Realm.whole_start _
  handles := fun place hl => by cases hl

theorem Whole.load (hh : h.Whole) (page : Page.Source) : (left (load page h)).Whole := by
  rw [load_eq]
  split
  · exact hh
  split
  · exact whole_of_unloaded hh.engine rfl
  · next scripts _ =>
    have hopen := sound_evaluating (m := (opening · h.config.namespaceName scripts)) hh.fresh fun r hp =>
      sound_opening hh.engine (hh.fresh.page r hp) scripts
    unfold Sound at hopen
    split
    · next hx =>
      rw [hx] at hopen
      exact hopen.1.whole
    · next hx =>
      rw [hx] at hopen
      exact whole_of_unloaded hopen.1.whole.engine rfl

theorem Whole.liveHandles (hh : h.Whole) : (left (liveHandles h)).Whole :=
  ⟨hh.engine, hh.page, fun place hl => hh.handles place (Exchange.HandleTable.Lists.of_sweep hl)⟩

/-! ### Whatever a host does -/

/-- What a host can do. -/
inductive Step (h : Host) : Host → Prop
  | load (page : Page.Source) : Step h (left (load page h))
  | register (b : Import.Binding) : Step h (left (register b h))
  | invoke (module name : String) (args : List Exchange.Value) : Step h (left (invoke module name args h))
  | evaluate (text : String) : Step h (left (evaluate text h))
  | release (held : List Handle) : Step h (h.release held)
  | liveHandles : Step h (left (liveHandles h))

theorem Step.whole (hs : Step h h') (hh : h.Whole) : h'.Whole := by
  cases hs with
  | load page => exact hh.load page
  | register b => exact (sound_register hh b).grows.whole
  | invoke module name args => exact (sound_invoke hh module name args).grows.whole
  | evaluate text => exact (sound_evaluate hh text).grows.whole
  | release held => exact (hh.release held).whole
  | liveHandles => exact hh.liveHandles

theorem Whole.steps (hh : h.Whole) (hs : Relation.ReflTransGen Step h h') : h'.Whole := by
  induction hs with
  | refl => exact hh
  | tail _ hstep ih => exact hstep.whole ih

/-- The page of a host is closed, whatever the host has done. -/
theorem closed_of_reachable {config : Import.Config} {platform : Platform} {number : Nat}
    (he : platform.engine.Respects)
    (hs : Relation.ReflTransGen Step (start config platform number) h) (hp : h.page = some r) : r.Closed :=
  ((whole_of_unloaded he rfl).steps hs).page r hp |>.closed

end Host

end ScriptProxy
