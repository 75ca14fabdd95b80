import ScriptProxy.Proofs.Exchange.HandleTable
import ScriptProxy.Proofs.Host.Frame

/-!
# The handles that a host hands out

`made` tells which handles are made when a value leaves the engine, and for which objects. They are
the handles in the value outside, none of them was held before, and what was held before is held
afterwards: `leaves`. A value that cannot leave leaves no handle behind.
-/

namespace ScriptProxy.Host

open Exchange (Handle HandleTable)
open Outcome (left)
open Script (Evaluation Evaluator)

variable {α : Type} {h h₁ h' : Host} {N N' L : List (Handle × Nat)}

/-- The handles are held outside, each for an object. -/
structure Holds (h : Host) (L : List (Handle × Nat)) : Prop where
  wellFormed : h.handles.WellFormed
  stands : ∀ p ∈ L, h.handles.Stands p.1 p.2

/-- The host has given new handles out, and keeps what was held. -/
structure Gives (h : Host) (N : List (Handle × Nat)) (h' : Host) : Prop where
  config : h'.config = h.config
  platform : h'.platform = h.platform
  isLoaded : h'.isLoaded = h.isLoaded
  number : h'.handles.number = h.handles.number
  generation : h'.handles.generation = h.handles.generation
  handles : ∀ p ∈ N, p.1.table = h.handles.number ∧ p.1.generation = h.handles.generation
  fresh : ∀ {L}, h.Holds L → ∀ p ∈ N, ∀ q ∈ L, p.1 ≠ q.1
  holds : ∀ {L}, h.Holds L → h'.Holds (N ++ L)

namespace Gives

theorem of_kept (hk : Kept h h') : Gives h [] h' where
  config := hk.config
  platform := hk.platform
  isLoaded := hk.isLoaded
  number := by rw [hk.handles]
  generation := by rw [hk.handles]
  handles := by simp
  fresh := by simp
  holds := fun hl => ⟨hk.handles ▸ hl.wellFormed, hk.handles ▸ hl.stands⟩

theorem trans (hg : Gives h N h₁) (hg' : Gives h₁ N' h') : Gives h (N ++ N') h' where
  config := hg'.config.trans hg.config
  platform := hg'.platform.trans hg.platform
  isLoaded := hg'.isLoaded.trans hg.isLoaded
  number := hg'.number.trans hg.number
  generation := hg'.generation.trans hg.generation
  handles := fun p hp => by
    rcases List.mem_append.1 hp with hp | hp
    · exact hg.handles p hp
    · exact hg.number ▸ hg.generation ▸ hg'.handles p hp
  fresh := fun hl p hp q hq => by
    rcases List.mem_append.1 hp with hp | hp
    · exact hg.fresh hl p hp q hq
    · exact hg'.fresh (hg.holds hl) p hp q (List.mem_append_right _ hq)
  holds := fun {L} hl => by
    obtain ⟨hw, hs⟩ := hg'.holds (hg.holds hl)
    refine ⟨hw, fun p hp => hs p ?_⟩
    simp only [List.mem_append] at hp ⊢
    exact or_assoc.1 (hp.imp_left Or.symm)

end Gives

theorem Holds.release (hl : h.Holds L) (held : List Handle) :
    (h.release held).Holds (L.filter (·.1 ∉ held)) := by
  obtain ⟨-, -, hw, hs⟩ := HandleTable.foldl_release held h.handles
  refine ⟨hw hl.wellFormed, fun p hp => ?_⟩
  obtain ⟨hp, hm⟩ := List.mem_filter.1 hp
  exact hs p.1 p.2 (hl.stands p hp) (by simpa using hm)

/-- New handles that are released at once are as if they had not been made. -/
theorem Gives.release (hg : Gives h N h') : Gives h [] (h'.release (N.map (·.1))) := by
  obtain ⟨hn, hg', hw, hs⟩ := HandleTable.foldl_release (N.map (·.1)) h'.handles
  refine ⟨hg.config, hg.platform, hg.isLoaded, hn.trans hg.number, hg'.trans hg.generation, by simp,
    by simp, fun {L} hl => ?_⟩
  obtain ⟨hw', hs'⟩ := hg.holds hl
  refine ⟨hw hw', fun p hp => hs p.1 p.2 (hs' p (List.mem_append_right _ hp)) fun hm => ?_⟩
  obtain ⟨q, hq, he⟩ := List.mem_map.1 hm
  exact hg.fresh hl q hq p hp he

/-! ### Leaving -/

/-- The handle that is made for an object. -/
def madeFor (place : Nat) (h : Host) : List (Handle × Nat) :=
  match h.handles.insert place with
  | .ok (k, _) => [(k, place)]
  | .error _ => []

/-- The handles that are made for the elements of an array. -/
def madeForElements (leave : Script.Value → EStateM Failure Host Exchange.Value)
    (made : Script.Value → Host → List (Handle × Nat)) (v : Script.Value) :
    (numbers : List Nat) → Host → List (Handle × Nat)
  | [], _ => []
  | i :: rest, h =>
    match evaluating (·.element v i) h with
    | .error _ _ => []
    | .ok x h =>
      made x h ++ match leave x h with
        | .error _ _ => []
        | .ok _ h => madeForElements leave made v rest h

/-- The handles that are made when a value leaves, each with the object that it is made for. -/
def madeWithin : (depth : Nat) → Script.Value → Host → List (Handle × Nat)
  | 0, .object place, h => if h.hasArray place then [] else madeFor place h
  | depth + 1, .object place, h =>
    if h.hasArray place then
      match evaluating (·.lengthOf (.object place)) h with
      | .ok n h =>
        madeForElements (leaveWithin depth) (madeWithin depth) (.object place) (List.range n) h
      | .error _ _ => []
    else madeFor place h
  | _, _, _ => []

def made (v : Script.Value) (h : Host) : List (Handle × Nat) :=
  madeWithin ((h.page.map (·.objects.size)).getD 0 + Script.stackDepth) v h

/-- The action gives a result whose handles are the ones that are made for it, or fails and gives
none. -/
def Leaves (handles : α → List Handle) (m : EStateM Failure Host α)
    (made : Host → List (Handle × Nat)) : Prop :=
  ∀ h, match m h with
    | .ok a h' => handles a = (made h).map (·.1) ∧ Gives h (made h) h'
    | .error _ h' => Gives h [] h'

theorem leaves_pure (w : Exchange.Value) (hw : w.handles = []) :
    Leaves Exchange.Value.handles (pure w) fun _ => [] :=
  fun h => ⟨hw, .of_kept (.refl h)⟩

theorem leaves_handOut (place : Nat) :
    Leaves Exchange.Value.handles (handOut place) (madeFor place) := by
  intro h
  unfold handOut madeFor
  cases hi : h.handles.insert place with
  | error f => exact .of_kept (.refl h)
  | ok p =>
    obtain ⟨k, t⟩ := p
    obtain ⟨hn, hg, hk⟩ := HandleTable.insert_frame hi
    refine ⟨rfl, rfl, rfl, rfl, hn, hg, by simpa using hk, fun hl => ?_, fun hl => ?_⟩
    · have hins := hl.wellFormed.insert hi
      rintro p hp q hq
      cases List.mem_singleton.1 hp
      exact (hins.others (hl.stands q hq)).1.symm
    · have hins := hl.wellFormed.insert hi
      refine ⟨hins.wellFormed, fun p hp => ?_⟩
      rcases List.mem_cons.1 hp with rfl | hp
      · exact hins.stands
      · exact (hins.others (hl.stands p hp)).2

theorem leaves_elements {leave : Script.Value → EStateM Failure Host Exchange.Value}
    {made : Script.Value → Host → List (Handle × Nat)}
    (hl : ∀ v, Leaves Exchange.Value.handles (leave v) (made v)) (v : Script.Value)
    (numbers : List Nat) :
    Leaves Exchange.Value.handlesOfAll (leaveElements leave v numbers)
      (madeForElements leave made v numbers) := by
  induction numbers with
  | nil => exact fun h => ⟨rfl, .of_kept (.refl h)⟩
  | cons i rest ih =>
    intro h
    have hk := Gives.of_kept (kept_evaluating (·.element v i) h)
    unfold leaveElements madeForElements
    simp only [bind, EStateM.bind]
    cases he : evaluating (·.element v i) h with
    | error f h₁ =>
      rw [he] at hk
      simpa only [he, left] using hk
    | ok x h₁ =>
      rw [he] at hk
      have hx := hl x h₁
      cases hw : leave x h₁ with
      | error f h₂ =>
        rw [hw] at hx
        simpa only [he, hw, List.nil_append] using hk.trans hx
      | ok w h₂ =>
        rw [hw] at hx
        obtain ⟨hh, hx⟩ := hx
        have hx := hk.trans hx
        have hr := ih h₂
        cases hws : leaveElements leave v rest h₂ with
        | error f h₃ =>
          rw [hws] at hr
          have hg := (hx.trans hr).release
          rw [List.append_nil, List.nil_append, ← hh] at hg
          simpa only [he, hw, hws] using hg
        | ok ws h₃ =>
          rw [hws] at hr
          obtain ⟨hhs, hr⟩ := hr
          have hg := hx.trans hr
          rw [List.nil_append] at hg
          simp only [hw, hws, List.map_append, ← hh, ← hhs]
          exact ⟨rfl, hg⟩

theorem leaves_within (depth : Nat) (v : Script.Value) :
    Leaves Exchange.Value.handles (leaveWithin depth v) (madeWithin depth v) := by
  have number (n : Script.Number) : (leaveNumber n).handles = [] := by cases n <;> rfl
  induction depth generalizing v with
  | zero =>
    cases v with
    | object place =>
      intro h
      unfold leaveWithin madeWithin
      simp only [bind, EStateM.bind, Outcome.get_apply]
      cases h.hasArray place with
      | true => exact .of_kept (.refl h)
      | false => exact leaves_handOut place h
    | number n => exact leaves_pure _ (number n)
    | _ => exact leaves_pure _ rfl
  | succ depth ih =>
    cases v with
    | object place =>
      intro h
      unfold leaveWithin madeWithin
      simp only [bind, EStateM.bind, Outcome.get_apply]
      by_cases ha : h.hasArray place = true
      · rw [if_pos ha, if_pos ha]
        have hk := Gives.of_kept (kept_evaluating (·.lengthOf (.object place)) h)
        cases hn : evaluating (·.lengthOf (.object place)) h with
        | error f h₁ =>
          rw [hn] at hk
          simpa only [EStateM.bind, hn, left] using hk
        | ok n h₁ =>
          rw [hn] at hk
          have he := leaves_elements ih (.object place) (List.range n) h₁
          cases hws : leaveElements (leaveWithin depth) (.object place) (List.range n) h₁ with
          | error f h₂ =>
            rw [hws] at he
            simpa only [EStateM.bind, hn, hws, List.nil_append] using hk.trans he
          | ok ws h₂ =>
            rw [hws] at he
            simpa only [EStateM.bind, hn, hws] using ⟨he.1, hk.trans he.2⟩
      · rw [if_neg ha, if_neg ha]
        exact leaves_handOut place h
    | number n => exact leaves_pure _ (number n)
    | _ => exact leaves_pure _ rfl

/-- The handles in a value that has left are those that were made for it, and if it cannot leave,
none is held more than before. -/
theorem leaves (v : Script.Value) : Leaves Exchange.Value.handles (leave v) (made v) :=
  fun h => leaves_within _ v h

/-- The handles in the value of an action, once it has left. There are none if it cannot leave. -/
def handedOut (m : EStateM Failure Host Script.Value) (h : Host) : List (Handle × Nat) :=
  match m h with
  | .ok v h =>
    match leave v h with
    | .ok _ _ => made v h
    | .error _ _ => []
  | .error _ _ => []

variable {m : EStateM Failure Host Script.Value}

theorem gives_handedOut (hm : ∀ h, Kept h (left (m h))) (h : Host) :
    Gives h (handedOut m h) (left ((m >>= leave) h)) := by
  have hk := Gives.of_kept (hm h)
  rw [Outcome.left_bind]
  unfold handedOut
  cases hv : m h with
  | error f h₁ =>
    rw [hv] at hk
    exact hk
  | ok v h₁ =>
    rw [hv] at hk
    have hl := leaves v h₁
    dsimp only
    cases hw : leave v h₁ with
    | error f h₂ =>
      rw [hw] at hl
      exact hk.trans hl
    | ok w h₂ =>
      rw [hw] at hl
      exact hk.trans hl.2

theorem gives_invoke (module name : String) (args : List Exchange.Value) (h : Host) :
    Gives h (handedOut (called module name args) h) (left (invoke module name args h)) := by
  rw [invoke_eq]
  exact gives_handedOut (kept_called module name args) h

/-- The handles in the value of an action are those that are made for it. -/
theorem handles_of_leave {w : Exchange.Value} (hw : (m >>= leave) h = .ok w h') :
    w.handles = (handedOut m h).map (·.1) := by
  obtain ⟨v, h₁, hv, hl⟩ := Outcome.step_bind_eq_ok.1 hw
  have hs := leaves v h₁
  rw [hl] at hs
  unfold handedOut
  rw [hv]
  dsimp only
  rw [hl]
  exact hs.1

end ScriptProxy.Host
