import ScriptProxy.Host.Basic
import ScriptProxy.Proofs.Outcome

/-!
# What the actions of a host leave as it is

An evaluation on the page of a host changes nothing of the host but the page and the printed lines,
and neither does the installation of a function. A page that is loaded, or fails to be, leaves a
table of handles that has been reset.
-/

namespace ScriptProxy.Host

open Import (Binding)
open Outcome (left)
open Script (Evaluation Evaluator)

variable {α β : Type} {h h' : Host}

/-- The hosts differ in their page and in the printed lines only, and both have a page or neither
has. -/
structure Kept (h h' : Host) : Prop where
  config : h'.config = h.config
  platform : h'.platform = h.platform
  handles : h'.handles = h.handles
  isLoaded : h'.isLoaded = h.isLoaded

theorem Kept.refl (h : Host) : Kept h h := ⟨rfl, rfl, rfl, rfl⟩

theorem Kept.trans {h₁ : Host} (hk : Kept h h₁) (hk' : Kept h₁ h') : Kept h h' :=
  ⟨hk'.config.trans hk.config, hk'.platform.trans hk.platform, hk'.handles.trans hk.handles,
    hk'.isLoaded.trans hk.isLoaded⟩

theorem kept_evaluating (m : Evaluator → Evaluation α) (h : Host) : Kept h (left (evaluating m h)) := by
  unfold evaluating
  cases hp : h.page with
  | none => exact .refl h
  | some r =>
    dsimp only
    cases m h.platform.engine r <;> exact ⟨rfl, rfl, rfl, by simp [left, withRealm, isLoaded, hp]⟩

theorem kept_bind {m : EStateM Failure Host α} {f : α → EStateM Failure Host β}
    (hm : ∀ h, Kept h (left (m h))) (hf : ∀ a h, Kept h (left (f a h))) (h : Host) :
    Kept h (left ((m >>= f) h)) := by
  rw [Outcome.left_bind]
  have hk := hm h
  cases hr : m h with
  | ok a h₁ =>
    rw [hr] at hk
    exact hk.trans (hf a h₁)
  | error e h₁ =>
    rw [hr] at hk
    exact hk

theorem kept_get (h : Host) : Kept h (left ((get : EStateM Failure Host Host) h)) := .refl h

theorem kept_entering (vs : List Exchange.Value) (h : Host) : Kept h (left (entering vs h)) :=
  kept_bind kept_get (fun h => kept_evaluating fun _ => enterAll h.handles vs) h

/-- What an evaluation prints comes behind what was printed before. -/
theorem left_evaluating (m : Evaluator → Evaluation α) (h : Host) :
    left (evaluating m h) =
      let h' := left (evaluating m { h with printed := [] })
      { h' with printed := h.printed ++ h'.printed } := by
  unfold evaluating
  cases hp : h.page with
  | none => simp [left, ← hp]
  | some r =>
    dsimp only
    cases m h.platform.engine r <;> simp [left, withRealm]

theorem register_eq (b : Binding) (h : Host) :
    register b h = evaluating (installing · h.config.namespaceName b) h := rfl

theorem kept_register (b : Binding) (h : Host) : Kept h (left (register b h)) := by
  rw [register_eq]
  exact kept_evaluating _ h

theorem register_of_unloaded (b : Binding) (hp : h.page = none) :
    register b h = .error (.boot .noPage) h := by
  rw [register_eq]
  unfold evaluating
  rw [hp]

/-- The value that a function of the page gives, before it leaves the engine. -/
def called (module name : String) (args : List Exchange.Value) :
    EStateM Failure Host Script.Value := do
  let namespaceName := (← get).config.namespaceName
  match ← evaluating (function? · namespaceName module name) with
  | none => throw (.unknownFunction module name)
  | some (m, f) =>
    let vs ← entering args
    evaluating (·.call f m vs)

theorem invoke_eq (module name : String) (args : List Exchange.Value) :
    invoke module name args = called module name args >>= leave := by
  funext h
  unfold invoke called
  simp only [bind, EStateM.bind, Outcome.get_apply]
  cases evaluating (function? · h.config.namespaceName module name) h with
  | error f h₁ => rfl
  | ok found h₁ =>
    cases found with
    | none => rfl
    | some mf =>
      dsimp only [EStateM.bind]
      cases entering args h₁ <;> rfl

/-- Calls a function that has been found. -/
def apply (f self : Script.Value) (args : List Exchange.Value) :
    EStateM Failure Host Exchange.Value := do
  let vs ← entering args
  leave (← evaluating (·.call f self vs))

theorem evaluating_of_ok {m : Evaluator → Evaluation α} {r r' : Script.Realm} {a : α}
    (hp : h.page = some r) (hm : m h.platform.engine r = .ok a r') : evaluating m h = .ok a (h.withRealm r') := by
  unfold evaluating
  rw [hp]
  dsimp only
  rw [hm]

theorem invoke_of_found {module name : String} {r : Script.Realm} {m f : Script.Value}
    (hp : h.page = some r)
    (hf : function? h.platform.engine h.config.namespaceName module name r = .ok (some (m, f)) r)
    (args : List Exchange.Value) : invoke module name args h = apply f m args (h.withRealm r) := by
  unfold invoke
  simp only [bind, EStateM.bind, Outcome.get_apply]
  rw [evaluating_of_ok (m := (function? · h.config.namespaceName module name)) hp hf]
  rfl

theorem kept_called (module name : String) (args : List Exchange.Value) (h : Host) :
    Kept h (left (called module name args h)) := by
  refine kept_bind kept_get (fun h₀ => kept_bind (kept_evaluating _) fun found => ?_) h
  cases found with
  | none => exact fun h => .refl h
  | some mf => exact kept_bind (kept_entering args) fun vs => kept_evaluating _

/-- The host whose page has gone. -/
def cleared (h : Host) : Host := { h with page := none, handles := h.handles.reset }

/-- The host whose page is about to open. -/
def fresh (h : Host) : Host :=
  { h with page := some (.start h.config.forwardConsole), handles := h.handles.reset }

theorem load_eq (page : Page.Source) (h : Host) :
    load page h =
      if !Text.isIdentifier h.config.namespaceName then
        .error (.boot (.badNamespace h.config.namespaceName)) h
      else match page.scripts h.platform.files with
        | .error f => .error f h.cleared
        | .ok scripts =>
          match evaluating (opening · h.config.namespaceName scripts) h.fresh with
          | .ok _ h => .ok () h
          | .error f h => .error f { h with page := none } := by
  unfold load
  simp only [bind, EStateM.bind, Outcome.get_apply]
  cases Text.isIdentifier h.config.namespaceName with
  | false => rfl
  | true =>
    rw [if_neg (by decide), if_neg (by decide)]
    cases page.scripts h.platform.files with
    | error f => rfl
    | ok scripts =>
      show EStateM.tryCatch (evaluating (opening · h.config.namespaceName scripts)) _ h.fresh = _
      unfold EStateM.tryCatch
      dsimp only
      cases evaluating (opening · h.config.namespaceName scripts) h.fresh <;> rfl

/-- A page that is loaded comes with the next generation of handles. -/
theorem kept_load {page : Page.Source} (hl : load page h = .ok () h') : Kept h.fresh h' := by
  rw [load_eq] at hl
  split at hl
  · cases hl
  · split at hl
    · cases hl
    · next scripts _ =>
      have hk := kept_evaluating (opening · h.config.namespaceName scripts) h.fresh
      split at hl
      · next he =>
        rw [he] at hk
        cases hl
        exact hk
      · cases hl

/-- A page that cannot be loaded leaves everything as it is, or no page. -/
theorem of_load_eq_error {page : Page.Source} {f : Failure} (hl : load page h = .error f h') :
    h' = h ∨ h'.page = none ∧ h'.config = h.config ∧ h'.platform = h.platform ∧
      h'.handles = h.handles.reset := by
  rw [load_eq] at hl
  split at hl
  · cases hl
    exact .inl rfl
  · refine .inr ?_
    split at hl
    · cases hl
      exact ⟨rfl, rfl, rfl, rfl⟩
    · next scripts _ =>
      have hk := kept_evaluating (opening · h.config.namespaceName scripts) h.fresh
      split at hl
      · cases hl
      · next he =>
        rw [he] at hk
        cases hl
        exact ⟨rfl, hk.config, hk.platform, hk.handles⟩

end ScriptProxy.Host
