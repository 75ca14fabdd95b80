import ScriptProxy.Proofs.Host.Frame

/-!
# Functions that are not there

Of all that a host does, only a call reports a function as unknown, and it does so exactly when the
function is not found: `function?_of_unknown`.
-/

namespace ScriptProxy

/-- The failure of a call of a function that is not there. -/
def Failure.IsUnknown (f : Failure) : Prop := ∃ module name, f = .unknownFunction module name

namespace Page

variable {α β : Type} {files : Files} {f : Failure}

theorem map_known {g : α → β} {x : Except Failure α} (hx : ∀ f, x = .error f → ¬ f.IsUnknown) :
    ∀ f, x.map g = .error f → ¬ f.IsUnknown := by
  cases x with
  | ok a => nofun
  | error f' =>
    rintro f ⟨rfl⟩
    exact hx f' rfl

theorem readText_known (files : Files) (path : String) :
    ∀ f, files.readText path = .error f → ¬ f.IsUnknown := by
  rintro _ h ⟨module, name, rfl⟩
  unfold Files.readText at h
  split at h
  · cases h
  · split at h <;> cases h

theorem script?_known (files : Files) (base : Option String) (number : Nat) (e : Element) :
    ∀ f, e.script? files base number = .error f → ¬ f.IsUnknown := by
  unfold Element.script?
  split
  · exact map_known (readText_known files _)
  · nofun
  · split <;> nofun

theorem scriptsFrom_known (files : Files) (base : Option String) (number : Nat) (p : Place) :
    ∀ f, scriptsFrom files base number p = .error f → ¬ f.IsUnknown := by
  fun_induction scriptsFrom files base number p with
  | case1 => rintro _ ⟨rfl⟩ ⟨_, _, ⟨⟩⟩
  | case2 => nofun
  | case3 number p e _ _ f' hf =>
    rintro f ⟨rfl⟩
    exact script?_known files base number e f' hf
  | case4 number p e _ _ _ ih => exact ih
  | case5 number p e _ _ s _ ih => exact map_known ih

/-- Whatever is wrong with a page, it is not that a function is not there. -/
theorem scripts_known {s : Source} (h : s.scripts files = .error f) : ¬ f.IsUnknown := by
  unfold Source.scripts at h
  cases hr : s.read files with
  | ok tb =>
    rw [hr] at h
    exact scriptsFrom_known _ _ _ _ f h
  | error f' =>
    rw [hr] at h
    cases h
    revert hr
    unfold Source.read
    split
    · nofun
    · exact map_known (readText_known files _) f
    · split
      · exact map_known (readText_known files _) f
      · rintro ⟨rfl⟩ ⟨_, _, ⟨⟩⟩

end Page

namespace Host

open Script (Evaluation Evaluator)

variable {α β : Type}

/-- The action does not report any function as unknown. -/
def Knows (m : EStateM Failure Host α) : Prop := ∀ h h' f, m h = .error f h' → ¬ f.IsUnknown

namespace Knows

theorem pure (a : α) : Knows (pure a) := fun _ _ _ hf => by cases hf

theorem get : Knows (get : EStateM Failure Host Host) := fun _ _ _ hf => by cases hf

theorem bind {m : EStateM Failure Host α} {k : α → EStateM Failure Host β} (hm : Knows m)
    (hk : ∀ a, Knows (k a)) : Knows (m >>= k) := by
  intro h h' f hf
  change EStateM.bind m k h = _ at hf
  unfold EStateM.bind at hf
  split at hf
  · exact hk _ _ _ _ hf
  · next hm' =>
    cases hf
    exact hm _ _ _ hm'

theorem evaluating (m : Evaluator → Evaluation α) : Knows (evaluating m) := by
  rintro h h' _ hf ⟨module, name, rfl⟩
  unfold Host.evaluating at hf
  split at hf
  · cases hf
  · split at hf
    · cases hf
    · next v r _ =>
      unfold failureOf at hf
      dsimp only at hf
      split at hf <;> cases hf

theorem entering (vs : List Exchange.Value) : Knows (entering vs) :=
  bind get fun h => evaluating fun _ => enterAll h.handles vs

theorem handOut (place : Nat) : Knows (handOut place) := by
  rintro h h' _ hf ⟨module, name, rfl⟩
  unfold Host.handOut at hf
  split at hf
  · cases hf
  · next hi =>
    cases hf
    unfold Exchange.HandleTable.insert at hi
    dsimp only at hi
    split at hi
    · cases hi
    · split at hi <;> cases hi

theorem leaveElements {leave : Script.Value → EStateM Failure Host Exchange.Value}
    (hl : ∀ v, Knows (leave v)) (v : Script.Value) (numbers : List Nat) :
    Knows (leaveElements leave v numbers) := by
  induction numbers with
  | nil => exact pure _
  | cons i rest ih =>
    refine bind (evaluating _) fun x => bind (hl x) fun w => ?_
    intro h h' f hf
    dsimp only at hf
    split at hf
    · cases hf
    · next hr =>
      cases hf
      exact ih _ _ _ hr

theorem leaveWithin (depth : Nat) (v : Script.Value) : Knows (leaveWithin depth v) := by
  induction depth generalizing v with
  | zero =>
    cases v with
    | object place =>
      refine bind get fun h => ?_
      split
      · rintro h h' _ ⟨rfl, rfl⟩ ⟨_, _, ⟨⟩⟩
      · exact handOut place
    | _ => exact pure _
  | succ depth ih =>
    cases v with
    | object place =>
      refine bind get fun h => ?_
      split
      · exact bind (evaluating _) fun n => bind (leaveElements ih _ _) fun _ => pure _
      · exact handOut place
    | _ => exact pure _

theorem leave (v : Script.Value) : Knows (leave v) := bind get fun _ => leaveWithin _ v

theorem load (page : Page.Source) : Knows (load page) := by
  intro h h' f hf
  rw [load_eq] at hf
  split at hf
  · cases hf
    rintro ⟨_, _, ⟨⟩⟩
  · split at hf
    · next hs =>
      cases hf
      exact Page.scripts_known hs
    · split at hf
      · cases hf
      · next he =>
        cases hf
        exact evaluating _ _ _ _ he

end Knows

variable {module name : String} {args : List Exchange.Value} {h h' : Host} {f : Failure}

/-- A call that reports a function as unknown has not found it. -/
theorem function?_of_unknown (hi : invoke module name args h = .error f h') (hf : f.IsUnknown) :
    ∃ r r', h.page = some r ∧
      function? h.platform.engine h.config.namespaceName module name r = .ok none r' := by
  have rest (m f : Script.Value) : Knows (do
      let vs ← Host.entering args
      Host.leave (← Host.evaluating (·.call f m vs))) :=
    .bind (.entering args) fun vs => .bind (.evaluating _) fun v => .leave v
  unfold invoke at hi
  simp only [bind, EStateM.bind, Outcome.get_apply] at hi
  cases he : evaluating (function? · h.config.namespaceName module name) h with
  | error f' h₁ =>
    rw [he] at hi
    cases hi
    exact absurd hf (Knows.evaluating _ _ _ _ he)
  | ok found h₁ =>
    rw [he] at hi
    cases found with
    | some mf => exact absurd hf (rest mf.1 mf.2 h₁ h' f hi)
    | none =>
      unfold Host.evaluating at he
      split at he
      · cases he
      · next r hp =>
        split at he
        · next hr =>
          cases he
          exact ⟨r, _, hp, hr⟩
        · cases he

end Host
end ScriptProxy
