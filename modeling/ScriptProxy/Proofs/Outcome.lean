import ScriptProxy.Failure

/-!
# When steps that may fail succeed

Inversion of composed computations: a composition succeeds exactly if its parts do, one after the
other. `OkIff x P` says of a computation that it succeeds exactly under the condition `P`, and fails
with a defect of the class file otherwise.
-/

namespace ScriptProxy

namespace Outcome
variable {ε σ α β : Type}

theorem bind_eq_ok {x : Except ε α} {f : α → Except ε β} {b : β} :
    (x >>= f) = .ok b ↔ ∃ a, x = .ok a ∧ f a = .ok b := by
  cases x with
  | ok a => exact ⟨fun h => ⟨a, rfl, h⟩, by rintro ⟨_, ⟨⟩, h⟩; exact h⟩
  | error e => exact ⟨(nomatch ·), fun ⟨_, h, _⟩ => nomatch h⟩

theorem bind_eq_error {x : Except ε α} {f : α → Except ε β} {e : ε} :
    (x >>= f) = .error e ↔ x = .error e ∨ ∃ a, x = .ok a ∧ f a = .error e := by
  cases x with
  | ok a => simp [bind, Except.bind]
  | error e' => simp [bind, Except.bind]

theorem map_eq_ok {x : Except ε α} {f : α → β} {b : β} :
    (f <$> x) = .ok b ↔ ∃ a, x = .ok a ∧ f a = b := by
  cases x with
  | ok a => exact ⟨fun h => ⟨a, rfl, Except.ok.inj h⟩, by rintro ⟨_, ⟨⟩, rfl⟩; rfl⟩
  | error e => exact ⟨(nomatch ·), fun ⟨_, h, _⟩ => nomatch h⟩

theorem map_eq_error {x : Except ε α} {f : α → β} {e : ε} :
    (f <$> x) = .error e ↔ x = .error e := by
  cases x with
  | ok a => exact ⟨(nomatch ·), (nomatch ·)⟩
  | error e' => simp [Functor.map, Except.map]

theorem eq_ok_of_toOption {x : Except ε α} {a : α} (h : x.toOption = some a) : x = .ok a := by
  cases x with
  | ok b => exact congrArg _ (Option.some.inj h)
  | error e => cases h

theorem toOption_map_eq_some {x : Except ε α} {f : α → β} {b : β} :
    x.toOption.map f = some b ↔ ∃ a, x = .ok a ∧ f a = b := by
  cases x with
  | ok a => simp [Except.toOption]
  | error e => simp [Except.toOption]

theorem step_bind_eq_ok {x : EStateM ε σ α} {f : α → EStateM ε σ β} {s u : σ} {b : β} :
    (x >>= f) s = .ok b u ↔ ∃ a t, x s = .ok a t ∧ f a t = .ok b u := by
  show EStateM.bind x f s = _ ↔ _
  unfold EStateM.bind
  cases x s with
  | ok a t => simp [and_assoc]
  | error e t => simp

theorem step_bind_eq_error {x : EStateM ε σ α} {f : α → EStateM ε σ β} {s u : σ} {e : ε} :
    (x >>= f) s = .error e u ↔
      x s = .error e u ∨ ∃ a t, x s = .ok a t ∧ f a t = .error e u := by
  show EStateM.bind x f s = _ ↔ _
  unfold EStateM.bind
  cases x s with
  | ok a t => simp [and_assoc]
  | error e t => simp

theorem step_map_eq_ok {x : EStateM ε σ α} {f : α → β} {s u : σ} {b : β} :
    (f <$> x) s = .ok b u ↔ ∃ a, x s = .ok a u ∧ f a = b := by
  show EStateM.map f x s = _ ↔ _
  unfold EStateM.map
  cases x s with
  | ok a t =>
    constructor
    · rintro ⟨⟩
      exact ⟨a, rfl, rfl⟩
    · rintro ⟨_, ⟨⟩, rfl⟩
      rfl
  | error e t => exact ⟨(nomatch ·), fun ⟨_, h, _⟩ => nomatch h⟩

theorem get_apply (s : σ) : (get : EStateM ε σ σ) s = .ok s s := rfl

theorem bind_of_ok {x : EStateM ε σ α} {f : α → EStateM ε σ β} {s t : σ} {a : α}
    (h : x s = .ok a t) : (x >>= f) s = f a t := by
  show EStateM.bind x f s = _
  rw [EStateM.bind, h]

theorem bind_of_error {x : EStateM ε σ α} {f : α → EStateM ε σ β} {s t : σ} {e : ε}
    (h : x s = .error e t) : (x >>= f) s = .error e t := by
  show EStateM.bind x f s = _
  rw [EStateM.bind, h]

theorem ofExcept_eq_ok {x : Except ε α} {s t : σ} {a : α} :
    (MonadExcept.ofExcept x : EStateM ε σ α) s = .ok a t ↔ x = .ok a ∧ t = s := by
  cases x with
  | ok b =>
    constructor
    · rintro ⟨⟩
      exact ⟨rfl, rfl⟩
    · rintro ⟨⟨⟩, rfl⟩
      rfl
  | error e => exact ⟨(nomatch ·), fun ⟨h, _⟩ => nomatch h⟩

theorem ofExcept_eq_error {x : Except ε α} {s t : σ} {e : ε} :
    (MonadExcept.ofExcept x : EStateM ε σ α) s = .error e t ↔ x = .error e ∧ t = s := by
  cases x with
  | ok b => exact ⟨(nomatch ·), fun ⟨h, _⟩ => nomatch h⟩
  | error e' =>
    constructor
    · rintro ⟨⟩
      exact ⟨rfl, rfl⟩
    · rintro ⟨⟨⟩, rfl⟩
      rfl

/-- The state that a step leaves, whether it succeeds or fails. -/
def left : EStateM.Result ε σ α → σ
  | .ok _ s => s
  | .error _ s => s

theorem left_bind (x : EStateM ε σ α) (f : α → EStateM ε σ β) (s : σ) :
    left ((x >>= f) s) = match x s with
      | .ok a t => left (f a t)
      | .error _ t => t := by
  show left (EStateM.bind x f s) = _
  unfold EStateM.bind
  cases x s <;> rfl

/-- Whether it succeeds or fails, the step leaves a state with the property behind. -/
def Keeps (I : σ → Prop) (x : EStateM ε σ α) : Prop := ∀ s, I s → I (left (x s))

namespace Keeps
variable {I : σ → Prop} {x : EStateM ε σ α} {f : α → EStateM ε σ β}

theorem pure (a : α) : Keeps I (Pure.pure a : EStateM ε σ α) := fun _ hs => hs

theorem throw (e : ε) : Keeps I (MonadExcept.throw e : EStateM ε σ α) := fun _ hs => hs

theorem ofExcept (x : Except ε α) : Keeps I (MonadExcept.ofExcept x : EStateM ε σ α) := by
  cases x with
  | ok a => exact pure a
  | error e => exact throw e

theorem bind (hx : Keeps I x) (hf : ∀ a, Keeps I (f a)) : Keeps I (x >>= f) := by
  intro s hs
  have hleft := hx s hs
  rw [left_bind]
  cases hstep : x s with
  | ok a t =>
    rw [hstep] at hleft
    exact hf a t hleft
  | error e t =>
    rw [hstep] at hleft
    exact hleft

theorem mapM {g : α → EStateM ε σ β} {as : List α} (h : ∀ a ∈ as, Keeps I (g a)) :
    Keeps I (as.mapM g) := by
  induction as with
  | nil => exact pure []
  | cons a as ih =>
    rw [List.mapM_cons]
    exact (h a (by simp)).bind fun b => (ih fun a ha => h a (by simp [ha])).bind fun bs => pure _

end Keeps

/-- A step has led from the state to one that is related to it, and its result or its failure goes with
that one. -/
def Ends (R : σ → σ → Prop) (P : α → σ → Prop) (Q : ε → σ → Prop) (s : σ) :
    EStateM.Result ε σ α → Prop
  | .ok a t => R s t ∧ P a t
  | .error e t => R s t ∧ Q e t

namespace Ends
variable {R : σ → σ → Prop} {P : α → σ → Prop} {P' : β → σ → Prop} {Q : ε → σ → Prop}
  {x : EStateM ε σ α} {f : α → EStateM ε σ β} {s t : σ}
  (trans : ∀ s t u, R s t → R t u → R s u)
include trans

theorem after {result : EStateM.Result ε σ α} (h : Ends R P Q t result) (hs : R s t) :
    Ends R P Q s result := by
  cases result <;> exact ⟨trans _ _ _ hs h.1, h.2⟩

theorem bind (hx : Ends R P Q s (x s)) (hf : ∀ a t, R s t → P a t → Ends R P' Q t (f a t)) :
    Ends R P' Q s ((x >>= f) s) := by
  cases h : x s with
  | ok a t =>
    rw [h] at hx
    rw [bind_of_ok h]
    exact after trans (hf a t hx.1 hx.2) hx.1
  | error e t =>
    rw [h] at hx
    rw [bind_of_error h]
    exact hx

theorem tryCatch {handler : ε → EStateM ε σ α} (hx : Ends R P Q s (x s))
    (hh : ∀ e t, R s t → Q e t → Ends R P Q t (handler e t)) :
    Ends R P Q s (tryCatch x handler s) := by
  show Ends R P Q s (EStateM.tryCatch x handler s)
  unfold EStateM.tryCatch
  cases h : x s with
  | ok a t =>
    rw [h] at hx
    exact hx
  | error e t =>
    rw [h] at hx
    exact after trans (hh e t hx.1 hx.2) hx.1

end Ends

end Outcome

/-- The computation succeeds exactly under the condition. Otherwise it fails with a defect. -/
structure OkIff {α : Type} (x : Except Failure α) (P : Prop) : Prop where
  ok : P → ∃ a, x = .ok a
  defect : ¬ P → ∃ d, x = .error (.malformed d)

namespace OkIff
variable {α β : Type} {x : Except Failure α} {P Q : Prop}

theorem isOk_iff (h : OkIff x P) : (∃ a, x = .ok a) ↔ P := by
  refine ⟨fun ⟨a, ha⟩ => Classical.byContradiction fun hP => ?_, h.ok⟩
  obtain ⟨d, hd⟩ := h.defect hP
  rw [hd] at ha
  cases ha

theorem congr (h : OkIff x P) (hPQ : P ↔ Q) : OkIff x Q :=
  ⟨fun hQ => h.ok (hPQ.2 hQ), fun hQ => h.defect fun hP => hQ (hPQ.1 hP)⟩

theorem pure (a : α) : OkIff (.ok a) True := ⟨fun _ => ⟨a, rfl⟩, fun h => absurd trivial h⟩

theorem ite {d : Defect} {a : α} [Decidable P] : OkIff (if P then .ok a else d.fail) P := by
  constructor <;> intro h
  · exact ⟨a, if_pos h⟩
  · exact ⟨d, if_neg h⟩

theorem bind {f : α → Except Failure β} (h : OkIff x P) (hf : ∀ a, OkIff (f a) Q) :
    OkIff (x >>= f) (P ∧ Q) := by
  by_cases hP : P
  · obtain ⟨a, rfl⟩ := h.ok hP
    exact (hf a).congr ⟨fun hQ => ⟨hP, hQ⟩, fun hPQ => hPQ.2⟩
  · obtain ⟨d, rfl⟩ := h.defect hP
    exact ⟨fun hPQ => absurd hPQ.1 hP, fun _ => ⟨d, rfl⟩⟩

theorem map (f : α → β) (h : OkIff x P) : OkIff (f <$> x) P :=
  (h.bind fun a => OkIff.pure (f a)).congr ⟨And.left, fun hP => ⟨hP, trivial⟩⟩

theorem mapM {f : α → Except Failure β} {R : α → Prop} {xs : List α}
    (h : ∀ a ∈ xs, OkIff (f a) (R a)) : OkIff (xs.mapM f) (∀ a ∈ xs, R a) := by
  induction xs with
  | nil => exact (OkIff.pure []).congr (by simp)
  | cons a xs ih =>
    obtain ⟨ha, hxs⟩ := List.forall_mem_cons.1 h
    rw [List.mapM_cons]
    refine (ha.bind fun b => (ih hxs).map (b :: ·)).congr ?_
    simp

end OkIff

end ScriptProxy
