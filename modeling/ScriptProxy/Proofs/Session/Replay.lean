import ScriptProxy.Proofs.Host.Lookup
import ScriptProxy.Proofs.Session.Computed

/-!
# Functions on the pages to come

A page that is loaded is given every function of the record, so a function whose last registration
came with its script is on it from then on. Registrations behind that may replace the function, and
none takes it away: `Covers` is kept by every step up to the next page.
-/

namespace ScriptProxy.Session

open Exchange (Value)
open Import (Binding)

variable {namespaceName module name : String} {args : List Value} {s s' : Session} {m m' : Moment}
  {ev : Event} {tr : Trace} {b : Binding} {f : Failure}

/-! ### Calls from outside -/

/-- The operation that calls a function. -/
def Operation.invoke (module name : String) (args : List Value) : Operation :=
  .execute (.demand (.invoke module name args)) fun v => [v]

theorem invoke_ordinary (module name : String) (args : List Value) (s : Session) :
    s.invoke .ordinary module name args =
      s.execute .ordinary (.demand (.invoke module name args)) fun v => [v] :=
  if_neg (Bool.eq_false_iff.1 s.isEngine_ordinary)

/-- The outcome of a call is that of work that only makes it. -/
theorem perform_demand (through : Bool) (c : Call) (s : Session) :
    perform through (.demand c) s = match answer c s with
      | .ok a t => (.ended (.value a), t)
      | .error f t => (.ended (.ofFailure f), t) := by
  unfold Work.demand perform
  cases answer c s with
  | ok a t => rfl
  | error f t =>
    dsimp only
    unfold Outcome.ofFailure
    cases f.panic? <;> rfl

theorem workTrace_demand (through : Bool) (event : Call → Event) (c : Call) (s : Session) :
    workTrace through event (.demand c) s = [(event c, s)] := by
  unfold Work.demand workTrace
  cases answer c s with
  | ok a t => rfl
  | error f t =>
    dsimp only
    cases f.panic? <;> rfl

theorem waitTrace_demand (limit : Option Duration) (c : Call) (s : Session) :
    waitTrace limit (.demand c) s = [(.call c, s)] := by
  unfold waitTrace
  rw [workTrace_demand, perform_demand]
  cases answer c s <;> rfl

section demand
variable {c : Call} {values : c.Answer → List Value} (hs : s.state.acceptsWork = true)
  (h : s.executing.isBeyond s.config.executionTimeout = false) (hb : s.runTurn.isBlocked = false)
include hs h hb

/-- A call that is awaited gives its answer. -/
theorem run_demand : run (.demand c) values s = match answer c s.runTurn with
    | .ok a t => (.value a, { t with state := .ready })
    | .error f t => (.ofFailure f, { t with state := .error }) := by
  rw [run_of_accepted hs, if_neg (Bool.eq_false_iff.1 h), if_neg (Bool.eq_false_iff.1 hb),
    perform_demand]
  cases answer c s.runTurn with
  | ok a t => rfl
  | error f t =>
    dsimp only
    unfold Outcome.ofFailure
    cases f.panic? <;> rfl

theorem runTrace_demand : runTrace (.demand c) values s = (.start, s.busy) ::
    (turnTrace s.config.executionTimeout s.executing ++ [(.call c, s.runTurn)]) := by
  unfold runTrace
  rw [hs, h, hb, waitTrace_demand]
  rfl

end demand

theorem eq_of_ofFailure {α : Type} {f g : Failure}
    (h : (Outcome.ofFailure f : Outcome α) = .failure g) : f = g := by
  unfold Outcome.ofFailure at h
  split at h
  · cases h
  · exact Outcome.failure.inj h

/-- Work that only makes a call fails with the failure of the call. -/
theorem run_demand_of_unknown {c : Call} {values : c.Answer → List Value}
    (hr : (run (.demand c) values s).1 = .failure f) (hf : f.IsUnknown) :
    ∃ tr t t', runTrace (.demand c) values s = tr ++ [(.call c, t)] ∧ answer c t = .error f t' := by
  cases hs : s.state.acceptsWork with
  | false =>
    rw [run_of_refused hs] at hr
    cases hr
    obtain ⟨_, _, ⟨⟩⟩ := hf
  | true =>
    cases h : s.executing.isBeyond s.config.executionTimeout with
    | true =>
      rw [run_of_accepted hs, if_pos h] at hr
      dsimp only at hr
      cases eq_of_ofFailure hr
      obtain ⟨_, _, ⟨⟩⟩ := hf
    | false =>
      cases hb : s.runTurn.isBlocked with
      | true =>
        rw [run_of_accepted hs, if_neg (Bool.eq_false_iff.1 h), if_pos hb] at hr
        cases hr
        obtain ⟨_, _, ⟨⟩⟩ := hf
      | false =>
        rw [run_demand hs h hb] at hr
        rw [runTrace_demand hs h hb]
        cases ha : answer c s.runTurn with
        | ok a t =>
          rw [ha] at hr
          cases hr
        | error f' t =>
          rw [ha] at hr
          dsimp only at hr
          cases eq_of_ofFailure hr
          exact ⟨_ :: _, _, t, rfl, ha⟩

theorem boot_known {page : Page.Source} (hboot : boot page s = .error f s') : ¬ f.IsUnknown := by
  intro hf
  cases h : s.starting.isBeyond s.config.bootTimeout with
  | true =>
    cases (boot_of_beyond h).symm.trans hboot
    obtain ⟨_, _, ⟨⟩⟩ := hf
  | false =>
    cases hb : s.bootTurn.isBlocked with
    | true =>
      cases (boot_of_blocked h hb).symm.trans hboot
      obtain ⟨_, _, ⟨⟩⟩ := hf
    | false =>
      rw [boot_of_unblocked h hb] at hboot
      cases hl : onHost (Host.load page) s.bootTurn with
      | ok a t =>
        rw [loadPage_of_ok hl] at hboot
        cases hboot
      | error f' t =>
        rw [loadPage_of_error hl] at hboot
        cases hboot
        rcases onHost_eq_error hl with rfl | ⟨e, h', -, hl⟩
        · obtain ⟨_, _, ⟨⟩⟩ := hf
        · exact Host.Knows.load page _ _ _ hl hf

/-- Where a function is reported as unknown, the last that has happened is a call of it. -/
theorem invoke_of_unknown (hi : (s.invoke .ordinary module name args).1 = .failure f)
    (hf : f.IsUnknown) :
    ∃ tr t t', (Operation.invoke module name args).trace s =
        tr ++ [(.call (.invoke module name args), t)] ∧
      answer (.invoke module name args) t = .error f t' := by
  show ∃ tr t t', executeTrace (.demand (.invoke module name args)) (fun v => [v]) s = _ ∧ _
  rw [invoke_ordinary, execute_ordinary] at hi
  unfold executeTrace
  cases hr : s.pageReady with
  | true =>
    rw [hr] at hi
    exact run_demand_of_unknown hi hf
  | false =>
    rw [hr] at hi
    cases ha : s.config.autoBoot with
    | false =>
      rw [ha] at hi
      cases hi
      obtain ⟨_, _, ⟨⟩⟩ := hf
    | true =>
      rw [ha] at hi
      change (bootAndRun s.defaultPage (.demand (.invoke module name args)) _ s).1 = _ at hi
      unfold bootAndRun at hi
      unfold bootAndRunTrace
      cases hb : boot s.defaultPage s with
      | error f' t =>
        rw [hb] at hi
        cases eq_of_ofFailure hi
        exact absurd hf (boot_known hb)
      | ok a t =>
        rw [hb] at hi
        obtain ⟨tr, t₁, t₂, htr, hans⟩ := run_demand_of_unknown hi hf
        refine ⟨bootTrace s.defaultPage s ++ tr, t₁, t₂, ?_, hans⟩
        rw [List.append_assoc, ← htr]
        rfl

/-! ### Between two pages -/

/-- Where there is a page, it has a function for the module and name, or one is still to be
installed. -/
def Covers (namespaceName module name : String) (m : Moment) : Prop :=
  Provides namespaceName none m.session module name ∨
    ∃ b ∈ m.awaiting, b.key = (module, name) ∧ b.script ≠ none

section does
variable (hd : Does ev m m') (ht : ev.Tame namespaceName m.session)
  (hr : ev.Received namespaceName m.session) (hp : Paged namespaceName m.session)
  (hl : ¬ ev.Loads m.session)
include hd ht hr hp hl

theorem Covers.does (hc : Clear m.session) (h : Covers namespaceName module name m) :
    Covers namespaceName module name m' := by
  rcases h with h | ⟨b, hb, hk, hs⟩
  · exact .inl ((hp.advances_does hd ht hr hl).provides_any h)
  · have ha := awaiting_does hd hc
    cases ev with
    | note b' => exact .inr ⟨b, ha ▸ List.mem_append_left _ hb, hk, hs⟩
    | install b' =>
      dsimp only at ha
      rw [ha] at hb
      rcases List.mem_cons.1 hb with rfl | hb
      · cases hk
        exact .inl (hp.provides_does hd ht hr rfl hs).any
      · exact .inr ⟨b, hb, hk, hs⟩
    | stop =>
      cases hd
      exact .inl (.of_none rfl)
    | load page =>
      obtain ⟨hl', -⟩ | ⟨-, ha⟩ := ha
      · exact absurd hl' hl
      · exact .inr ⟨b, ha ▸ hb, hk, hs⟩
    | call c | late c | own c | start | abandon => exact .inr ⟨b, ha ▸ hb, hk, hs⟩

end does

theorem Covers.quiet (hq : Quiet m m') (hp : Paged namespaceName m.session)
    (h : Covers namespaceName module name m) : Covers namespaceName module name m' := by
  rcases h with h | ⟨b, hb, hk, hs⟩
  · exact .inl ((hp.advances_quiet hq).provides_any h)
  · rcases awaiting_quiet hq with ha | ⟨hn, -⟩
    · exact .inr ⟨b, ha ▸ hb, hk, hs⟩
    · exact .inl (.of_none hn)

theorem Covers.leads (hl : Leads m tr m')
    (ht : ∀ p ∈ tr, p.1.Mild namespaceName p.2 ∧ ¬ p.1.Loads p.2)
    (hp : Paged namespaceName m.session) (hc : Clear m.session)
    (h : Covers namespaceName module name m) :
    Paged namespaceName m'.session ∧ Clear m'.session ∧ Covers namespaceName module name m' := by
  refine hl.preserves
    (P := fun m => Paged namespaceName m.session ∧ Clear m.session ∧
      Covers namespaceName module name m)
    (K := fun ev s => ev.Mild namespaceName s ∧ ¬ ev.Loads s) ?_ ?_ ht ⟨hp, hc, h⟩
  · rintro m m' hq ⟨hp, hc, h⟩
    exact ⟨(hp.advances_quiet hq).paged, hc.quiet hq, h.quiet hq hp⟩
  · rintro ev m m' hd ⟨⟨ht, hr⟩, hl⟩ ⟨hp, hc, h⟩
    exact ⟨hp.does hd ht hr, hc.does hd, h.does hd ht hr hp hl hc⟩

theorem Covers.load {page : Page.Source} (hd : Does (.load page) m m') (hc : Clear m.session)
    (hl : (Event.load page).Loads m.session)
    (hb : m.session.functions.get? (module, name) = some b) (hs : b.script ≠ none) :
    Covers namespaceName module name m' := by
  have hf : m'.session.functions = m.session.functions := functions_does hd
  obtain ⟨-, ha⟩ | ⟨hl', -⟩ := awaiting_does hd hc
  · rw [← Functions.latest_values] at hb
    obtain ⟨hb, hk⟩ := key_of_latest hb
    refine .inr ⟨b, ha ▸ List.mem_append_left _ ?_, hk, hs⟩
    rw [registered, hf]
    exact hb
  · exact absurd hl hl'

/-- A function that the page has is not unknown. -/
theorem Provides.not_isUnknown (hp : Paged namespaceName s)
    (h : Provides namespaceName none s module name)
    (ha : answer (.invoke module name args) s = .error f s') : ¬ f.IsUnknown := by
  intro hf
  rcases onHost_eq_error ha with rfl | ⟨e, h', he, hi⟩
  · obtain ⟨_, _, ⟨⟩⟩ := hf
  · obtain ⟨r, r', hr, hnone⟩ := Host.function?_of_unknown hi hf
    obtain ⟨space, m, g, hN, ho, -⟩ := h e r he hr
    rw [hp.host e he, ho.function?_eq hN.bound] at hnone
    cases hnone

variable {id : Nat} {config : Import.Config} {platform : Platform} {ops : List Operation}
  {before after : Trace} {page : Page.Source}

/-- Let a page be loaded when the last function that was registered for a module and name came with
its script, and let the run end with a call of the function. Unless another page has been loaded
meanwhile, the call does not report it as unknown. -/
theorem invoke_ne_unknown_of_load
    (htr : runAllTrace (ops ++ [.invoke module name args]) (new id config platform) =
      before ++ (.load page, s) :: after)
    (htame : ∀ p ∈ before ++ (.load page, s) :: after, p.1.Mild config.namespaceName p.2)
    (hreg : lastRegistered (module, name) before = some b) (hs : b.script ≠ none)
    (hload : (Event.load page).Loads s) (hlast : ∀ p ∈ after, ¬ p.1.Loads p.2) :
    ((runAll ops (new id config platform)).invoke .ordinary module name args).1 ≠
      .failure (.unknownFunction module name) := by
  intro hi
  obtain ⟨tr, t, t', htr', hans⟩ := invoke_of_unknown hi ⟨module, name, rfl⟩
  have hall := htr
  rw [runAllTrace_append, runAllTrace, htr', runAllTrace, List.append_nil,
    ← List.append_assoc] at htr
  obtain ⟨middle, rfl⟩ : ∃ middle, after = middle ++ [(.call (.invoke module name args), t)] := by
    rcases after.eq_nil_or_concat with rfl | ⟨middle, p, rfl⟩
    · cases (List.append_inj' htr rfl).2
    · rw [List.concat_eq_append, ← List.cons_append, ← List.append_assoc] at htr
      cases (List.append_inj' htr rfl).2
      exact ⟨middle, List.concat_eq_append⟩
  rw [List.forall_mem_append, List.forall_mem_cons, List.forall_mem_append] at htame
  obtain ⟨htame, ⟨hload', hr⟩, htame', -⟩ := htame
  obtain ⟨m₁, m₂, hl₁, rfl, hd₁, hl₂⟩ := (hall ▸ leads_runAll _ (new id config platform)).split
  obtain ⟨m₃, m₄, hl₃, rfl, hd₃, -⟩ := hl₂.split
  have hc₁ := Clear.leads hl₁ (.of_none rfl)
  have hp₁ := Paged.leads hl₁ htame (paged_new id config platform)
  have hf₁ := (functions_get? hl₁ (module, name)).trans (congrArg (Option.or · _) hreg)
  have hp₂ := hp₁.does hd₁ hload' hr
  obtain ⟨hp₃, hc₃, h₃⟩ := Covers.leads hl₃
    (fun p hp => ⟨htame' p hp, hlast p (List.mem_append_left _ hp)⟩) hp₂ (hc₁.does hd₁)
    (.load hd₁ hc₁ hload hf₁ hs)
  cases hd₃ with
  | @call s _ hb =>
    refine Provides.not_isUnknown hp₃ (h₃.resolve_right ?_) hans ⟨module, name, rfl⟩
    rw [Moment.awaiting_eq (hc₃ hb)]
    simp

/-- A function that gives the number one back. -/
def one : Binding := ⟨"M", "f", some "() => 1"⟩

/-- The page is loaded again behind the registration of a function, and other functions are registered
without their scripts: one of an object of the page, and the function itself. -/
def reloading : List Operation :=
  [.register one, .register ⟨"Math", "max", none⟩,
    .launch (.content "") (.done ()) fun _ : Unit => [], .register ⟨"M", "f", none⟩]

/-- Whether a page is loaded in a trace whose last registration before it is that of a function. -/
def loadsWith (b : Binding) (tr : Trace) : Bool :=
  match lastLoad tr with
  | some (before, page, s, _) => lastRegistered b.key before = some b &&
      match onHost (Host.load page) s with
      | .ok _ _ => true
      | .error _ _ => false
  | none => false

theorem of_loadsWith (h : loadsWith b tr = true) : ∃ before page s after,
    tr = before ++ (.load page, s) :: after ∧ lastRegistered b.key before = some b ∧
      (Event.load page).Loads s ∧ ∀ p ∈ after, ¬ p.1.Loads p.2 := by
  unfold loadsWith at h
  split at h
  · next before page s after hl =>
    obtain ⟨hb, ho⟩ := Bool.and_eq_true_iff.1 h
    obtain ⟨htr, hlast⟩ := eq_of_lastLoad hl
    split at ho
    · next s' hok => exact ⟨before, page, s, after, htr, of_decide_eq_true hb, ⟨page, s', rfl, hok⟩, hlast⟩
    · cases ho
  · cases h

theorem loadsWith_reloading : loadsWith one
    (runAllTrace (reloading ++ [.invoke "M" "f" []]) (new 0 .standard (.standard .none))) = true := by
  decide +kernel

theorem isTame_reloading :
    (runAllTrace (reloading ++ [.invoke "M" "f" []]) (new 0 .standard (.standard .none))).all
      (fun p => p.1.isTame Import.Config.standard.namespaceName p.2 &&
        p.1.isReceived Import.Config.standard.namespaceName p.2) = true := by
  decide +kernel

theorem invoke_ne_unknown_of_load_reloading :
    ((runAll reloading (new 0 .standard (.standard .none))).invoke .ordinary "M" "f" []).1 ≠
      .failure (.unknownFunction "M" "f") := by
  obtain ⟨before, page, s, after, htr, hreg, hload, hlast⟩ := of_loadsWith loadsWith_reloading
  have hmild : ∀ p ∈ runAllTrace (reloading ++ [.invoke "M" "f" []]) _,
      p.1.Mild Import.Config.standard.namespaceName p.2 :=
    of_runAllTrace (Q := fun ev s => ev.Mild Import.Config.standard.namespaceName s)
      (fun _ _ hh h => ⟨tame_of_isTame hh rfl (Bool.and_eq_true_iff.1 h).1,
        received_of_isReceived (Bool.and_eq_true_iff.1 h).2⟩) isTame_reloading
  rw [htr] at hmild
  exact invoke_ne_unknown_of_load htr hmild hreg (by simp [one]) hload hlast

end ScriptProxy.Session
