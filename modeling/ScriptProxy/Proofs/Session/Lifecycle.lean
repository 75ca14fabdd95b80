import ScriptProxy.Proofs.Session.Handles
import ScriptProxy.Proofs.Session.Ready
import ScriptProxy.Proofs.Session.Replay

/-!
# The life cycle of a session

Between two operations the state of a session, what its callers know of a page, its engine and the
page of the engine agree: `AtRest`, which every operation preserves as long as work does not replace
the page on its own (`LeavesPages`) and every caller waits to the end (`InTime`). Within an operation
they disagree: while a page is loaded or work is run, the state says that, and the rest follows later. A
caller who waits no longer leaves them so, and so does a wait whose limit the clock cannot reach
(`launch_of_beyond`, `execute_of_beyond`).
-/

namespace ScriptProxy

open Exchange (Handle Value)
open Import (Binding Config)
open ScriptProxy.Outcome (left)

/-! ### What stays with a page -/

/-- What a host has as long as its page is not replaced. -/
def Host.standing (h : Host) : Config × Bool × Nat × Nat := (h.config, h.isLoaded, h.pageNumber)

namespace Host

variable {h h' : Host}

theorem standing_eq (hc : h'.config = h.config) (hl : h'.isLoaded = h.isLoaded)
    (hn : h'.handles.number = h.handles.number)
    (hg : h'.handles.generation = h.handles.generation) : h'.standing = h.standing := by
  simp only [standing, pageNumber, generation, hc, hl, hn, hg]

theorem Kept.standing (hk : Kept h h') : h'.standing = h.standing :=
  standing_eq hk.config hk.isLoaded (by rw [hk.handles]) (by rw [hk.handles])

theorem Gives.standing {N : List (Handle × Nat)} (hg : Gives h N h') :
    h'.standing = h.standing :=
  standing_eq hg.config hg.isLoaded hg.number hg.generation

theorem standing_release (h : Host) (held : List Handle) :
    (h.release held).standing = h.standing := by
  obtain ⟨hn, hg, -⟩ := Exchange.HandleTable.foldl_release held h.handles
  exact standing_eq rfl rfl hn hg

/-- Only under a name that scripts can use for the namespace is a page loaded. -/
theorem isIdentifier_of_load {page : Page.Source} (hl : load page h = .ok () h') :
    Text.isIdentifier h.config.namespaceName = true := by
  rw [load_eq] at hl
  split at hl
  · cases hl
  · next hn => simpa using hn

/-- A page that cannot be loaded leaves the host without one. -/
theorem isLoaded_of_load_eq_error {page : Page.Source} {f : Failure}
    (hl : load page h = .error f h')
    (hn : h.isLoaded = true → Text.isIdentifier h.config.namespaceName = true) :
    h'.isLoaded = false := by
  rw [load_eq] at hl
  split at hl
  · next hname =>
    cases hl
    refine Bool.eq_false_iff.2 fun hp => ?_
    simp [hn hp] at hname
  · split at hl
    · cases hl
      rfl
    · split at hl
      · cases hl
      · cases hl
        rfl

end Host

namespace Session

variable {α : Type} {s s' : Session}

/-- What the engine's host has as long as its page is not replaced. -/
def standing (s : Session) : Option (Config × Bool × Nat × Nat) :=
  s.engine.map (·.host.standing)

theorem standing_eq_none : s.standing = none ↔ s.engine = none := Option.map_eq_none_iff

theorem hasPage_eq (s : Session) : s.hasPage = s.standing.any (·.2.1) := by
  rw [hasPage, standing, Option.any_map]
  rfl

theorem standing_onHost (m : EStateM Failure Host α)
    (hm : ∀ h, (left (m h)).standing = h.standing) (s : Session) :
    (settled (onHost m) s).standing = s.standing := by
  cases he : s.engine with
  | none => rw [settled_of_error (onHost_of_none m he)]
  | some e =>
    rw [settled_onHost m he, standing, standing, he]
    exact congrArg some (hm e.host)

theorem standing_install (b : Binding) (s : Session) :
    ((Event.install b).after s).standing = s.standing :=
  standing_onHost (Host.register b) (fun h => (Host.kept_register b h).standing) s

theorem standing_release (held : List Handle) (s : Session) :
    (release held s).standing = s.standing := by
  simp [standing, release, Function.comp_def, Host.standing_release]

/-- A call that does not load a page leaves the page of the engine. -/
theorem standing_answer {c : Call} (hc : ∀ page, c ≠ .load page) (s : Session) :
    (settled (answer c) s).standing = s.standing := by
  by_cases hre : c.reenters = true
  · rw [settled_answer_of_reenters hre]
  cases c with
  | load page => exact absurd rfl (hc page)
  | register b => exact standing_install b s
  | registerScript b =>
    show (settled (registerInside b) s).standing = _
    rw [settled_registerInside]
    exact standing_install b (s.noted b)
  | invoke module name args =>
    exact standing_onHost _ (fun h => (Host.gives_invoke module name args h).standing) s
  | evaluate text =>
    exact standing_onHost _ (fun h => (Host.gives_handedOut (Host.kept_evaluating _) h).standing) s
  | isLoaded => exact standing_onHost (return (← get).isLoaded) (fun _ => rfl) s
  | generation => exact standing_onHost (return (← get).generation) (fun _ => rfl) s
  | liveHandles =>
    refine standing_onHost Host.liveHandles (fun h => ?_) s
    exact Host.standing_eq rfl rfl (Exchange.HandleTable.number_sweep _)
      (Exchange.HandleTable.generation_sweep _)
  | describeHost => exact standing_onHost (return (← get).describe) (fun _ => rfl) s
  | hide =>
    show s.hide.standing = _
    unfold Session.hide
    split <;> rfl
  | keep name v => exact standing_release _ _
  | giveUp name => exact standing_release _ _
  | discard v => exact standing_release _ s
  | execute | launch _ | shutdown => exact absurd rfl hre
  | namespaceName | state | isEngine | kept _ | takePrinted => rfl

/-- Whether work loads a page on its own. -/
def Event.replaces : Event → Bool
  | .call (.load _) => true
  | _ => false

/-- No work loads a page. -/
def LeavesPages (tr : Trace) : Prop := ∀ p ∈ tr, p.1.replaces = false

/-- Whether a caller stops waiting. -/
def Event.abandons : Event → Bool
  | .abandon => true
  | _ => false

/-- Whoever waits does so until the engine is done. -/
def InTime (tr : Trace) : Prop := ∀ p ∈ tr, p.1.abandons = false

theorem leavesPages_append {tr tr' : Trace} :
    LeavesPages (tr ++ tr') ↔ LeavesPages tr ∧ LeavesPages tr' := List.forall_mem_append

theorem inTime_append {tr tr' : Trace} : InTime (tr ++ tr') ↔ InTime tr ∧ InTime tr' :=
  List.forall_mem_append

theorem not_inTime_abandon {tr : Trace} (h : InTime ((.abandon, s) :: tr)) : False :=
  nomatch h _ List.mem_cons_self

/-- Work that does not load a page leaves the page of the engine. -/
theorem standing_perform (through : Bool) (w : Work α) (s : Session)
    (hl : LeavesPages (workTrace through .call w s)) :
    (perform through w s).2.standing = s.standing := by
  induction w generalizing s with
  | done a => rfl
  | fail f => rfl
  | panic p => rfl
  | call c next ih =>
    unfold workTrace at hl
    obtain ⟨hc, hl⟩ := List.forall_mem_cons.1 hl
    have hs := standing_answer (c := c) (fun page h => by subst h; cases hc) s
    unfold perform
    cases ha : answer c s with
    | ok a t =>
      rw [settled_of_ok ha] at hs
      rw [ha] at hl
      exact (ih _ t hl).trans hs
    | error f t =>
      rw [settled_of_error ha] at hs
      rw [ha] at hl
      dsimp only at hl ⊢
      cases hp : f.panic? with
      | some p => exact hs
      | none =>
        rw [hp] at hl
        exact (ih _ t hl).trans hs
  | wait next ih =>
    unfold workTrace at hl
    unfold perform
    split
    · next hg =>
      rw [if_pos hg] at hl
      exact ih s hl
    · rfl

/-! ### Between two operations -/

/-- The engine's host goes by the session's configuration, which allows the page that it has. -/
structure Matched (s : Session) : Prop where
  config : ∀ e, s.engine = some e → e.host.config = s.config
  named : s.hasPage = true → Text.isIdentifier s.config.namespaceName = true

theorem Matched.of_standing (h : Matched s) (hc : s'.config = s.config)
    (hs : s'.standing = s.standing) : Matched s' := by
  refine ⟨fun e' he' => ?_, fun hp => ?_⟩
  · rw [standing, standing, he', Option.map_some] at hs
    obtain ⟨e, he, heq⟩ := Option.map_eq_some_iff.1 hs.symm
    rw [hc, ← h.config e he]
    exact (congrArg Prod.fst heq).symm
  · rw [hasPage_eq, hs, ← hasPage_eq] at hp
    exact hc ▸ h.named hp

theorem Matched.withEngine (h : Matched s) : Matched s.withEngine := by
  unfold Session.withEngine
  split
  · exact h
  · refine ⟨?_, nofun⟩
    rintro _ ⟨rfl⟩
    rfl

/-- What holds of a session between two operations. -/
structure AtRest (s : Session) : Prop extends Matched s where
  unblocked : s.isBlocked = false
  state : s.state ∈ [.notStarted, .ready, .error, .hidden]
  started : s.state = .notStarted ↔ s.engine = none
  page : s.pageReady = s.hasPage
  ready : s.state = .ready → s.pageReady = true

namespace AtRest

theorem new (id : Nat) (config : Config) (platform : Platform) :
    AtRest (new id config platform) where
  config := nofun
  named := nofun
  unblocked := rfl
  state := by simp [Session.new]
  started := by simp [Session.new]
  page := rfl
  ready := nofun

/-- What an operation changes that does not concern the life cycle. -/
theorem congr (h : AtRest s) (hc : s'.config = s.config) (hs : s'.standing = s.standing)
    (hb : s'.isBlocked = s.isBlocked) (hst : s'.state = s.state)
    (hr : s'.pageReady = s.pageReady) : AtRest s' where
  toMatched := h.toMatched.of_standing hc hs
  unblocked := hb.trans h.unblocked
  state := hst ▸ h.state
  started := by rw [hst, ← standing_eq_none, hs, standing_eq_none, h.started]
  page := by rw [hr, h.page, hasPage_eq, hasPage_eq, hs]
  ready := fun h' => hr ▸ h.ready (hst ▸ h')

/-- A session with an engine, in a state in which it is not being used. -/
theorem of_engine (hm : Matched s) (hb : s.isBlocked = false) {e : Engine} (he : s.engine = some e)
    (hst : s.state ∈ [.ready, .error, .hidden]) (hp : s.pageReady = s.hasPage)
    (hr : s.state = .ready → s.pageReady = true) : AtRest s where
  toMatched := hm
  unblocked := hb
  state := .tail _ hst
  started := by
    rw [he]
    refine iff_of_false (fun hn => ?_) nofun
    simp [hn] at hst
  page := hp
  ready := hr

/-- Work is accepted as soon as there is an engine. -/
theorem acceptsWork (h : AtRest s) (he : s.engine ≠ none) : s.state.acceptsWork = true := by
  have hn := mt h.started.1 he
  have hst := h.state
  generalize s.state = st at hn hst
  revert hn hst
  cases st <;> simp [State.acceptsWork]

end AtRest

/-! ### Loading a page -/

section load
variable {page : Page.Source} {f : Failure}

theorem hasPage_of_load_eq_error (hm : Matched s) (hl : onHost (Host.load page) s = .error f s') :
    s'.hasPage = false := by
  cases he : s.engine with
  | none =>
    cases (onHost_of_none _ he).symm.trans hl
    rw [hasPage, he]
    rfl
  | some e =>
    rw [onHost_of_some _ he] at hl
    split at hl
    · cases hl
    · next hload =>
      cases hl
      have hn := Host.isLoaded_of_load_eq_error hload fun hp => by
        rw [hm.config e he]
        exact hm.named (by rw [hasPage, he]; exact hp)
      exact hn

theorem Matched.load (hm : Matched s) (page : Page.Source) :
    Matched (settled (onHost (Host.load page)) s) := by
  cases he : s.engine with
  | none =>
    rw [settled_of_error (onHost_of_none _ he)]
    exact hm
  | some e =>
    have hc := hm.config e he
    cases hl : Host.load page e.host with
    | ok a h =>
      rw [settled_onHost _ he, hl]
      refine ⟨?_, fun _ => hc ▸ Host.isIdentifier_of_load hl⟩
      rintro _ ⟨rfl⟩
      exact (Host.kept_load hl).config.trans hc
    | error f h =>
      have hp : (s.hosting e h).hasPage = false :=
        hasPage_of_load_eq_error hm (by rw [onHost_of_some _ he, hl])
      rw [settled_onHost _ he, hl]
      refine ⟨?_, fun h => nomatch hp.symm.trans h⟩
      rintro _ ⟨rfl⟩
      rcases Host.of_load_eq_error hl with rfl | ⟨-, hconf, -⟩
      · exact hc
      · exact hconf.trans hc

theorem standing_replay (s : Session) : s.replay.standing = s.standing := by
  unfold replay
  generalize s.registered = bs
  induction bs generalizing s with
  | nil => rfl
  | cons b bs ih => exact (ih _).trans (standing_install b s)

theorem Matched.loadPage (hm : Matched s) (page : Page.Source) :
    Matched (settled (loadPage page) s) := by
  have hm := hm.load page
  cases hl : onHost (Host.load page) s with
  | ok a t =>
    rw [settled_of_ok hl] at hm
    rw [settled_of_ok (loadPage_of_ok hl)]
    exact hm.of_standing (kept_replay t).config (standing_replay t)
  | error f t =>
    rw [settled_of_error hl] at hm
    rwa [settled_of_error (loadPage_of_error hl)]

theorem hasPage_of_loadPage_eq_error (hm : Matched s) (hl : loadPage page s = .error f s') :
    s'.hasPage = false := by
  cases h : onHost (Host.load page) s with
  | ok a t => cases (loadPage_of_ok h).symm.trans hl
  | error f t =>
    cases (loadPage_of_error h).symm.trans hl
    exact hasPage_of_load_eq_error hm h

theorem exists_engine_withEngine (s : Session) : ∃ e, s.withEngine.engine = some e := by
  unfold withEngine
  split
  · next e he => exact ⟨e, he⟩
  · exact ⟨_, rfl⟩

theorem bootTurn_of_unblocked (hb : s.isBlocked = false) : s.bootTurn = s.starting :=
  turn_of_unblocked _ ((isBlocked_withEngine s.unready).trans hb)

/-- The clock has time for a limit that nobody stops waiting for. -/
theorem isBeyond_of_bootTrace (ht : InTime (bootTrace page s)) :
    s.starting.isBeyond s.config.bootTimeout = false := by
  refine Bool.eq_false_iff.2 fun h => ?_
  have ht := (List.forall_mem_cons.1 ht).2
  rw [if_pos h] at ht
  exact not_inTime_abandon ht

/-- A page is there when the engine has loaded it, and none if it could not be loaded. -/
theorem Matched.boot (hm : Matched s) (page : Page.Source) (hb : s.isBlocked = false)
    (hx : s.starting.isBeyond s.config.bootTimeout = false) : AtRest (settled (boot page) s) := by
  have hb' : s.starting.isBlocked = false := (isBlocked_withEngine s.unready).trans hb
  have hm' : Matched s.unready := hm.of_standing rfl rfl
  have hm' : Matched s.starting := hm'.withEngine
  have hk := kept_loadPage page s.starting
  have hml := hm'.loadPage page
  obtain ⟨e₀, he₀⟩ := exists_engine_withEngine s.unready
  obtain ⟨e, he⟩ := hk.exists_engine he₀
  have hturn := bootTurn_of_unblocked hb
  rw [settled, boot_of_unblocked hx (hturn ▸ hb'), hturn]
  cases hl : Session.loadPage page s.starting with
  | ok a t =>
    rw [settled_of_ok hl] at hk hml he
    refine .of_engine (hml.of_standing rfl rfl) (hk.isBlocked.trans hb') he (by simp) ?_ fun _ => rfl
    exact (hasPage_of_loadPage hl).symm
  | error f t =>
    rw [settled_of_error hl] at hk hml he
    have hp : t.pageReady = false := hk.pageReady.trans s.pageReady_starting
    refine .of_engine (hml.of_standing rfl rfl) (hk.isBlocked.trans hb') he (by simp) ?_ ?_
    · exact hp.trans (hasPage_of_loadPage_eq_error hm' hl).symm
    · rintro ⟨⟩

theorem pageReady_of_boot (hb : s.isBlocked = false)
    (hx : s.starting.isBeyond s.config.bootTimeout = false) (h : Session.boot page s = .ok () s') :
    s'.pageReady = true := by
  have hb' : s.starting.isBlocked = false := (isBlocked_withEngine s.unready).trans hb
  rw [boot_of_unblocked hx (bootTurn_of_unblocked hb ▸ hb')] at h
  split at h
  · cases h
    rfl
  · cases h

end load

/-! ### Waits that break off -/

section beyond
variable {page : Page.Source} {w : Work α} {values : α → List Value}

theorem state_withEngine (s : Session) : s.withEngine.state = s.state := by
  unfold withEngine
  split <;> rfl

theorem state_replay (s : Session) : s.replay.state = s.state := by
  unfold replay
  generalize s.registered = bs
  induction bs generalizing s with
  | nil => rfl
  | cons b bs ih => exact (ih _).trans (state_onHost (Host.register b) s)

theorem state_loadPage (page : Page.Source) (s : Session) :
    (settled (loadPage page) s).state = s.state := by
  have hs := state_onHost (Host.load page) s
  cases hl : onHost (Host.load page) s with
  | ok a t =>
    rw [settled_of_ok hl] at hs
    rw [settled_of_ok (loadPage_of_ok hl)]
    exact (state_replay t).trans hs
  | error f t =>
    rw [settled_of_error hl] at hs
    rwa [settled_of_error (loadPage_of_error hl)]

/-- A session cannot be hidden while work is run. -/
theorem state_answer_of_executing (c : Call) (hs : s.state = .executing) :
    (settled (answer c) s).state = .executing := by
  by_cases hc : c = .hide
  · subst hc
    show s.hide.state = _
    unfold Session.hide
    rwa [if_neg (by simp [hs])]
  · rw [state_answer hc, hs]

theorem state_perform (through : Bool) (w : Work α) (hs : s.state = .executing) :
    (perform through w s).2.state = .executing := by
  induction w generalizing s with
  | done a => exact hs
  | fail f => exact hs
  | panic p => exact hs
  | call c next ih =>
    have hc := state_answer_of_executing c hs
    unfold perform
    cases ha : answer c s with
    | ok a t => exact ih _ (settled_of_ok ha ▸ hc)
    | error f t =>
      rw [settled_of_error ha] at hc
      dsimp only
      cases f.panic? with
      | some p => exact hc
      | none => exact ih _ hc
  | wait next ih =>
    unfold perform
    split
    · exact ih hs
    · exact hs

theorem state_send_run (w : Work Unit) (hs : s.state = .executing) :
    (s.send (.run w)).state = .executing := by
  have hw := state_perform false w hs
  unfold send obey
  split
  · exact hs
  · dsimp only
    split
    · next hp => rwa [hp] at hw
    · next hp =>
      rw [hp] at hw
      exact hw

/-- A limit for which the clock has no time makes a launch break off, and the session is left starting,
though its engine loads the page. -/
theorem launch_of_beyond (h : s.starting.isBeyond s.config.bootTimeout = true) :
    (s.launch .ordinary page w values).1 = .ofFailure .noDeadline ∧
      (s.launch .ordinary page w values).2.state = .starting := by
  rw [launch_ordinary, bootAndRun, boot_of_beyond h]
  refine ⟨rfl, ?_⟩
  have hstart : s.starting.state = .starting := state_withEngine s.unready
  show (s.starting.send (.load page)).state = .starting
  unfold send
  split
  · exact hstart
  · exact (state_loadPage page s.starting).trans hstart

/-- In the same way, work breaks off for its caller, and the session is left executing. -/
theorem execute_of_beyond (hp : s.pageReady = true) (hs : s.state.acceptsWork = true)
    (h : s.executing.isBeyond s.config.executionTimeout = true) :
    (s.execute .ordinary w values).1 = .ofFailure .noDeadline ∧
      (s.execute .ordinary w values).2.state = .executing := by
  rw [execute_ordinary, if_pos hp, run_of_accepted hs, if_pos h]
  exact ⟨rfl, state_send_run _ (state_withEngine s.busy)⟩

end beyond

/-! ### Running work -/

/-- The state of a session after work has ended. -/
def Outcome.state : Outcome α → State
  | .value _ => .ready
  | .failure _ | .panic _ => .error

theorem Outcome.state_mem (o : Outcome α) : o.state ∈ [.ready, .error, .hidden] := by
  cases o <;> simp [Outcome.state]

/-- The engine and its page are the ones before, and the record has what was registered in the trace
besides. -/
structure Retains (tr : Trace) (s s' : Session) : Prop where
  kept : Kept s s'
  page : s'.standing = s.standing
  functions : s'.functions = (registrations tr).foldl Functions.insert s.functions

/-- How far work comes that is waited for with the limit of the configuration. -/
def awaited (w : Work α) (s : Session) : Progress α × Session :=
  perform s.config.executionTimeout.isNone w s

/-- The calls of work that is waited for with the limit of the configuration. -/
def awaitedTrace (w : Work α) (s : Session) : Trace :=
  workTrace s.config.executionTimeout.isNone .call w s

section run
variable {w : Work α} {values : α → List Value} {e : Engine}

theorem executing_of_some (he : s.engine = some e) : s.executing = s.busy :=
  withEngine_of_some (s := s.busy) he

theorem runTurn_of_unblocked (he : s.engine = some e) (hb : s.isBlocked = false) :
    s.runTurn = s.busy := by
  rw [runTurn, executing_of_some he]
  exact turn_of_unblocked _ hb

/-- Work that its caller waits for ends, and its outcome is passed on. -/
theorem exists_ended (hs : s.state.acceptsWork = true) (he : s.engine = some e)
    (hb : s.isBlocked = false) (ht : InTime (runTrace w values s)) :
    runTrace w values s = (.start, s.busy) :: awaitedTrace w s.busy ∧
      ∃ o s', awaited w s.busy = (.ended o, s') ∧
        run w values s = (o, { s' with state := o.state }) := by
  have hx := executing_of_some he
  have hturn := runTurn_of_unblocked he hb
  have hb' : s.busy.isBlocked = false := hb
  have hnone : turnTrace s.config.executionTimeout s.busy = [] :=
    turnTrace_of_unblocked _ (s := s.busy) hb
  unfold runTrace at ht ⊢
  rw [run_of_accepted hs]
  rw [hs, hx] at ht ⊢
  have hnear : s.busy.isBeyond s.config.executionTimeout = false := by
    refine Bool.eq_false_iff.2 fun h => ?_
    have ht := (List.forall_mem_cons.1 ht).2
    rw [if_pos h] at ht
    exact not_inTime_abandon ht
  simp only [hnear, hb', hnone, hturn, Bool.not_true, Bool.false_eq_true, if_false,
    List.nil_append] at ht ⊢
  have ht := (List.forall_mem_cons.1 ht).2
  unfold waitTrace at ht ⊢
  obtain ⟨progress, s', hp⟩ :
      ∃ progress s', perform s.config.executionTimeout.isNone w s.busy = (progress, s') := ⟨_, _, rfl⟩
  rw [hp] at ht ⊢
  have hp : awaited w s.busy = (progress, s') := hp
  match progress with
  | .ended o =>
    refine ⟨by rw [List.append_nil]; rfl, o, s', hp, ?_⟩
    cases o <;> rfl
  | .waiting rest => exact (not_inTime_abandon (inTime_append.1 ht).2).elim

theorem retains_awaited (w : Work α) (hb : s.isBlocked = false)
    (hl : LeavesPages (awaitedTrace w s)) : Retains (awaitedTrace w s) s (awaited w s).2 :=
  ⟨.perform _ w s, standing_perform _ w s hl, functions_leads (leads_call _ w hb).1⟩

end run

namespace AtRest
variable {w : Work α} {values : α → List Value}

theorem exists_engine (h : AtRest s) (hp : s.pageReady = true) : ∃ e, s.engine = some e := by
  refine Option.ne_none_iff_exists'.1 fun he => ?_
  rw [h.page, hasPage, he] at hp
  cases hp

section run
variable (h : AtRest s) (hp : s.pageReady = true) (hl : LeavesPages (runTrace w values s))
  (ht : InTime (runTrace w values s))
include h hp hl ht

/-- Work is run on the page that the callers know of. -/
theorem run_eq : runTrace w values s = (.start, s.busy) :: awaitedTrace w s.busy ∧
    ∃ o s', awaited w s.busy = (.ended o, s') ∧
      Session.run w values s = (o, { s' with state := o.state }) ∧
      Retains (awaitedTrace w s.busy) s.busy s' := by
  obtain ⟨e, he⟩ := h.exists_engine hp
  have hs := h.acceptsWork (by simp [he])
  obtain ⟨htr, o, s', hperf, hrun⟩ := exists_ended hs he h.unblocked ht
  rw [htr] at hl
  have hret := retains_awaited (s := s.busy) w h.unblocked (List.forall_mem_cons.1 hl).2
  rw [hperf] at hret
  exact ⟨htr, o, s', hperf, hrun, hret⟩

theorem run : AtRest (Session.run w values s).2 := by
  obtain ⟨e, he⟩ := h.exists_engine hp
  obtain ⟨-, o, s', -, hrun, hk, hst, -⟩ := h.run_eq hp hl ht
  obtain ⟨e', he'⟩ := hk.exists_engine (s := s.busy) he
  have hr : s'.pageReady = true := hk.pageReady.trans hp
  rw [hrun]
  refine .of_engine (h.toMatched.of_standing hk.config hst) (hk.isBlocked.trans h.unblocked) he'
    o.state_mem ?_ fun _ => hr
  show s'.pageReady = s'.hasPage
  rw [hr, hasPage_eq, hst, ← hasPage_eq]
  exact hp.symm.trans h.page

end run

theorem bootAndRun {page : Page.Source} (hm : Matched s) (hb : s.isBlocked = false)
    (hl : LeavesPages (bootAndRunTrace page w values s))
    (ht : InTime (bootAndRunTrace page w values s)) :
    AtRest (Session.bootAndRun page w values s).2 := by
  have hl := (leavesPages_append.1 hl).2
  obtain ⟨htb, ht⟩ := inTime_append.1 ht
  have hx := isBeyond_of_bootTrace htb
  have h := hm.boot page hb hx
  unfold Session.bootAndRun
  cases hboot : Session.boot page s with
  | ok a t =>
    rw [settled_of_ok hboot] at h
    rw [hboot] at hl ht
    exact h.run (pageReady_of_boot hb hx hboot) hl ht
  | error f t =>
    rw [settled_of_error hboot] at h
    exact h

theorem execute (h : AtRest s) (hl : LeavesPages (executeTrace w values s))
    (ht : InTime (executeTrace w values s)) : AtRest (s.execute .ordinary w values).2 := by
  rw [execute_ordinary]
  unfold executeTrace at hl ht
  split
  · next hp =>
    rw [if_pos hp] at hl ht
    exact h.run hp hl ht
  · next hp =>
    rw [if_neg hp] at hl ht
    split
    · next ha =>
      rw [if_pos ha] at hl ht
      exact bootAndRun h.toMatched h.unblocked hl ht
    · exact h

/-- A function that is passed to the engine is installed at once. -/
theorem post (h : AtRest s) (b : Binding) {e : Engine} (he : s.engine = some e) :
    AtRest (s.post b) := by
  have hpost : s.post b = (Event.install b).after s := by
    unfold Session.post send
    rw [withEngine_of_some he, obey_register]
    exact if_neg (by simp [h.unblocked])
  have hk : Kept s ((Event.install b).after s) := .onHost (Host.register b) s
  rw [hpost]
  exact h.congr hk.config (standing_install b s) hk.isBlocked (state_onHost (Host.register b) s)
    hk.pageReady

theorem noted (h : AtRest s) (b : Binding) : AtRest (s.noted b) := h.congr rfl rfl rfl rfl rfl

theorem register (h : AtRest s) (b : Binding) (ht : InTime (registerTrace b s)) :
    AtRest (settled (Session.register .ordinary b) s) := by
  have hn := h.noted b
  unfold registerTrace at ht
  have ht := (List.forall_mem_cons.1 ht).2
  rw [settled, register_ordinary]
  cases he : s.engine with
  | some e => exact hn.post b he
  | none =>
    have hp : s.pageReady = false := by rw [h.page, hasPage, he]; rfl
    rw [hp]
    rw [he, hp] at ht
    cases ha : s.config.autoBoot with
    | false => exact hn
    | true =>
      rw [ha] at ht
      exact hn.toMatched.boot s.defaultPage hn.unblocked (isBeyond_of_bootTrace ht)

theorem hide (h : AtRest s) : AtRest s.hide := by
  unfold Session.hide
  split
  · next hst =>
    obtain ⟨e, he⟩ : ∃ e, s.engine = some e := by
      refine Option.ne_none_iff_exists'.1 fun he => ?_
      rw [h.started.2 he] at hst
      simp at hst
    exact .of_engine (h.toMatched.of_standing rfl rfl) h.unblocked he (by simp) h.page nofun
  · exact h

/-- Whatever was to be done, the session is as at its beginning when its engine has ended. -/
theorem stopped (hr : s.pageReady = false) : AtRest s.stopped where
  config := nofun
  named := nofun
  unblocked := rfl
  state := by simp [Session.stopped]
  started := by simp [Session.stopped]
  page := hr
  ready := nofun

theorem resume (h : AtRest s) (through : Bool) : AtRest (s.resume through) := by
  rwa [resume_of_unblocked through h.unblocked]

/-- What every operation preserves. -/
theorem operation (h : AtRest s) (op : Operation) (hl : LeavesPages (op.trace s))
    (ht : InTime (op.trace s)) : AtRest (op.run s) := by
  have called (c : Call) (hc : ∀ page, c ≠ .load page)
      (hst : (settled (answer c) s).state = s.state) : AtRest (settled (answer c) s) :=
    have hk := Kept.answer c s
    h.congr hk.config (standing_answer hc s) hk.isBlocked hst hk.pageReady
  cases op with
  | launch page w values =>
    show AtRest (s.launch .ordinary page w values).2
    rw [launch_ordinary]
    exact bootAndRun h.toMatched h.unblocked hl ht
  | execute w values => exact h.execute hl ht
  | register b => exact h.register b ht
  | hide => exact h.hide
  | shutdown =>
    show AtRest (settled (Session.shutdown .ordinary) s)
    rw [settled_of_ok (shutdown_of_ne s.isEngine_ordinary)]
    exact .stopped (pageReady_resume true s.closing)
  | release => exact h.resume false
  | keep name v => exact called (.keep name v) nofun rfl
  | giveUp name => exact called (.giveUp name) nofun rfl
  | discard v => exact called (.discard v) nofun rfl

end AtRest

/-! ### Whole runs -/

theorem AtRest.runAll {ops : List Operation} (h : AtRest s) (hl : LeavesPages (runAllTrace ops s))
    (ht : InTime (runAllTrace ops s)) : AtRest (runAll ops s) := by
  induction ops generalizing s with
  | nil => exact h
  | cons op ops ih =>
    obtain ⟨hl, hl'⟩ := leavesPages_append.1 hl
    obtain ⟨ht, ht'⟩ := inTime_append.1 ht
    exact ih (h.operation op hl ht) hl' ht'

end Session
end ScriptProxy
