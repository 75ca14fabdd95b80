import ScriptProxy.Proofs.Host.Frame
import ScriptProxy.Proofs.Session.Trace

/-!
# Runs of a session

Every operation leads from the session before it to the session behind it with its trace, and so
does every list of operations: `leads_runAll`. `Kept` is what no call of work and no installation
changes, which is most of a session.
-/

namespace ScriptProxy.Session

open Import (Binding)
open Exchange (Handle Shelf Value)
open ScriptProxy.Outcome (bind_of_error bind_of_ok get_apply)

variable {α β : Type} {s s' : Session}

theorem settled_of_ok {m : EStateM Failure Session α} {a : α} (h : m s = .ok a s') :
    settled m s = s' := by
  rw [settled, h]

theorem settled_of_error {m : EStateM Failure Session α} {f : Failure} (h : m s = .error f s') :
    settled m s = s' := by
  rw [settled, h]

theorem settled_bind (m : EStateM Failure Session α) (f : α → EStateM Failure Session β)
    (s : Session) : settled (m >>= f) s = match m s with
      | .ok a s => settled (f a) s
      | .error _ s => s := by
  show settled (EStateM.bind m f) s = _
  unfold settled EStateM.bind
  cases m s <;> rfl

theorem withEngine_of_some {e : Engine} (he : s.engine = some e) : s.withEngine = s := by
  rw [withEngine, he]

theorem isBlocked_withEngine (s : Session) : s.withEngine.isBlocked = s.isBlocked := by
  unfold withEngine
  split
  · rfl
  · next he => simp [isBlocked, he]

/-- The session whose engine's host has become another, which has printed some lines. -/
def hosting (e : Engine) (h : Host) (s : Session) : Session :=
  { s with
    engine := some { e with host := { h with printed := [] } }
    outside := { s.outside with log := s.outside.log ++ h.printed } }

theorem onHost_of_none (m : EStateM Failure Host α) (he : s.engine = none) :
    onHost m s = .error .disconnected s := by
  rw [onHost, he]

theorem onHost_of_some (m : EStateM Failure Host α) {e : Engine} (he : s.engine = some e) :
    onHost m s = match m e.host with
      | .ok a h => .ok a (s.hosting e h)
      | .error f h => .error f (s.hosting e h) := by
  rw [onHost, he]
  rfl

theorem onHost_eq_ok {m : EStateM Failure Host α} {a : α} (h : onHost m s = .ok a s') :
    ∃ e h', s.engine = some e ∧ m e.host = .ok a h' ∧ s' = s.hosting e h' := by
  cases he : s.engine with
  | none => cases (onHost_of_none m he).symm.trans h
  | some e =>
    rw [onHost_of_some m he] at h
    split at h
    · next hm =>
      cases h
      exact ⟨e, _, rfl, hm, rfl⟩
    · cases h

theorem onHost_eq_error {m : EStateM Failure Host α} {f : Failure} (h : onHost m s = .error f s') :
    f = .disconnected ∨ ∃ e h', s.engine = some e ∧ m e.host = .error f h' := by
  cases he : s.engine with
  | none =>
    cases (onHost_of_none m he).symm.trans h
    exact .inl rfl
  | some e =>
    rw [onHost_of_some m he] at h
    split at h
    · cases h
    · next hm =>
      cases h
      exact .inr ⟨e, _, rfl, hm⟩

theorem settled_onHost (m : EStateM Failure Host α) {e : Engine} (he : s.engine = some e) :
    settled (onHost m) s = s.hosting e (ScriptProxy.Outcome.left (m e.host)) := by
  rw [settled, onHost_of_some m he]
  cases m e.host <;> rfl

/-- To ask first whether there is a page makes no difference: without one nothing can be installed,
and the lines that the host has printed are taken in any case. -/
theorem obey_register (through : Bool) (b : Binding) (s : Session) :
    s.obey through (.register b) = (Event.install b).after s := by
  show settled (onHost (return (← get).isLoaded) >>= _) s = settled (onHost (Host.register b)) s
  rw [settled_bind]
  cases he : s.engine with
  | none => simp [settled, onHost, he]
  | some e =>
    rw [onHost_of_some _ he, settled_onHost _ he]
    show settled (if e.host.isLoaded then onHost (Host.register b) else pure ())
      (s.hosting e e.host) = _
    split
    · next hl =>
      rw [settled_onHost _ rfl]
      have h := Host.left_evaluating (Host.installing · e.host.config.namespaceName b) e.host
      simp [hosting, Host.register_eq, h]
    · next hl =>
      have hp : e.host.page = none := by simpa [Host.isLoaded] using hl
      rw [Host.register_of_unloaded b hp]
      rfl

theorem settled_registerInside (b : Binding) (s : Session) :
    settled (registerInside b) s = (Event.install b).after (s.noted b) :=
  obey_register false b (s.noted b)

/-- What the engine's host does, and what work does, leaves this as it is. -/
structure Kept (s s' : Session) : Prop where
  id : s'.id = s.id
  config : s'.config = s.config
  platform : s'.platform = s.platform
  engines : s'.engines = s.engines
  pageReady : s'.pageReady = s.pageReady
  line : s'.engine.map (fun e => (e.waiting, e.queue)) = s.engine.map fun e => (e.waiting, e.queue)

namespace Kept

theorem refl (s : Session) : Kept s s := ⟨rfl, rfl, rfl, rfl, rfl, rfl⟩

theorem trans {s₁ : Session} (h : Kept s s₁) (h' : Kept s₁ s') : Kept s s' :=
  ⟨h'.id.trans h.id, h'.config.trans h.config, h'.platform.trans h.platform,
    h'.engines.trans h.engines, h'.pageReady.trans h.pageReady, h'.line.trans h.line⟩

theorem isBlocked (h : Kept s s') : s'.isBlocked = s.isBlocked := by
  have hb (s : Session) : s.isBlocked =
      (s.engine.map fun e => (e.waiting, e.queue)).any (·.1.isSome) := by
    rw [Option.any_map]
    rfl
  rw [hb, hb, h.line]

theorem exists_engine (h : Kept s s') {e : Engine} (he : s.engine = some e) :
    ∃ e', s'.engine = some e' := by
  have hl := h.line
  rw [he, Option.map_some] at hl
  obtain ⟨e', he', -⟩ := Option.map_eq_some_iff.1 hl
  exact ⟨e', he'⟩

theorem onHost (m : EStateM Failure Host α) (s : Session) :
    Kept s (settled (Session.onHost m) s) := by
  cases he : s.engine with
  | none =>
    rw [settled_of_error (onHost_of_none m he)]
    exact refl s
  | some e =>
    rw [settled_onHost m he]
    exact ⟨rfl, rfl, rfl, rfl, rfl, by simp [hosting, he]⟩

theorem release (held : List Handle) (s : Session) : Kept s (release held s) :=
  ⟨rfl, rfl, rfl, rfl, rfl, by simp [Session.release, Function.comp_def]⟩

theorem registerInside (b : Binding) (s : Session) :
    Kept s (settled (Session.registerInside b) s) := by
  rw [settled_registerInside]
  have hn : Kept s (s.noted b) := ⟨rfl, rfl, rfl, rfl, rfl, rfl⟩
  exact hn.trans (Kept.onHost (Host.register b) _)

theorem shelve (shelf : Shelf) (unheld : List Handle) (s : Session) :
    Kept s (shelve shelf unheld s) := by
  have h : Kept s { s with outside := { s.outside with shelf := shelf } } :=
    ⟨rfl, rfl, rfl, rfl, rfl, rfl⟩
  exact h.trans (release unheld _)

end Kept

/-- The engine is refused what it would wait for itself in. -/
theorem rejectReentrant_of_isEngine {t : Thread} (h : s.isEngine t = true) :
    rejectReentrant t s = .error .reentrant s := if_pos h

theorem rejectReentrant_of_ne {t : Thread} (h : s.isEngine t = false) :
    rejectReentrant t s = .ok () s := if_neg (Bool.eq_false_iff.1 h)

theorem isEngine_engineThread (s : Session) : s.isEngine s.engineThread = true := decide_eq_true rfl

theorem isEngine_ordinary (s : Session) : s.isEngine .ordinary = false := decide_eq_false nofun

theorem unlessEngine_of_ne {t : Thread} (h : s.isEngine t = false)
    (m : Session → Outcome α × Session) : unlessEngine t m s = m s := by
  rw [unlessEngine, rejectReentrant_of_ne h]

/-- Whether the engine would wait for itself if it answered a call. -/
def Call.reenters : Call → Bool
  | .execute | .launch _ | .shutdown => true
  | _ => false

/-- What work is refused changes nothing. -/
theorem answer_of_reenters {c : Call} (h : c.reenters = true) (s : Session) :
    answer c s = .error .reentrant s := by
  have refused {β : Type} (m : EStateM Failure Session β) :
      (do rejectReentrant (← get).engineThread; m : EStateM Failure Session β) s =
        .error .reentrant s := by
    rw [bind_of_ok (get_apply s)]
    exact bind_of_error (rejectReentrant_of_isEngine s.isEngine_engineThread)
  cases c with
  | execute | launch _ | shutdown => exact refused _
  | _ => cases h

theorem settled_answer_of_reenters {c : Call} (h : c.reenters = true) (s : Session) :
    settled (answer c) s = s := settled_of_error (answer_of_reenters h s)

theorem Kept.answer (c : Call) (s : Session) : Kept s (settled (Session.answer c) s) := by
  by_cases hr : c.reenters = true
  · rw [settled_answer_of_reenters hr]
    exact refl s
  cases c with
  | hide =>
    show Kept s s.hide
    unfold Session.hide
    split <;> exact ⟨rfl, rfl, rfl, rfl, rfl, rfl⟩
  | registerScript b => exact registerInside b s
  | keep name v => exact shelve _ _ s
  | giveUp name => exact shelve _ _ s
  | discard v => exact release _ s
  | takePrinted => exact ⟨rfl, rfl, rfl, rfl, rfl, rfl⟩
  | load page => exact Kept.onHost (Host.load page) s
  | register b => exact Kept.onHost (Host.register b) s
  | invoke module name args => exact Kept.onHost (Host.invoke module name args) s
  | evaluate text => exact Kept.onHost (Host.evaluate text) s
  | isLoaded => exact Kept.onHost (return (← get).isLoaded) s
  | generation => exact Kept.onHost (return (← get).generation) s
  | liveHandles => exact Kept.onHost Host.liveHandles s
  | describeHost => exact Kept.onHost (return (← get).describe) s
  | execute | launch _ | shutdown => exact absurd rfl hr
  | namespaceName | state | isEngine | kept _ => exact refl s

/-! ### Work -/

/-- Work leads to where it ends or is held up, if its calls can be made where it goes on. -/
theorem leads_perform {event : Call → Event} {q : List Command} {I : Session → Prop}
    (through : Bool)
    (step : ∀ c s, I s → Does (event c) ⟨s, q⟩ ⟨settled (answer c) s, q⟩ ∧ I (settled (answer c) s))
    (w : Work α) (s : Session) (h : I s) :
    Leads ⟨s, q⟩ (workTrace through event w s) ⟨(perform through w s).2, q⟩ ∧
      I (perform through w s).2 := by
  induction w generalizing s with
  | done a => exact ⟨.refl _, h⟩
  | fail f => exact ⟨.refl _, h⟩
  | panic p => exact ⟨.refl _, h⟩
  | call c next ih =>
    obtain ⟨hd, hi⟩ := step c s h
    unfold workTrace perform
    cases ha : answer c s with
    | ok a t =>
      rw [settled_of_ok ha] at hd hi
      exact ⟨.does hd (ih _ t hi).1, (ih _ t hi).2⟩
    | error f t =>
      rw [settled_of_error ha] at hd hi
      dsimp only
      cases f.panic? with
      | some p => exact ⟨.of_does hd, hi⟩
      | none => exact ⟨.does hd (ih _ t hi).1, (ih _ t hi).2⟩
  | wait next ih =>
    unfold workTrace perform
    split
    · exact ih s h
    · exact ⟨.refl _, h⟩

theorem leads_call (through : Bool) (w : Work α) (h : s.isBlocked = false) :
    Leads ⟨s, []⟩ (workTrace through .call w s) ⟨(perform through w s).2, []⟩ ∧
      (perform through w s).2.isBlocked = false :=
  leads_perform (I := fun s => s.isBlocked = false) through
    (fun c s hs => ⟨.call hs, (Kept.answer c s).isBlocked.trans hs⟩) w s h

theorem leads_late (through : Bool) (w : Work α) (q : List Command) (h : s.isBlocked = false) :
    Leads ⟨s, q⟩ (workTrace through .late w s) ⟨(perform through w s).2, q⟩ ∧
      (perform through w s).2.isBlocked = false :=
  leads_perform (I := fun s => s.isBlocked = false) through
    (fun c s hs => ⟨.late, (Kept.answer c s).isBlocked.trans hs⟩) w s h

theorem Kept.perform (through : Bool) (w : Work α) (s : Session) :
    Kept s (perform through w s).2 := by
  have step (c : Call) (t : Session) (hk : Kept s t) :
      Does (.late c) ⟨t, []⟩ ⟨settled (Session.answer c) t, []⟩ ∧
        Kept s (settled (Session.answer c) t) := ⟨.late, hk.trans (.answer c t)⟩
  exact (leads_perform through step w s (.refl s)).2

/-! ### The engine -/

theorem leads_installs (bs : List Binding) (q : List Command) (h : s.isBlocked = false) :
    Leads ⟨s, bs.map .register ++ q⟩ (installTrace bs s)
      ⟨bs.foldl (fun s b => settled (onHost (Host.register b)) s) s, q⟩ := by
  induction bs generalizing s with
  | nil => exact .refl _
  | cons b bs ih =>
    exact .does (.install h) (ih ((Kept.onHost (Host.register b) s).isBlocked.trans h))

theorem loadPage_of_ok {page : Page.Source} (h : onHost (Host.load page) s = .ok () s') :
    loadPage page s = .ok () s'.replay := bind_of_ok h

theorem loadPage_of_error {page : Page.Source} {f : Failure}
    (h : onHost (Host.load page) s = .error f s') : loadPage page s = .error f s' :=
  bind_of_error h

theorem kept_replay (s : Session) : Kept s s.replay := by
  unfold replay
  generalize s.registered = bs
  induction bs generalizing s with
  | nil => exact .refl s
  | cons b bs ih => exact (Kept.onHost (Host.register b) s).trans (ih _)

theorem kept_loadPage (page : Page.Source) (s : Session) : Kept s (settled (loadPage page) s) := by
  have hk := Kept.onHost (Host.load page) s
  cases h : onHost (Host.load page) s with
  | ok a s' =>
    rw [settled_of_ok (loadPage_of_ok h)]
    rw [settled_of_ok h] at hk
    exact hk.trans (kept_replay s')
  | error f s' =>
    rw [settled_of_error (loadPage_of_error h)]
    rwa [settled_of_error h] at hk

theorem isBlocked_loadPage (page : Page.Source) (s : Session) :
    (settled (loadPage page) s).isBlocked = s.isBlocked := (kept_loadPage page s).isBlocked

theorem leads_loadPage (page : Page.Source) (q : List Command) (hb : s.isBlocked = false) :
    Leads ⟨s, .load page :: q⟩ (loadTrace page s) ⟨settled (loadPage page) s, q⟩ := by
  have hk := Kept.onHost (Host.load page) s
  unfold loadTrace
  cases h : onHost (Host.load page) s with
  | ok a s' =>
    rw [settled_of_ok h] at hk
    rw [settled_of_ok (loadPage_of_ok h)]
    exact .does (.load hb h) (leads_installs _ q (hk.isBlocked.trans hb))
  | error f s' =>
    rw [settled_of_error (loadPage_of_error h)]
    exact .of_does (.failLoad h)

theorem leads_obey (through : Bool) (c : Command) (q : List Command) (hb : s.isBlocked = false) :
    Leads ⟨s, c :: q⟩ (obeyTrace through s c) ⟨s.obey through c, q⟩ := by
  cases c with
  | load page => exact leads_loadPage page q hb
  | register b =>
    rw [obey_register]
    exact .of_does (.install hb)
  | run w =>
    obtain ⟨hl, hb'⟩ := leads_late through w q hb
    have hl := Leads.quiet (.takeUp (w := w)) hl
    unfold obey
    dsimp only
    cases h : perform through w s with
    | mk p t =>
      rw [h] at hl hb'
      cases p with
      | ended o => exact hl
      | waiting rest => simpa [obeyTrace] using hl.append (.of_quiet (.park hb'))

/-- The engine leads from commands to where they are done or stand in its queue. -/
theorem leads_serve (through : Bool) (cs : List Command) (hb : s.isBlocked = false) :
    Leads ⟨s, cs⟩ (serveTrace through cs s) ⟨serve through cs s, []⟩ := by
  induction cs generalizing s with
  | nil => exact .refl _
  | cons c cs ih =>
    refine (leads_obey through c cs hb).append ?_
    unfold serve
    dsimp only
    cases hb' : (s.obey through c).isBlocked with
    | true => exact .of_quiet (.defer hb')
    | false => exact ih hb'

theorem leads_resume (through : Bool) (s : Session) :
    Leads ⟨s, []⟩ (resumeTrace through s) ⟨s.resume through, []⟩ := by
  unfold resumeTrace resume
  cases he : s.engine with
  | none => exact .refl _
  | some e =>
    obtain ⟨host, waiting, queue⟩ := e
    cases waiting with
    | none => exact .refl _
    | some rest =>
      have hr : { s with engine := some ⟨host, none, []⟩ } = s.resumed := by simp [resumed, he]
      dsimp only
      rw [hr]
      refine .quiet (.resume he) (leads_serve through _ ?_)
      simp [isBlocked, resumed, he]

/-- Nothing goes on where nothing is held up. -/
theorem resume_of_unblocked (through : Bool) (hb : s.isBlocked = false) : s.resume through = s := by
  unfold resume
  split
  · next he => simp [isBlocked, he] at hb
  · rfl

theorem turn_of_unblocked (limit : Option Duration) (hb : s.isBlocked = false) :
    s.turn limit = s := by
  unfold turn
  split
  · exact resume_of_unblocked true hb
  · rfl

theorem turnTrace_of_unblocked (limit : Option Duration) (hb : s.isBlocked = false) :
    turnTrace limit s = [] := by
  unfold turnTrace resumeTrace
  split
  · split
    · next he => simp [isBlocked, he] at hb
    · rfl
  · rfl

theorem leads_turn (limit : Option Duration) (s : Session) :
    Leads ⟨s, []⟩ (turnTrace limit s) ⟨s.turn limit, []⟩ := by
  unfold turnTrace turn
  split
  · exact leads_resume true s
  · exact .refl _

theorem leads_send (c : Command) (s : Session) :
    Leads ⟨s, [c]⟩ (sendTrace c s) ⟨s.send c, []⟩ := by
  unfold sendTrace send
  cases hb : s.isBlocked with
  | true => exact .of_quiet (.defer hb)
  | false => exact leads_obey false c [] hb

theorem leads_post (b : Binding) (s : Session) :
    Leads ⟨s, [.register b]⟩ (postTrace b s) ⟨s.post b, []⟩ :=
  .does .start (leads_send (.register b) s.withEngine)

/-! ### What the engine leaves to the callers -/

theorem pageReady_obey (through : Bool) (c : Command) (s : Session) :
    (s.obey through c).pageReady = s.pageReady := by
  cases c with
  | load page => exact (kept_loadPage page s).pageReady
  | register b =>
    rw [obey_register]
    exact (Kept.onHost (Host.register b) s).pageReady
  | run w =>
    have hk := Kept.perform through w s
    unfold obey
    dsimp only
    split
    · next h => exact congrArg pageReady (congrArg Prod.snd h).symm ▸ hk.pageReady
    · next h => exact (congrArg pageReady (congrArg Prod.snd h)).symm.trans hk.pageReady

theorem pageReady_serve (through : Bool) (cs : List Command) (s : Session) :
    (serve through cs s).pageReady = s.pageReady := by
  induction cs generalizing s with
  | nil => rfl
  | cons c cs ih =>
    unfold serve
    dsimp only
    split
    · exact pageReady_obey through c s
    · exact (ih _).trans (pageReady_obey through c s)

theorem pageReady_resume (through : Bool) (s : Session) :
    (s.resume through).pageReady = s.pageReady := by
  unfold resume
  split
  · exact pageReady_serve through _ _
  · rfl

theorem pageReady_turn (limit : Option Duration) (s : Session) :
    (s.turn limit).pageReady = s.pageReady := by
  unfold turn
  split
  · exact pageReady_resume true s
  · rfl

theorem pageReady_withEngine (s : Session) : s.withEngine.pageReady = s.pageReady := by
  unfold withEngine
  split <;> rfl

/-! ### Pages -/

theorem hasPage_of_onHost_load {page : Page.Source} (h : onHost (Host.load page) s = .ok () s') :
    s'.hasPage = true := by
  obtain ⟨e, h', -, hl, rfl⟩ := onHost_eq_ok h
  exact (Host.kept_load hl).isLoaded

theorem hasPage_onHost (m : EStateM Failure Host α)
    (hm : ∀ h, (ScriptProxy.Outcome.left (m h)).isLoaded = h.isLoaded) (s : Session) :
    (settled (onHost m) s).hasPage = s.hasPage := by
  cases he : s.engine with
  | none => rw [settled_of_error (onHost_of_none m he)]
  | some e =>
    rw [settled_onHost m he, hasPage, hasPage, he]
    exact hm e.host

theorem hasPage_install (b : Binding) (s : Session) :
    ((Event.install b).after s).hasPage = s.hasPage :=
  hasPage_onHost (Host.register b) (fun h => (Host.kept_register b h).isLoaded) s

theorem hasPage_replay (s : Session) : s.replay.hasPage = s.hasPage := by
  unfold replay
  generalize s.registered = bs
  induction bs generalizing s with
  | nil => rfl
  | cons b bs ih => exact (ih _).trans (hasPage_install b s)

/-- A page that is loaded is there after the functions have been installed on it. -/
theorem hasPage_of_loadPage {page : Page.Source} (h : loadPage page s = .ok () s') :
    s'.hasPage = true := by
  cases hl : onHost (Host.load page) s with
  | ok a t =>
    cases (loadPage_of_ok hl).symm.trans h
    exact (hasPage_replay t).trans (hasPage_of_onHost_load hl)
  | error f t => cases (loadPage_of_error hl).symm.trans h

/-! ### The operations -/

section boot
variable {page : Page.Source}

theorem config_starting (s : Session) : s.starting.config = s.config := by
  unfold starting withEngine
  split <;> rfl

theorem pageReady_starting (s : Session) : s.starting.pageReady = false :=
  pageReady_withEngine _

theorem pageReady_bootTurn (s : Session) : s.bootTurn.pageReady = false :=
  (pageReady_turn _ _).trans s.pageReady_starting

theorem boot_of_beyond (h : s.starting.isBeyond s.config.bootTimeout = true) :
    boot page s = .error .noDeadline (s.starting.send (.load page)) := by
  unfold boot
  dsimp only
  rw [config_starting, if_pos h]

theorem boot_of_blocked (h : s.starting.isBeyond s.config.bootTimeout = false)
    (hb : s.bootTurn.isBlocked = true) :
    boot page s = .error s.bootTurn.bootTimeout
      { s.bootTurn.enqueue [.load page] with state := .error } := by
  unfold boot
  dsimp only
  rw [config_starting, if_neg (Bool.eq_false_iff.1 h)]
  exact if_pos hb

theorem boot_of_unblocked (h : s.starting.isBeyond s.config.bootTimeout = false)
    (hb : s.bootTurn.isBlocked = false) :
    boot page s = match loadPage page s.bootTurn with
      | .ok _ s => .ok () { s with pageReady := true, state := .ready }
      | .error f s => .error f { s with state := .error } := by
  unfold boot
  dsimp only
  rw [config_starting, if_neg (Bool.eq_false_iff.1 h)]
  exact if_neg (Bool.eq_false_iff.1 hb)

theorem leads_boot (page : Page.Source) (s : Session) :
    Leads ⟨s, []⟩ (bootTrace page s) ⟨settled (boot page) s, []⟩ := by
  have marked : Quiet ⟨s, []⟩ ⟨s.unready, []⟩ := .mark nofun nofun
  have first : Leads ⟨s, []⟩ [(.start, s.unready)] ⟨s.starting, []⟩ :=
    .quiet marked (.of_does .start)
  have failed (t : Session) : Leads ⟨t, []⟩ [] ⟨{ t with state := .error }, []⟩ := .of_state t rfl
  unfold bootTrace
  cases h : s.starting.isBeyond s.config.bootTimeout with
  | true =>
    rw [settled_of_error (boot_of_beyond h)]
    have asked : Leads ⟨s.starting, []⟩ [(.abandon, s.starting)] ⟨s.starting, [.load page]⟩ :=
      .does .abandon (.of_quiet (.ask s.pageReady_starting))
    exact first.append (asked.append (leads_send (.load page) s.starting))
  | false =>
    have turned := first.append (leads_turn s.config.bootTimeout s.starting)
    have asks : Quiet ⟨s.bootTurn, []⟩ ⟨s.bootTurn, [.load page]⟩ := .ask s.pageReady_bootTurn
    cases hb : s.bootTurn.isBlocked with
    | true =>
      rw [settled_of_error (boot_of_blocked h hb)]
      exact turned.append (.does .abandon (.quiet asks (.quiet (.defer hb) (failed _))))
    | false =>
      have hl := leads_loadPage page [] hb
      have hk := isBlocked_loadPage page s.bootTurn
      rw [settled, boot_of_unblocked h hb]
      refine turned.append (.quiet asks ?_)
      cases hp : loadPage page s.bootTurn with
      | ok a s' =>
        rw [settled_of_ok hp] at hl hk
        have hpage := hasPage_of_loadPage hp
        have marked : Quiet ⟨s', []⟩ ⟨{ s' with pageReady := true, state := .ready }, []⟩ :=
          .mark (fun _ => .inr ⟨hpage, hk.trans hb⟩) fun _ => rfl
        simpa using hl.append (.of_quiet marked)
      | error f s' =>
        rw [settled_of_error hp] at hl
        simpa using hl.append (failed s')

end boot

section run
variable {w : Work α} {values : α → List Value}

theorem run_of_refused (hs : s.state.acceptsWork = false) :
    run w values s = (.failure (.boot (.busy s.state.name)), s) :=
  if_pos (by rw [hs]; rfl)

theorem run_of_accepted (hs : s.state.acceptsWork = true) :
    run w values s =
      if s.executing.isBeyond s.config.executionTimeout then
        (.ofFailure .noDeadline, s.executing.send (.run (w.forNobody values)))
      else if s.runTurn.isBlocked then
        (.failure s.runTurn.executionTimeout,
          { s.runTurn.enqueue [.run (w.forNobody values)] with state := .error })
      else
        match perform s.config.executionTimeout.isNone w s.runTurn with
        | (.ended (.value a), s) => (.value a, { s with state := .ready })
        | (.ended o, s) => (o, { s with state := .error })
        | (.waiting rest, s) =>
          (.failure s.executionTimeout, { s.park (rest.forNobody values) with state := .error }) :=
  if_neg (by rw [hs]; decide)

/-- Somebody who waits for work leads to what the work has done up to then, and to the state that
tells how it ended. -/
theorem leads_run (w : Work α) (values : α → List Value) (s : Session) :
    Leads ⟨s, []⟩ (runTrace w values s) ⟨(run w values s).2, []⟩ := by
  unfold runTrace
  cases hs : s.state.acceptsWork with
  | false =>
    rw [run_of_refused hs]
    exact .refl _
  | true =>
    have first : Leads ⟨s, []⟩ [(.start, s.busy)] ⟨s.executing, []⟩ :=
      (Leads.of_state s rfl).append (.of_does .start)
    have failed (t : Session) : Leads ⟨t, []⟩ [] ⟨{ t with state := .error }, []⟩ := .of_state t rfl
    rw [run_of_accepted hs]
    cases h : s.executing.isBeyond s.config.executionTimeout with
    | true => exact first.append (.does .abandon (.quiet .pass (leads_send _ s.executing)))
    | false =>
      have turned := first.append (leads_turn s.config.executionTimeout s.executing)
      refine turned.append ?_
      cases hb : s.runTurn.isBlocked with
      | true => exact .does .abandon (.quiet .pass (.quiet (.defer hb) (failed _)))
      | false =>
        obtain ⟨hl, hb'⟩ := leads_call s.config.executionTimeout.isNone w hb
        show Leads _ (waitTrace _ w s.runTurn) _
        unfold waitTrace
        simp only [Bool.false_eq_true, if_false]
        cases hw : perform s.config.executionTimeout.isNone w s.runTurn with
        | mk p t =>
          rw [hw] at hl hb'
          refine hl.append ?_
          match p with
          | .ended (.value a) => exact .of_state t rfl
          | .ended (.failure f) => exact failed t
          | .ended (.panic m) => exact failed t
          | .waiting rest => exact .does .abandon (.quiet (.park hb') (failed _))

end run

theorem leads_bootAndRun (page : Page.Source) (w : Work α) (values : α → List Value) (s : Session) :
    Leads ⟨s, []⟩ (bootAndRunTrace page w values s) ⟨(bootAndRun page w values s).2, []⟩ := by
  have hb := leads_boot page s
  unfold bootAndRunTrace bootAndRun
  cases h : boot page s with
  | ok a s' =>
    rw [settled_of_ok h] at hb
    exact hb.append (leads_run w values s')
  | error f s' =>
    rw [settled_of_error h] at hb
    exact hb.append (.refl _)

theorem launch_ordinary (page : Page.Source) (w : Work α) (values : α → List Value) (s : Session) :
    s.launch .ordinary page w values = bootAndRun page w values s :=
  unlessEngine_of_ne s.isEngine_ordinary _

theorem execute_ordinary (w : Work α) (values : α → List Value) (s : Session) :
    s.execute .ordinary w values =
      if s.pageReady then run w values s
      else if s.config.autoBoot then bootAndRun s.defaultPage w values s
      else (.failure (.boot .notLaunched), s) :=
  unlessEngine_of_ne s.isEngine_ordinary _

theorem leads_execute (w : Work α) (values : α → List Value) (s : Session) :
    Leads ⟨s, []⟩ (executeTrace w values s) ⟨(s.execute .ordinary w values).2, []⟩ := by
  rw [execute_ordinary]
  unfold executeTrace
  split
  · exact leads_run w values s
  · split
    · exact leads_bootAndRun s.defaultPage w values s
    · exact .refl _

theorem register_ordinary (b : Binding) (s : Session) :
    Session.register .ordinary b s =
      if s.engine.isSome then .ok () ((s.noted b).post b)
      else if !s.config.autoBoot then .ok () (s.noted b)
      else if s.pageReady then .ok () ((s.noted b).post b)
      else boot s.defaultPage (s.noted b) :=
  if_neg (Bool.eq_false_iff.1 s.isEngine_ordinary)

theorem leads_register (b : Binding) (s : Session) :
    Leads ⟨s, []⟩ (registerTrace b s) ⟨settled (Session.register .ordinary b) s, []⟩ := by
  have first : Leads ⟨s, []⟩ [(.note b, s)] ⟨s.noted b, [.register b]⟩ := .of_does .note
  have posted := first.append (leads_post b (s.noted b))
  have dropped (he : s.engine = none) : Leads ⟨s, []⟩ [(.note b, s)] ⟨s.noted b, []⟩ :=
    first.append (.of_quiet (.drop he))
  unfold registerTrace
  rw [settled, register_ordinary]
  cases he : s.engine with
  | some e => exact posted
  | none =>
    cases s.config.autoBoot with
    | false => exact dropped he
    | true =>
      cases s.pageReady with
      | true => exact posted
      | false => exact (dropped he).append (leads_boot s.defaultPage (s.noted b))

theorem shutdown_of_ne {t : Thread} (h : s.isEngine t = false) :
    shutdown t s = .ok () (s.closing.resume true).stopped :=
  bind_of_ok (rejectReentrant_of_ne h)

theorem leads_shutdown (s : Session) :
    Leads ⟨s, []⟩ (shutdownTrace s) ⟨settled (Session.shutdown .ordinary) s, []⟩ := by
  rw [settled_of_ok (shutdown_of_ne s.isEngine_ordinary)]
  have first : Leads ⟨s, []⟩ [] ⟨s.closing, []⟩ := .of_quiet (.mark nofun nofun)
  exact (first.append (leads_resume true s.closing)).append
    (.of_does (.stop (pageReady_resume true s.closing)))

/-- Every operation leads from the session before it to the session behind it. -/
theorem Operation.leads (op : Operation) (s : Session) :
    Leads ⟨s, []⟩ (op.trace s) ⟨op.run s, []⟩ := by
  cases op with
  | launch page w values =>
    show Leads _ _ ⟨(s.launch .ordinary page w values).2, []⟩
    rw [launch_ordinary]
    exact leads_bootAndRun page w values s
  | execute w values => exact leads_execute w values s
  | register b => exact leads_register b s
  | hide =>
    show Leads _ [] ⟨Session.hide s, []⟩
    unfold Session.hide
    split
    · exact .of_state s rfl
    · exact .refl _
  | shutdown => exact leads_shutdown s
  | release => exact leads_resume false s
  | keep name v => exact .of_does .keep
  | giveUp name => exact .of_does .giveUp
  | discard v => exact .of_does .discard

/-- Every list of operations leads from the session before it to the session behind it. -/
theorem leads_runAll (ops : List Operation) (s : Session) :
    Leads ⟨s, []⟩ (runAllTrace ops s) ⟨runAll ops s, []⟩ := by
  induction ops generalizing s with
  | nil => exact .refl _
  | cons op ops ih => exact (op.leads s).append (ih _)

end ScriptProxy.Session
