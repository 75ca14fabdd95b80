import ScriptProxy.Proofs.OrderedMap
import ScriptProxy.Proofs.Session.Ready
import ScriptProxy.Proofs.Session.Replay

/-!
# The page and the record

A function gets to the page in three ways: work installs it, the engine does when it is passed to
it, or a page is given the whole record when it is loaded. All three agree: unless work registers
functions when nobody waits for it any more, each module and name stand on the page for the function
that was registered last, or the functions that are still to be installed end with that one:
`Agrees`, which every step preserves. Between two operations nothing is left to be installed while
no work is held up.
-/

namespace ScriptProxy

namespace Session

open Exchange (Value)
open Import (Binding)

variable {namespaceName module name : String} {s s' : Session} {m m' : Moment} {ev : Event}
  {tr : Trace} {b : Binding}

/-- Whether functions are registered with their scripts only, and not by work that nobody waits
for. -/
def Event.isTimely : Event → Bool
  | .late c => c.registers.isNone
  | ev => ev.registers.all (·.script.isSome)

theorem Event.isTimely.registers {c : Call} (h : (Event.late c).isTimely = true) :
    c.registers = none := Option.isNone_iff_eq_none.1 h

theorem Event.isTimely.script (h : ev.isTimely = true) (hr : ev.registers = some b) :
    b.script ≠ none := by
  have scripted {o : Option Binding} (hr : o = some b) (h : o.all (·.script.isSome) = true) :
      b.script ≠ none := by
    cases hr
    exact Option.isSome_iff_ne_none.1 h
  cases ev with
  | late c => cases (show c.registers = some b from hr).symm.trans (isTimely.registers h)
  | _ => exact scripted hr h

/-- On the page, if there is one, every module and name that is recorded stands for the function of
the record, unless functions for them are still to be installed. Then that one is the last. -/
def Agrees (namespaceName : String) (m : Moment) : Prop :=
  ∀ module name b, m.session.functions.get? (module, name) = some b →
    match latest (module, name) m.awaiting with
    | some b' => b' = b
    | none => Provides namespaceName b.script m.session module name

/-- What every step preserves. -/
structure Concordant (namespaceName : String) (m : Moment) : Prop where
  paged : Paged namespaceName m.session
  apart : Apart namespaceName m.session
  clear : Clear m.session
  scripted : ∀ key b, m.session.functions.get? key = some b → b.script ≠ none
  awaited : ∀ b ∈ m.awaiting, b.script ≠ none
  sure : Sure m
  agrees : Agrees namespaceName m

theorem scripted_of_registered {fs : Functions}
    (h : ∀ key b, fs.get? key = some b → b.script ≠ none) : ∀ b ∈ fs.values, b.script ≠ none := by
  intro b hb
  obtain ⟨⟨key, b⟩, hm, rfl⟩ := List.mem_map.1 hb
  refine h key b ?_
  rw [fs.get?_eq]
  exact OrderedMap.get?_of_mem fs.agrees.nodup hm

namespace Concordant

theorem quiet (hq : Quiet m m') (h : Concordant namespaceName m) : Concordant namespaceName m' := by
  have hf := functions_quiet hq
  have had := h.paged.advances_quiet hq
  have hap := had.apart h.apart nofun
  refine ⟨had.paged, hap, h.clear.quiet hq, hf ▸ h.scripted, fun b hb => h.awaited b ?_,
    h.sure.quiet hq h.clear, ?_⟩
  · rcases awaiting_quiet hq with ha | ⟨-, b', ha⟩
    · exact ha ▸ hb
    · exact ha ▸ .tail _ hb
  · intro module name b hb
    have hag := h.agrees module name b (hf ▸ hb)
    rcases awaiting_quiet hq with ha | ⟨hn, b', ha⟩
    · rw [ha]
      split at hag
      · next b' hl => simpa [hl] using hag
      · next hl => simpa [hl] using had.provides hap nofun hag
    · rw [ha, latest_cons] at hag
      split
      · next b' hl => simpa [hl] using hag
      · exact .of_none hn

theorem advances_does (hd : Does ev m m') (ht : ev.Tame namespaceName m.session)
    (h : Concordant namespaceName m) (hl : ¬ ev.Loads m.session) :
    Advances namespaceName ev.installs m.session m'.session :=
  h.paged.advances_does hd ht (h.apart.received h.paged ev) hl

section step
variable (hd : Does ev m m') (ht : ev.Tame namespaceName m.session) (hti : ev.isTimely = true)
  (h : Concordant namespaceName m)
include hd hti h

/-- What is installed comes with its script. -/
theorem installs_scripted : ∀ b ∈ ev.installs, b.script ≠ none := by
  intro b hb
  cases ev with
  | install b' =>
    cases hb
    have ha : m.awaiting = b :: m'.awaiting := awaiting_does hd h.clear
    exact h.awaited b (ha ▸ List.mem_cons_self)
  | call c | late c => exact Event.isTimely.script hti hb
  | own c => cases hd <;> cases hb
  | _ => cases hb

include ht

theorem apart_does : Apart namespaceName m'.session :=
  h.paged.apart_does hd ht h.apart (h.installs_scripted hd hti)

theorem provides_does (hi : ev.installs = some b) :
    Provides namespaceName b.script m'.session b.module b.name :=
  h.paged.provides_does hd ht (h.apart.received h.paged ev) hi (h.installs_scripted hd hti b hi)

/-- A step that concerns other functions only leaves the agreement on this one. -/
theorem agrees_of_same (hl : ¬ ev.Loads m.session)
    (hx : ∀ b ∈ ev.installs, b.script ≠ none → b.key ≠ (module, name))
    (hb : m.session.functions.get? (module, name) = some b)
    (hw : latest (module, name) m'.awaiting = latest (module, name) m.awaiting) :
    match latest (module, name) m'.awaiting with
    | some b' => b' = b
    | none => Provides namespaceName b.script m'.session module name := by
  have hag := h.agrees module name b hb
  rw [hw]
  split
  · next b' he => simpa [he] using hag
  · next he =>
    rw [he] at hag
    exact (h.advances_does hd ht hl).provides (h.apart_does hd ht hti) hx hag

/-- So does a step that registers and installs nothing. -/
theorem agrees_of_unregistered (hl : ¬ ev.Loads m.session) (hr : ev.registers = none)
    (hi : ev.installs = none) (ha : m'.awaiting = m.awaiting) : Agrees namespaceName m' := by
  intro module name b hb
  have hf := functions_does hd
  rw [hr] at hf
  dsimp only at hf
  rw [hf] at hb
  exact h.agrees_of_same hd ht hti hl (fun b' hb' => nomatch hi.symm.trans hb') hb (by rw [ha])

end step

/-- Work that registers a function installs it at once: nothing else is to be installed then. -/
theorem agrees_call {c : Call} (hd : Does (.call c) m m')
    (ht : (Event.call c).Tame namespaceName m.session) (hti : (Event.call c).isTimely = true)
    (h : Concordant namespaceName m) : Agrees namespaceName m' := by
  intro module name b hb
  have hf := functions_does hd
  have ha : m'.awaiting = m.awaiting := awaiting_does hd h.clear
  have hl : ¬ (Event.call c).Loads m.session := by
    rintro ⟨_, _, ⟨⟩, _⟩
  dsimp only [Event.registers] at hf
  cases hr : c.registers with
  | none => exact h.agrees_of_unregistered hd ht hti hl hr hr ha module name b hb
  | some b' =>
    rw [hr] at hf
    dsimp only at hf
    rw [hf, Functions.get?_insert] at hb
    split at hb
    · next hk =>
      cases hb
      cases hk
      have hnone : m'.awaiting = [] := by
        cases hd with
        | call hb => rw [ha, Moment.awaiting_eq (h.clear hb)]; rfl
      rw [hnone]
      exact h.provides_does hd ht hti hr
    · next hk =>
      refine h.agrees_of_same hd ht hti hl (fun b'' hi _ => ?_) hb (by rw [ha])
      cases hr.symm.trans hi
      exact hk

theorem agrees_note (hd : Does (.note b) m m') (hti : (Event.note b).isTimely = true)
    (h : Concordant namespaceName m) : Agrees namespaceName m' := by
  intro module name b' hb
  have hf : m'.session.functions = m.session.functions.insert b := functions_does hd
  have ha : m'.awaiting = m.awaiting ++ [b] := awaiting_does hd h.clear
  rw [hf, Functions.get?_insert] at hb
  have hw : latest (module, name) m'.awaiting =
      (if b.key = (module, name) then some b else none).or (latest (module, name) m.awaiting) := by
    rw [ha, latest_append, latest_cons]
    rfl
  split at hb
  · next hk =>
    cases hb
    rw [hw, if_pos hk]
    rfl
  · next hk =>
    refine h.agrees_of_same hd trivial hti ?_ ?_ hb (by rw [hw, if_neg hk]; rfl)
    · rintro ⟨_, _, ⟨⟩, _⟩
    · rintro _ ⟨⟩

theorem agrees_install (hd : Does (.install b) m m')
    (ht : (Event.install b).Tame namespaceName m.session) (hti : (Event.install b).isTimely = true)
    (h : Concordant namespaceName m) : Agrees namespaceName m' := by
  intro module name b' hb
  have hf : m'.session.functions = m.session.functions := functions_does hd
  have ha : m.awaiting = b :: m'.awaiting := awaiting_does hd h.clear
  rw [hf] at hb
  have hag := h.agrees module name b' hb
  have hl : ¬ (Event.install b).Loads m.session := by
    rintro ⟨_, _, ⟨⟩, _⟩
  rw [ha, latest_cons] at hag
  split
  · next b'' he => simpa [he] using hag
  · next he =>
    rw [he, Option.none_or] at hag
    by_cases hk : b.key = (module, name)
    · rw [if_pos hk] at hag
      cases (show b = b' from hag)
      cases hk
      exact h.provides_does hd ht hti rfl
    · rw [if_neg hk] at hag
      refine (h.advances_does hd ht hl).provides (h.apart_does hd ht hti) ?_ hag
      rintro _ ⟨rfl⟩ -
      exact hk

theorem agrees_load {page : Page.Source} (hd : Does (.load page) m m')
    (ht : (Event.load page).Tame namespaceName m.session) (hti : (Event.load page).isTimely = true)
    (h : Concordant namespaceName m) : Agrees namespaceName m' := by
  intro module name b hb
  have hf : m'.session.functions = m.session.functions := functions_does hd
  obtain ⟨-, ha⟩ | ⟨hl, ha⟩ := awaiting_does hd h.clear
  · have hag := h.agrees module name b (hf ▸ hb)
    rw [ha, latest_append, registered, hf, Functions.latest_values, ← hf, hb]
    cases he : latest (module, name) m.awaiting with
    | none => rfl
    | some b' => simpa [he] using hag
  · refine h.agrees_of_same hd ht hti hl ?_ (hf ▸ hb) (by rw [ha])
    rintro _ ⟨⟩

section does
variable (hd : Does ev m m') (ht : ev.Tame namespaceName m.session) (hti : ev.isTimely = true)
  (h : Concordant namespaceName m)
include hd hti h

theorem scripted_does (key : String × String) (b : Binding)
    (hb : m'.session.functions.get? key = some b) : b.script ≠ none := by
  rw [functions_does hd] at hb
  cases hr : ev.registers with
  | none =>
    rw [hr] at hb
    exact h.scripted key b hb
  | some b' =>
    rw [hr] at hb
    dsimp only at hb
    rw [Functions.get?_insert] at hb
    split at hb
    · cases hb
      exact Event.isTimely.script hti hr
    · exact h.scripted key b hb

theorem awaited_does : ∀ b ∈ m'.awaiting, b.script ≠ none := by
  have ha := awaiting_does hd h.clear
  cases ev with
  | note b =>
    rw [show m'.awaiting = m.awaiting ++ [b] from ha]
    exact List.forall_mem_append.2 ⟨h.awaited, by simpa using Event.isTimely.script hti rfl⟩
  | install b =>
    have ha : m.awaiting = b :: m'.awaiting := ha
    exact fun b' hb' => h.awaited b' (ha ▸ .tail _ hb')
  | stop =>
    rw [show m'.awaiting = [] from ha]
    simp
  | load page =>
    obtain ⟨-, ha⟩ | ⟨-, ha⟩ := ha
    · rw [ha]
      exact List.forall_mem_append.2
        ⟨scripted_of_registered (h.scripted_does hd hti), h.awaited⟩
    · exact ha ▸ h.awaited
  | call _ | late _ | own _ | start | abandon =>
    rw [show m'.awaiting = m.awaiting from ha]
    exact h.awaited

include ht

theorem agrees_does : Agrees namespaceName m' := by
  cases ev with
  | call c => exact h.agrees_call hd ht hti
  | note b => exact h.agrees_note hd hti
  | install b => exact h.agrees_install hd ht hti
  | load page => exact h.agrees_load hd ht hti
  | late c =>
    have hr := Event.isTimely.registers hti
    exact h.agrees_of_unregistered hd ht hti (by rintro ⟨_, _, ⟨⟩, _⟩) hr hr
      (awaiting_does hd h.clear)
  | own c =>
    have ha := awaiting_does hd h.clear
    refine h.agrees_of_unregistered hd ht hti (by rintro ⟨_, _, ⟨⟩, _⟩) ?_ ?_ ha <;>
      cases hd <;> rfl
  | start | abandon =>
    have ha := awaiting_does hd h.clear
    exact h.agrees_of_unregistered hd ht hti (by rintro ⟨_, _, ⟨⟩, _⟩) rfl rfl ha
  | stop =>
    intro module name b hb
    have ha : m'.awaiting = [] := awaiting_does hd h.clear
    rw [ha]
    cases hd
    exact Provides.of_none rfl

theorem does : Concordant namespaceName m' where
  paged := h.paged.does hd ht (h.apart.received h.paged ev)
  apart := h.apart_does hd ht hti
  clear := h.clear.does hd
  scripted := h.scripted_does hd hti
  awaited := h.awaited_does hd hti
  sure := h.sure.does hd ht
  agrees := h.agrees_does hd ht hti

end does

theorem leads (hl : Leads m tr m')
    (ht : ∀ p ∈ tr, p.1.Tame namespaceName p.2 ∧ p.1.isTimely = true)
    (h : Concordant namespaceName m) : Concordant namespaceName m' :=
  hl.preserves (P := Concordant namespaceName)
    (K := fun ev s => ev.Tame namespaceName s ∧ ev.isTimely = true)
    (fun _ _ hq h => h.quiet hq) (fun _ _ _ hd ht h => h.does hd ht.1 ht.2) ht h

end Concordant

theorem concordant_new (id : Nat) (config : Import.Config) (platform : Platform) :
    Concordant config.namespaceName ⟨new id config platform, []⟩ where
  paged := paged_new id config platform
  apart := apart_new id config platform
  clear := .of_none rfl
  scripted := nofun
  awaited := by simp [Moment.awaiting, queue, new]
  sure := nofun
  agrees := nofun

/-- A call in a session whose engine is free goes to the engine's host. -/
theorem invoke_eq_onHost {e : Engine} (he : s.engine = some e) (hw : e.waiting = none)
    (hr : s.pageReady = true) (ha : s.state.acceptsWork = true)
    (hreach : s.isBeyond s.config.executionTimeout = false) (args : List Value) :
    (s.invoke .ordinary module name args).1 = match Host.invoke module name args e.host with
      | .ok v _ => .value v
      | .error f _ => .ofFailure f := by
  have hx : s.executing = s.busy := withEngine_of_some he
  have hb : s.busy.isBlocked = false := by simp [isBlocked, busy, he, hw]
  have ht : s.runTurn = s.busy := by
    rw [runTurn, hx]
    exact turn_of_unblocked _ hb
  have hans : answer (.invoke module name args) s.busy =
      onHost (Host.invoke module name args) s.busy := rfl
  rw [invoke_ordinary, execute_ordinary, if_pos hr, run_demand ha (hx ▸ hreach) (ht ▸ hb), ht, hans,
    onHost_of_some _ (show s.busy.engine = some e from he)]
  cases Host.invoke module name args e.host <;> rfl

variable {id : Nat} {config : Import.Config} {platform : Platform} {ops : List Operation}

/-- While a page is ready and no work is held up, a call of a module and name is a call of what the
script of the last function registered for them has evaluated to, with the object of the module in
the namespace as `this`. If the clock has time for the limit of the call, the caller is given what
becomes of it. -/
theorem invoke_eq_of_lastRegistered
    (htame : ∀ p ∈ runAllTrace ops (new id config platform),
      p.1.Tame config.namespaceName p.2 ∧ p.1.isTimely = true)
    (hready : (runAll ops (new id config platform)).pageReady = true)
    (hfree : (runAll ops (new id config platform)).isBlocked = false)
    (hreg : lastRegistered (module, name) (runAllTrace ops (new id config platform)) = some b) :
    ∃ e r space m f script, (runAll ops (new id config platform)).engine = some e ∧
      e.host.page = some r ∧
      r.data? Script.Base.globals.place config.namespaceName = some (.object space) ∧
      r.data? space module = some (.object m) ∧
      b.script = some script ∧ Host.Stems platform.engine script f r ∧
      ∀ args, Host.invoke module name args e.host =
          Host.apply f (.object m) args (e.host.withRealm r) ∧
        ((config.executionTimeout.all fun d => platform.reaches d) = true →
          ((runAll ops (new id config platform)).invoke .ordinary module name args).1 =
            match Host.apply f (.object m) args (e.host.withRealm r) with
            | .ok v _ => .value v
            | .error f _ => .ofFailure f) := by
  have hl := leads_runAll ops (new id config platform)
  have h := Concordant.leads hl htame (concordant_new id config platform)
  have hh := (housed_new id config platform).leads hl
  have hrec := (functions_get? hl (module, name)).trans (congrArg (Option.or · _) hreg)
  obtain ⟨hpage, -, hacc⟩ := h.sure hready
  have hag := h.agrees module name b hrec
  rw [Moment.awaiting_eq (h.clear hfree)] at hag
  obtain ⟨e, he, hloaded⟩ :=
    (Option.any_eq_true _ (runAll ops (new id config platform)).engine).1 hpage
  obtain ⟨r, hr⟩ := Option.isSome_iff_exists.1 hloaded
  obtain ⟨space, m, f, hN, ho, hst⟩ := (show Provides _ _ _ _ _ from hag) e r he hr
  obtain ⟨script, hs⟩ := Option.ne_none_iff_exists'.1 (h.scripted _ _ hrec)
  have hw : e.waiting = none := by simpa [isBlocked, he] using hfree
  have hst := hst script hs
  rw [(hh.host e he).2] at hst
  have happly (args : List Value) : Host.invoke module name args e.host =
      Host.apply f (.object m) args (e.host.withRealm r) := by
    refine Host.invoke_of_found hr ?_ args
    rw [h.paged.host e he]
    exact ho.function?_eq hN.bound
  refine ⟨e, r, space, m, f, script, he, hr, hN.bound, ho.module, hs, hst, fun args =>
    ⟨happly args, fun hreach => ?_⟩⟩
  have hnear : (runAll ops (new id config platform)).isBeyond
      (runAll ops (new id config platform)).config.executionTimeout = false := by
    rw [hh.config, isBeyond, hh.platform]
    cases hlimit : config.executionTimeout with
    | none => rfl
    | some d => simpa [hlimit] using hreach
  rw [invoke_eq_onHost he hw hready hacc hnear, happly]

/-- Another function for the same module and name. -/
def other : Binding := ⟨"M", "f", some "() => 2"⟩

/-- Work that registers the other function. -/
def registering : Work Unit := .call (.registerScript other) fun _ => .done ()

/-- A function is registered again by work, and is put on a new page when the session is launched
again. -/
def replaying : List Operation :=
  [.register one, .execute registering fun _ => [], .register ⟨"M", "g", some "() => 3"⟩, .shutdown,
    .launch (.content "") (.done ()) fun _ : Unit => []]

theorem isTame_replaying :
    (runAllTrace replaying (new 0 .standard (.standard .none))).all
      (fun p => p.1.isTame Import.Config.standard.namespaceName p.2 && p.1.isTimely) = true := by
  decide +kernel

theorem isReady_replaying :
    ((runAll replaying (new 0 .standard (.standard .none))).pageReady = true ∧
      (runAll replaying (new 0 .standard (.standard .none))).isBlocked = false) ∧
      lastRegistered ("M", "f") (runAllTrace replaying (new 0 .standard (.standard .none))) =
        some other := by
  decide +kernel

theorem constant?_other : Script.constant? "() => 2" = some (.number (.int 2)) := by decide +kernel

theorem invoke_eq_of_lastRegistered_replaying :
    ((runAll replaying (new 0 .standard (.standard .none))).invoke .ordinary "M" "f" []).1 =
      .value (.int 2) := by
  have htame : ∀ p ∈ runAllTrace replaying (new 0 .standard (.standard .none)),
      p.1.Tame Import.Config.standard.namespaceName p.2 ∧ p.1.isTimely = true :=
    of_runAllTrace
      (Q := fun ev s => ev.Tame Import.Config.standard.namespaceName s ∧ ev.isTimely = true)
      (fun _ _ hh h => ⟨tame_of_isTame hh rfl (Bool.and_eq_true_iff.1 h).1,
        (Bool.and_eq_true_iff.1 h).2⟩) isTame_replaying
  obtain ⟨⟨hready, hfree⟩, hreg⟩ := isReady_replaying
  obtain ⟨e, r, -, m, f, script, he, -, -, -, hs, hst, hcall⟩ :=
    invoke_eq_of_lastRegistered htame hready hfree hreg
  cases hs
  obtain ⟨place, o, rfl, hobj, hconst⟩ := hst.isConstant constant?_other
  have hh := (housed_new 0 .standard (.standard .none)).leads
    (leads_runAll replaying (new 0 .standard (.standard .none)))
  have hengine : (e.host.withRealm r).platform.engine = Script.engine :=
    congrArg Platform.engine (hh.host e he).2
  obtain ⟨h', r', happly, -⟩ := Host.apply_of_constant hengine rfl hobj hconst (.object m)
  rw [(hcall []).2 (by decide), happly]
  rfl

/-- Work that is held up, and registers the other function then. -/
def overtakenWork : Work Unit := .wait registering

/-- While the work is held up, and nobody waits for it, a function is registered from outside. It
stands in the queue, and replaces the one that the work registers after it. -/
def overtaking : List Operation :=
  [.launch (.content "") (.done ()) fun _ : Unit => [], .execute overtakenWork fun _ => [],
    .register one, .release]

/-- A page on which the variable of the module cannot be read. -/
def guardedPage : String :=
  "<script>Object.defineProperty(globalThis, 'M', " ++
    "\x7b get: () => \x7b throw new Error('no'); \x7d \x7d);</script>"

/-- The function cannot be installed on such a page. -/
def guarding : List Operation :=
  [.register one, .launch (.content guardedPage) (.done ()) fun _ : Unit => []]

/-- A page with a function that takes the module out of the namespace. -/
def spoilingPage : String :=
  "<script>var G = \x7b spoil: () => \x7b wasmImports.M = 1; \x7d \x7d;</script>"

/-- The function of the page is called. -/
def spoiling : List Operation :=
  [.register one, .launch (.content spoilingPage) (.done ()) fun _ : Unit => [],
    .invoke "G" "spoil" []]

def limited : Import.Config :=
  { Import.Config.standard with autoBoot := false, executionTimeout := some (.ofMilliseconds 300) }

/-- What work has ended with, if it has not failed. -/
def Outcome.value? {α : Type} : Outcome α → Option α
  | .value a => some a
  | .failure _ | .panic _ => none

/-- What a caller sees of a module and name behind some operations. -/
structure View where
  /-- The function that was registered last. -/
  last : Option Binding
  isReady : Bool
  isBlocked : Bool
  /-- The number that a call gives, if it gives one. -/
  number : Option Int32
  deriving DecidableEq

def view (module name : String) (ops : List Operation) : View :=
  let start := new 0 limited (.standard .none)
  let s := runAll ops start
  ⟨lastRegistered (module, name) (runAllTrace ops start), s.pageReady, s.isBlocked,
    (s.invoke .ordinary module name []).1.value?.bind Value.toInt?⟩

/-- Neither that work registers functions in time, nor that the variables of the modules can be read
on a page, nor that functions leave the namespace alone may be left out. -/
theorem invoke_ne_lastRegistered :
    view "M" "f" overtaking = ⟨some other, true, false, some 1⟩ ∧
      view "M" "f" guarding = ⟨some one, true, false, none⟩ ∧
      view "M" "f" spoiling = ⟨some one, true, false, none⟩ := by
  decide +kernel

end Session
end ScriptProxy
