import ScriptProxy.Session.Basic

/-!
# What happens in a session

`Operation` is what can be done with a session, and the trace of an operation tells what happens while
it is done: one `Event` after the other, each with the session that it happens in. A trace leaves out
what only concerns the callers of the session (its state) and the queue of its engine.

`Leads` is the relation between the session before and after a trace, with the commands that the
engine has taken up and not yet done. It says all that can happen, so that what every one of its
steps preserves is preserved by every run: `Leads.preserves`, with `leads_runAll` for the runs.
-/

namespace ScriptProxy.Session

open Import (Binding)
open Exchange (Value)

/-- What can be done with a session by threads that are not its engine. -/
inductive Operation : Type 1 where
  | launch {α : Type} (page : Page.Source) (w : Work α) (values : α → List Value)
  | execute {α : Type} (w : Work α) (values : α → List Value)
  | register (b : Binding)
  | hide
  | shutdown
  /-- What holds the work of the engine up lets it go on, up to where something does so again. -/
  | release
  -- what the caller keeps
  | keep (name : String) (v : Value)
  | giveUp (name : String)
  | discard (v : Value)

inductive Event where
  /-- Work makes a call. -/
  | call (c : Call)
  /-- Work makes a call, and nobody waits for the work any more. -/
  | late (c : Call)
  /-- The caller itself makes a call, without any work. -/
  | own (c : Call)
  /-- A function is recorded. -/
  | note (b : Binding)
  /-- An engine is started, if there is none. -/
  | start
  /-- A caller waits no longer: its limit is over, or the clock has no time for the limit. -/
  | abandon
  | stop
  /-- The engine replaces its page. -/
  | load (page : Page.Source)
  /-- The engine installs a function that has been recorded. -/
  | install (b : Binding)

/-- The events of a run in order, each with the session that it happens in. -/
abbrev Trace := List (Event × Session)

variable {α : Type}

/-- The session without an engine. -/
def stopped (s : Session) : Session := { s with engine := none, state := .notStarted }

/-- The session behind an event. -/
def Event.after (s : Session) : Event → Session
  | call c | late c | own c => settled (answer c) s
  | note b => s.noted b
  | start => s.withEngine
  | abandon => s
  | stop => s.stopped
  | load page => settled (onHost (Host.load page)) s
  | install b => settled (onHost (Host.register b)) s

/-! ### The traces of the operations -/

section Traces

variable (through : Bool)

/-- The calls of work up to its end, or up to where it is held up. -/
def workTrace (event : Call → Event) : Work α → Session → Trace
  | .done _, _ | .fail _, _ | .panic _, _ => []
  | .call c next, s =>
    (event c, s) :: match answer c s with
      | .ok a s => workTrace event (next (.ok a)) s
      | .error f s =>
        match f.panic? with
        | some _ => []
        | none => workTrace event (next (.error f)) s
  | .wait next, s => if through then workTrace event next s else []

def installTrace : List Binding → Session → Trace
  | [], _ => []
  | b :: bs, s => (.install b, s) :: installTrace bs ((Event.install b).after s)

def loadTrace (page : Page.Source) (s : Session) : Trace :=
  (.load page, s) :: match onHost (Host.load page) s with
    | .ok _ s => installTrace s.registered s
    | .error _ _ => []

def obeyTrace (s : Session) : Command → Trace
  | .load page => loadTrace page s
  | .register b => [(.install b, s)]
  | .run w => workTrace through .late w s

def serveTrace : List Command → Session → Trace
  | [], _ => []
  | c :: cs, s =>
    obeyTrace through s c ++
      if (s.obey through c).isBlocked then [] else serveTrace cs (s.obey through c)

/-- The session whose engine is about to go on with its work. -/
def resumed (s : Session) : Session :=
  { s with engine := s.engine.map fun e => ⟨e.host, none, []⟩ }

def resumeTrace (s : Session) : Trace :=
  match s.engine with
  | some ⟨_, some rest, queue⟩ => serveTrace through (.run rest :: queue) s.resumed
  | _ => []

end Traces

def sendTrace (c : Command) (s : Session) : Trace := if s.isBlocked then [] else obeyTrace false s c

def turnTrace (limit : Option Duration) (s : Session) : Trace :=
  if limit.isNone then resumeTrace true s else []

def postTrace (b : Binding) (s : Session) : Trace :=
  (.start, s) :: sendTrace (.register b) s.withEngine

/-- The session whose callers wait for a page. -/
def unready (s : Session) : Session := { s with pageReady := false, state := .starting }

/-- The session when it is the turn of somebody who waits for a page. -/
def bootTurn (s : Session) : Session := s.starting.turn s.config.bootTimeout

def bootTrace (page : Page.Source) (s : Session) : Trace :=
  (.start, s.unready) ::
    if s.starting.isBeyond s.config.bootTimeout then
      (.abandon, s.starting) :: sendTrace (.load page) s.starting
    else turnTrace s.config.bootTimeout s.starting ++
      if s.bootTurn.isBlocked then [(.abandon, s.bootTurn)] else loadTrace page s.bootTurn

/-- The session whose callers wait for work. -/
def busy (s : Session) : Session := { s with state := .executing }

/-- The work of somebody who waits for it. -/
def waitTrace (limit : Option Duration) (w : Work α) (s : Session) : Trace :=
  workTrace limit.isNone .call w s ++ match perform limit.isNone w s with
    | (.ended _, _) => []
    | (.waiting _, s) => [(.abandon, s)]

/-- The session when it is the turn of somebody who waits for work. -/
def runTurn (s : Session) : Session := s.executing.turn s.config.executionTimeout

def runTrace (w : Work α) (values : α → List Value) (s : Session) : Trace :=
  if !s.state.acceptsWork then []
  else (.start, s.busy) ::
    if s.executing.isBeyond s.config.executionTimeout then
      (.abandon, s.executing) :: sendTrace (.run (w.forNobody values)) s.executing
    else turnTrace s.config.executionTimeout s.executing ++
      if s.runTurn.isBlocked then [(.abandon, s.runTurn)]
      else waitTrace s.config.executionTimeout w s.runTurn

def bootAndRunTrace (page : Page.Source) (w : Work α) (values : α → List Value) (s : Session) :
    Trace :=
  bootTrace page s ++ match boot page s with
    | .ok _ s => runTrace w values s
    | .error _ _ => []

def executeTrace (w : Work α) (values : α → List Value) (s : Session) : Trace :=
  if s.pageReady then runTrace w values s
  else if s.config.autoBoot then bootAndRunTrace s.defaultPage w values s
  else []

def registerTrace (b : Binding) (s : Session) : Trace :=
  (.note b, s) ::
    if s.engine.isSome then postTrace b (s.noted b)
    else if !s.config.autoBoot then []
    else if s.pageReady then postTrace b (s.noted b)
    else bootTrace s.defaultPage (s.noted b)

/-- The session whose callers know of no page. -/
def closing (s : Session) : Session := { s with pageReady := false }

def shutdownTrace (s : Session) : Trace :=
  resumeTrace true s.closing ++ [(.stop, s.closing.resume true)]

namespace Operation

/-- The session behind an operation. -/
def run (s : Session) : Operation → Session
  | launch page w values => (s.launch .ordinary page w values).2
  | execute w values => (s.execute .ordinary w values).2
  | register b => settled (Session.register .ordinary b) s
  | hide => s.hide
  | shutdown => settled (Session.shutdown .ordinary) s
  | release => s.resume false
  | keep name v => settled (answer (.keep name v)) s
  | giveUp name => settled (answer (.giveUp name)) s
  | discard v => settled (answer (.discard v)) s

def trace (s : Session) : Operation → Trace
  | launch page w values => bootAndRunTrace page w values s
  | execute w values => executeTrace w values s
  | register b => registerTrace b s
  | hide => []
  | shutdown => shutdownTrace s
  | release => resumeTrace false s
  | keep name v => [(.own (.keep name v), s)]
  | giveUp name => [(.own (.giveUp name), s)]
  | discard v => [(.own (.discard v), s)]

end Operation

/-- The session behind some operations, one after the other. -/
def runAll (ops : List Operation) (s : Session) : Session := ops.foldl Operation.run s

def runAllTrace : List Operation → Session → Trace
  | [], _ => []
  | op :: ops, s => op.trace s ++ runAllTrace ops (op.run s)

theorem runAll_append (ops ops' : List Operation) (s : Session) :
    runAll (ops ++ ops') s = runAll ops' (runAll ops s) := List.foldl_append

theorem runAllTrace_append (ops ops' : List Operation) (s : Session) :
    runAllTrace (ops ++ ops') s = runAllTrace ops s ++ runAllTrace ops' (runAll ops s) := by
  induction ops generalizing s with
  | nil => rfl
  | cons op ops ih => simp [runAllTrace, runAll, ih]

/-! ### The relation of a trace -/

/-- Whether the engine has a page. -/
def hasPage (s : Session) : Bool := s.engine.any (·.host.isLoaded)

/-- A session, and the commands that its engine has taken up and not yet done. -/
structure Moment where
  session : Session
  pending : List Command

/-- The steps that no event stands for. -/
inductive Quiet : Moment → Moment → Prop where
  /-- What only the callers see is changed. That a page is ready is said when there is one, and work
  is accepted as long as it is. -/
  | mark {s : Session} {state : State} {ready : Bool}
      (page : ready = true → s.pageReady = true ∨ s.hasPage = true ∧ s.isBlocked = false)
      (accepts : ready = true → state.acceptsWork = true) :
      Quiet ⟨s, []⟩ ⟨{ s with state := state, pageReady := ready }, []⟩
  /-- A page is passed to the engine. -/
  | ask {s : Session} {page : Page.Source} (unready : s.pageReady = false) :
      Quiet ⟨s, []⟩ ⟨s, [.load page]⟩
  /-- Work is passed to the engine that nobody waits for. -/
  | pass {s : Session} {w : Work Unit} : Quiet ⟨s, []⟩ ⟨s, [.run w]⟩
  | defer {s : Session} {q : List Command} (blocked : s.isBlocked = true) :
      Quiet ⟨s, q⟩ ⟨s.enqueue q, []⟩
  /-- Passed work begins. -/
  | takeUp {s : Session} {w : Work Unit} {q : List Command} : Quiet ⟨s, .run w :: q⟩ ⟨s, q⟩
  /-- A function is not installed because there is no engine. -/
  | drop {s : Session} {b : Binding} {q : List Command} (gone : s.engine = none) :
      Quiet ⟨s, .register b :: q⟩ ⟨s, q⟩
  /-- Work is held up. -/
  | park {s : Session} {rest : Work Unit} {q : List Command} (unblocked : s.isBlocked = false) :
      Quiet ⟨s, q⟩ ⟨s.park rest, q⟩
  /-- The work that is held up goes on, and the queue is taken up. -/
  | resume {s : Session} {host : Host} {rest : Work Unit} {queue : List Command}
      (parked : s.engine = some ⟨host, some rest, queue⟩) :
      Quiet ⟨s, []⟩ ⟨s.resumed, .run rest :: queue⟩

/-- The steps that are events. -/
inductive Does : Event → Moment → Moment → Prop where
  | call {s : Session} {c : Call} (unblocked : s.isBlocked = false) :
      Does (.call c) ⟨s, []⟩ ⟨settled (answer c) s, []⟩
  | late {s : Session} {c : Call} {q : List Command} :
      Does (.late c) ⟨s, q⟩ ⟨settled (answer c) s, q⟩
  | keep {s : Session} {name : String} {v : Value} :
      Does (.own (.keep name v)) ⟨s, []⟩ ⟨settled (answer (.keep name v)) s, []⟩
  | giveUp {s : Session} {name : String} :
      Does (.own (.giveUp name)) ⟨s, []⟩ ⟨settled (answer (.giveUp name)) s, []⟩
  | discard {s : Session} {v : Value} :
      Does (.own (.discard v)) ⟨s, []⟩ ⟨settled (answer (.discard v)) s, []⟩
  /-- A function is recorded, and is to be installed. -/
  | note {s : Session} {b : Binding} : Does (.note b) ⟨s, []⟩ ⟨s.noted b, [.register b]⟩
  | start {s : Session} {q : List Command} : Does .start ⟨s, q⟩ ⟨s.withEngine, q⟩
  | abandon {s : Session} {q : List Command} : Does .abandon ⟨s, q⟩ ⟨s, q⟩
  | stop {s : Session} (unready : s.pageReady = false) : Does .stop ⟨s, []⟩ ⟨s.stopped, []⟩
  /-- A page is loaded, and the functions are to be installed on it. -/
  | load {s s' : Session} {page : Page.Source} {q : List Command} (unblocked : s.isBlocked = false)
      (loaded : onHost (Host.load page) s = .ok () s') :
      Does (.load page) ⟨s, .load page :: q⟩ ⟨s', s'.registered.map .register ++ q⟩
  | failLoad {s s' : Session} {page : Page.Source} {q : List Command} {f : Failure}
      (failed : onHost (Host.load page) s = .error f s') :
      Does (.load page) ⟨s, .load page :: q⟩ ⟨s', q⟩
  | install {s : Session} {b : Binding} {q : List Command} (unblocked : s.isBlocked = false) :
      Does (.install b) ⟨s, .register b :: q⟩ ⟨(Event.install b).after s, q⟩

/-- The moments before and after a trace. -/
inductive Leads : Moment → Trace → Moment → Prop where
  | refl (m : Moment) : Leads m [] m
  | quiet {m m₁ m' : Moment} {tr : Trace} (h : Quiet m m₁) (rest : Leads m₁ tr m') :
      Leads m tr m'
  | does {m m₁ m' : Moment} {e : Event} {tr : Trace} (h : Does e m m₁) (rest : Leads m₁ tr m') :
      Leads m ((e, m.session) :: tr) m'

namespace Leads

variable {m m₁ m' : Moment} {e : Event} {s : Session} {tr tr₁ tr₂ : Trace}

theorem append (h₁ : Leads m tr₁ m₁) (h₂ : Leads m₁ tr₂ m') : Leads m (tr₁ ++ tr₂) m' := by
  induction h₁ with
  | refl => exact h₂
  | quiet h _ ih => exact .quiet h (ih h₂)
  | does h _ ih => exact .does h (ih h₂)

theorem of_quiet (h : Quiet m m') : Leads m [] m' := .quiet h (.refl m')

theorem of_does (h : Does e m m') : Leads m [(e, m.session)] m' := .does h (.refl m')

/-- Nothing but the state changes, to one in which work is accepted. -/
theorem of_state (s : Session) {state : State} (h : state.acceptsWork = true) :
    Leads ⟨s, []⟩ [] ⟨{ s with state := state }, []⟩ :=
  .of_quiet (.mark .inl fun _ => h)

/-- A trace is cut before each of its events. -/
theorem split (h : Leads m (tr₁ ++ (e, s) :: tr₂) m') :
    ∃ m₁ m₂, Leads m tr₁ m₁ ∧ m₁.session = s ∧ Does e m₁ m₂ ∧ Leads m₂ tr₂ m' := by
  generalize htr : tr₁ ++ (e, s) :: tr₂ = tr at h
  induction h generalizing tr₁ with
  | refl => simp at htr
  | quiet hq _ ih =>
    obtain ⟨m₁, m₂, h₁, hs, hd, h₂⟩ := ih htr
    exact ⟨m₁, m₂, .quiet hq h₁, hs, hd, h₂⟩
  | @does m m₁ m' e' tr hd hrest ih =>
    cases tr₁ with
    | nil =>
      obtain ⟨⟨rfl, rfl⟩, rfl⟩ : (e = e' ∧ s = m.session) ∧ tr₂ = tr := by simpa using htr
      exact ⟨m, m₁, .refl m, rfl, hd, hrest⟩
    | cons x tr₁ =>
      obtain ⟨rfl, rfl⟩ : x = (e', m.session) ∧ tr₁ ++ (e, s) :: tr₂ = tr := by simpa using htr
      obtain ⟨m₁, m₂, h₁, hs, hd', h₂⟩ := ih rfl
      exact ⟨m₁, m₂, .does hd h₁, hs, hd', h₂⟩

/-- What every step preserves is preserved by every run. -/
theorem preserves {P : Moment → Prop} {K : Event → Session → Prop}
    (quiet : ∀ m m', Quiet m m' → P m → P m')
    (does : ∀ e m m', Does e m m' → K e m.session → P m → P m')
    (h : Leads m tr m') (hK : ∀ p ∈ tr, K p.1 p.2) (hm : P m) : P m' := by
  induction h with
  | refl => exact hm
  | quiet h _ ih => exact ih hK (quiet _ _ h hm)
  | does h _ ih =>
    exact ih (fun p hp => hK p (.tail _ hp)) (does _ _ _ h (hK _ (.head _)) hm)

end Leads
end ScriptProxy.Session
