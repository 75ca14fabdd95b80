import ScriptProxy.Host.Basic
import ScriptProxy.Import.Rewrite
import ScriptProxy.Session.Functions
import ScriptProxy.Session.Surroundings
import ScriptProxy.Session.Work

/-!
# Sessions

A session runs an engine, which has a host, and passes pages and work to it. `launch` loads a page
and runs work on it, `execute` runs work on the page that is loaded, `register` notes a function for
this page and every later one, and `shutdown` ends the engine. The functions are installed again
whenever a page is loaded.

The engine is a thread of its own, which would wait for itself if it launched a page, executed work or
shut the session down: to it, these calls fail.

Whatever is passed to the engine is done at once, unless its work is held up. Then it stands in a queue,
and whoever waits for it gives up at the limit of the configuration, while a wait without a limit lasts
until the work goes on. A limit for which the clock has no time makes the wait break off, and the state
of the session stays what it was then.
-/

namespace ScriptProxy

open Exchange (Handle Value)
open Import (Binding Config Registrar)
open Script (Line)

/-- A thread, with the session that it is the engine of. -/
structure Thread where
  serves : Option Nat

/-- A thread that is no engine. -/
def Thread.ordinary : Thread := ⟨none⟩

namespace Session

/-- What stands in the queue of an engine. Nobody waits for it any more. -/
inductive Command where
  | load (page : Page.Source)
  | register (b : Binding)
  | run (w : Work Unit)

structure Engine where
  host : Host
  /-- The rest of the work that is held up. -/
  waiting : Option (Work Unit)
  queue : List Command

end Session

structure Session where
  /-- No two sessions have the same number. -/
  id : Nat
  config : Config
  platform : Platform
  state : Session.State
  /-- Whether a page was loaded, as far as the callers know. -/
  pageReady : Bool
  functions : Session.Functions
  engine : Option Session.Engine
  /-- How many engines there have been. -/
  engines : Nat
  outside : Session.Surroundings

namespace Session

variable {α : Type}

def new (id : Nat) (config : Config) (platform : Platform) : Session :=
  ⟨id, config, platform, .notStarted, false, .empty, none, 0, .empty⟩

/-- The functions that have been registered, in the order in which they were first. -/
def registered (s : Session) : List Binding := s.functions.values

/-- Notes a function. -/
def noted (b : Binding) (s : Session) : Session := { s with functions := s.functions.insert b }

/-- The thread of the engine. -/
def engineThread (s : Session) : Thread := ⟨some s.id⟩

/-- Whether a thread is the engine of the session. -/
def isEngine (s : Session) (t : Thread) : Bool := t.serves = some s.id

/-- Refuses the engine what it would wait for itself in. -/
def rejectReentrant (t : Thread) : EStateM Failure Session Unit := fun s =>
  if s.isEngine t then .error .reentrant s else .ok () s

/-- The session with an engine, which is started if there is none. -/
def withEngine (s : Session) : Session :=
  match s.engine with
  | some _ => s
  | none =>
    { s with
      engine := some ⟨.start s.config s.platform s.engines, none, []⟩
      engines := s.engines + 1 }

/-- Whether the work of the engine is held up. -/
def isBlocked (s : Session) : Bool := s.engine.any (·.waiting.isSome)

/-- Puts commands into the queue of the engine. -/
def enqueue (cs : List Command) (s : Session) : Session :=
  { s with engine := s.engine.map fun e => { e with queue := e.queue ++ cs } }

/-- Leaves the rest of some work to the engine, which is held up in it. -/
def park (rest : Work Unit) (s : Session) : Session :=
  { s with engine := s.engine.map fun e => { e with waiting := some rest } }

/-- Does something with the host of the engine. The lines that it prints go to the log. -/
def onHost (m : EStateM Failure Host α) : EStateM Failure Session α := fun s =>
  match s.engine with
  | none => .error .disconnected s
  | some e =>
    let after (h : Host) : Session :=
      { s with
        engine := some { e with host := { h with printed := [] } }
        outside := { s.outside with log := s.outside.log ++ h.printed } }
    match m e.host with
    | .ok a h => .ok a (after h)
    | .error f h => .error f (after h)

/-- The state behind an action, whatever became of the action. -/
def settled (m : EStateM Failure Session α) (s : Session) : Session :=
  match m s with
  | .ok _ s => s
  | .error _ s => s

/-- Reports to the engine that handles are held no more. -/
def release (held : List Handle) (s : Session) : Session :=
  { s with engine := s.engine.map fun e => { e with host := e.host.release held } }

/-- The session with other values kept. The handles are held no more then. -/
def shelve (shelf : Exchange.Shelf) (unheld : List Handle) (s : Session) : Session :=
  release unheld { s with outside := { s.outside with shelf := shelf } }

/-! ### Calls from work -/

/-- Notes a function, and installs it if the engine has a page. -/
def registerInside (b : Binding) : EStateM Failure Session Unit := do
  modify (noted b)
  if ← onHost (return (← get).isLoaded) then onHost (Host.register b)

/-- Hides the session, if no work is running. -/
def hide (s : Session) : Session :=
  if s.state = .ready ∨ s.state = .error then { s with state := .hidden } else s

/-- The answer to a call. Work is run by the engine, and what the engine is refused would never come
to an end. -/
def answer : (c : Call) → EStateM Failure Session c.Answer
  | .load page => onHost (Host.load page)
  | .register b => onHost (Host.register b)
  | .invoke module name args => onHost (Host.invoke module name args)
  | .evaluate text => onHost (Host.evaluate text)
  | .isLoaded => onHost (return (← get).isLoaded)
  | .generation => onHost (return (← get).generation)
  | .liveHandles => onHost Host.liveHandles
  | .namespaceName => return (← get).config.namespaceName
  | .describeHost => onHost (return (← get).describe)
  | .state => return (← get).state
  | .isEngine => return (← get).isEngine (← get).engineThread
  | .hide => modify hide
  | .registerScript b => registerInside b
  | .execute => do
    rejectReentrant (← get).engineThread
    throw .deadlock
  | .launch _ => do
    rejectReentrant (← get).engineThread
    throw .deadlock
  | .shutdown => do
    rejectReentrant (← get).engineThread
    throw .deadlock
  | .kept name => return (← get).outside.shelf.get? name
  | .keep name v => modify fun s =>
      let (shelf, unheld) := s.outside.shelf.keep name v
      s.shelve shelf unheld
  | .giveUp name => modifyGet fun s =>
      let (shelf, unheld) := s.outside.shelf.giveUp name
      ((s.outside.shelf.get? name).isSome, s.shelve shelf unheld)
  | .discard v => modify fun s => release (s.outside.shelf.unheld v) s
  | .takePrinted => modifyGet fun s =>
      (s.outside.log, { s with outside := { s.outside with log := [] } })

/-- Runs work to its end. If its caller waits with a limit, or nobody waits, then only up to where the
work is held up. -/
def perform (through : Bool) : Work α → Session → Progress α × Session
  | .done a, s => (.ended (.value a), s)
  | .fail f, s => (.ended (.failure f), s)
  | .panic p, s => (.ended (.panic p), s)
  | .call c next, s =>
    match answer c s with
    | .ok a s => perform through (next (.ok a)) s
    | .error f s =>
      match f.panic? with
      | some p => (.ended (.panic p), s)
      | none => perform through (next (.error f)) s
  | .wait next, s => if through then perform through next s else (.waiting next, s)

/-! ### The engine -/

/-- Installs all functions on the page. One that fails is left out. -/
def replay (s : Session) : Session :=
  s.registered.foldl (fun s b => settled (onHost (Host.register b)) s) s

/-- Loads a page and installs all functions on it. -/
def loadPage (page : Page.Source) : EStateM Failure Session Unit := do
  onHost (Host.load page)
  modify replay

/-- Does what a command says. -/
def obey (through : Bool) (s : Session) : Command → Session
  | .load page => settled (loadPage page) s
  | .register b =>
    settled (do if ← onHost (return (← get).isLoaded) then onHost (Host.register b)) s
  | .run w =>
    match perform through w s with
    | (.ended _, s) => s
    | (.waiting rest, s) => s.park rest

/-- Does commands in order, up to where work is held up. The others wait in the queue. -/
def serve (through : Bool) : List Command → Session → Session
  | [], s => s
  | c :: cs, s =>
    let s := s.obey through c
    if s.isBlocked then s.enqueue cs else serve through cs s

/-- The work that is held up goes on, and the engine does what stands in its queue. -/
def resume (through : Bool) (s : Session) : Session :=
  match s.engine with
  | some ⟨host, some rest, queue⟩ =>
    serve through (.run rest :: queue) { s with engine := some ⟨host, none, []⟩ }
  | _ => s

/-- Passes a command to the engine, and waits for nothing. -/
def send (c : Command) (s : Session) : Session :=
  if s.isBlocked then s.enqueue [c] else s.obey false c

/-- Whether a wait with the limit would be one up to a time that the clock does not have. -/
def isBeyond (s : Session) (limit : Option Duration) : Bool := limit.any fun d => !s.platform.reaches d

/-- What has become of the engine when it is somebody's turn who waits with the limit. Without one, all
that is held up goes on meanwhile. -/
def turn (limit : Option Duration) (s : Session) : Session :=
  if limit.isNone then s.resume true else s

/-- The failure of a wait for a page. -/
def bootTimeout (s : Session) : Failure := .bootTimeout (s.config.bootTimeout.getD (.ofSeconds 0))

/-- The failure of a wait for work. -/
def executionTimeout (s : Session) : Failure :=
  .executionTimeout (s.config.executionTimeout.getD (.ofSeconds 0))

/-- The session in which a page is about to be loaded. -/
def starting (s : Session) : Session := withEngine { s with pageReady := false, state := .starting }

/-- Loads a page. -/
def boot (page : Page.Source) : EStateM Failure Session Unit := fun s =>
  let s := s.starting
  if s.isBeyond s.config.bootTimeout then .error .noDeadline (s.send (.load page))
  else
    let s := s.turn s.config.bootTimeout
    if s.isBlocked then .error s.bootTimeout { s.enqueue [.load page] with state := .error }
    else
      match loadPage page s with
      | .ok _ s => .ok () { s with pageReady := true, state := .ready }
      | .error f s => .error f { s with state := .error }

/-- The session in which work is about to be run. -/
def executing (s : Session) : Session := withEngine { s with state := .executing }

/-- Runs work on the page. The function tells which values are in the result of the work. -/
def run (w : Work α) (values : α → List Value) (s : Session) : Outcome α × Session :=
  if !s.state.acceptsWork then (.failure (.boot (.busy s.state.name)), s)
  else
    let limit := s.config.executionTimeout
    let s := s.executing
    if s.isBeyond limit then (.ofFailure .noDeadline, s.send (.run (w.forNobody values)))
    else
      let s := s.turn limit
      if s.isBlocked then
        (.failure s.executionTimeout, { s.enqueue [.run (w.forNobody values)] with state := .error })
      else
        match perform limit.isNone w s with
        | (.ended (.value a), s) => (.value a, { s with state := .ready })
        | (.ended o, s) => (o, { s with state := .error })
        | (.waiting rest, s) =>
          (.failure s.executionTimeout, { s.park (rest.forNobody values) with state := .error })

/-! ### Operations of a caller -/

/-- Loads a page and runs work on it. -/
def bootAndRun (page : Page.Source) (w : Work α) (values : α → List Value) (s : Session) :
    Outcome α × Session :=
  match boot page s with
  | .ok _ s => run w values s
  | .error f s => (.ofFailure f, s)

def defaultPage (s : Session) : Page.Source := .content s.config.defaultPage

/-- Passes a function to the engine. -/
def post (b : Binding) (s : Session) : Session := s.withEngine.send (.register b)

section Operations

variable (t : Thread)

/-- Does what the engine is refused. -/
def unlessEngine (m : Session → Outcome α × Session) (s : Session) : Outcome α × Session :=
  match rejectReentrant t s with
  | .ok _ s => m s
  | .error f s => (.failure f, s)

/-- Loads a page and runs work on it. -/
def launch (page : Page.Source) (w : Work α) (values : α → List Value) :
    Session → Outcome α × Session :=
  unlessEngine t (bootAndRun page w values)

/-- Runs work on the page that is loaded, or on the default page if there is none. -/
def execute (w : Work α) (values : α → List Value) : Session → Outcome α × Session :=
  unlessEngine t fun s =>
    if s.pageReady then run w values s
    else if s.config.autoBoot then bootAndRun s.defaultPage w values s
    else (.failure (.boot .notLaunched), s)

/-- Calls a function. -/
def invoke (module name : String) (args : List Value) (s : Session) : Outcome Value × Session :=
  if s.isEngine t then
    match onHost (Host.invoke module name args) s with
    | .ok v s => (.value v, s)
    | .error f s => (.ofFailure f, s)
  else execute t (.demand (.invoke module name args)) (fun v => [v]) s

/-- Notes a function, and passes it to the engine. If there is no engine, the default page is loaded
or the function waits for a page, as the configuration says. -/
def register : Registrar Session := fun b s =>
  if s.isEngine t then registerInside b s
  else
    let s := s.noted b
    if s.engine.isSome then .ok () (s.post b)
    else if !s.config.autoBoot then .ok () s
    else if s.pageReady then .ok () (s.post b)
    else boot s.defaultPage s

/-- Ends the engine when it has done all that was passed to it. What was registered is kept. -/
def shutdown : EStateM Failure Session Unit := do
  rejectReentrant t
  modify fun s =>
    { resume true { s with pageReady := false } with engine := none, state := .notStarted }

end Operations

end Session

end ScriptProxy
