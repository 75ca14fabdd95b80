import ScriptProxy.Exchange.Value
import ScriptProxy.Failure
import ScriptProxy.Import.Binding
import ScriptProxy.Page.Script
import ScriptProxy.Script.Line
import ScriptProxy.Session.State

/-!
# Work

Work is what a caller has the engine do. It is a tree: it ends, or it makes a call and goes on with
the answer, or something outside holds it up. A `Call` is anything that work can ask of the engine's
host, of its session, or of what is around the session, and `Call.Answer` is the type of the answer to
it.
-/

namespace ScriptProxy.Session

open Exchange (Handle Value)
open Import (Binding)

inductive Call where
  -- the page
  | load (page : Page.Source)
  | register (b : Binding)
  | invoke (module name : String) (args : List Value)
  | evaluate (text : String)
  | isLoaded
  | generation
  | liveHandles
  | namespaceName
  | describeHost
  -- the session that the work is run by
  | state
  | isEngine
  | hide
  | registerScript (b : Binding)
  | execute
  | launch (page : Page.Source)
  | shutdown
  -- what is around the session
  | kept (name : String)
  | keep (name : String) (v : Value)
  | giveUp (name : String)
  /-- Gives up a value that is not kept under any name. -/
  | discard (v : Value)
  | takePrinted

/-- What a call is answered with, if it succeeds. -/
abbrev Call.Answer : Call → Type
  | invoke _ _ _ | evaluate _ => Value
  | isLoaded | isEngine | giveUp _ => Bool
  | generation | liveHandles => Nat
  | namespaceName | describeHost => String
  | state => State
  | kept _ => Option Value
  | takePrinted => List Script.Line
  | load _ | register _ | hide | registerScript _ | execute | launch _ | shutdown | keep _ _
  | discard _ => Unit

/-- Work that ends with a value of the given type. -/
inductive Work (α : Type) where
  | done (a : α)
  | fail (f : Failure)
  /-- The work breaks off, with a text that says why. -/
  | panic (payload : String)
  | call (c : Call) (next : Except Failure c.Answer → Work α)
  /-- Something holds the work up, for longer than any limit of a wait. -/
  | wait (next : Work α)

namespace Work

variable {α β : Type}

/-- One piece of work after the other. -/
def andThen (f : α → Work β) : Work α → Work β
  | done a => f a
  | fail f => fail f
  | panic p => panic p
  | call c next => call c fun r => andThen f (next r)
  | wait next => wait (andThen f next)

instance : Monad Work where
  pure := done
  bind w f := w.andThen f

/-- Makes a call. Its failure is an answer as well. -/
def ask (c : Call) : Work (Except Failure c.Answer) := call c done

/-- Makes a call, and fails if that does. -/
def demand (c : Call) : Work c.Answer :=
  call c fun
    | .ok a => done a
    | .error f => fail f

/-- Gives values up one after the other. -/
def discardAll : List Value → Work Unit
  | [] => done ()
  | v :: vs => call (.discard v) fun _ => discardAll vs

/-- The same work for nobody: the values in its result are given up. -/
def forNobody (values : α → List Value) (w : Work α) : Work Unit :=
  w.andThen fun a => discardAll (values a)

end Work

/-- How work ends. -/
inductive Outcome (α : Type) where
  | value (a : α)
  | failure (f : Failure)
  | panic (payload : String)

/-- The outcome that a failure stands for. -/
def Outcome.ofFailure {α : Type} (f : Failure) : Outcome α :=
  match f.panic? with
  | some payload => .panic payload
  | none => .failure f

/-- How far work has come. -/
inductive Progress (α : Type) where
  | ended (o : Outcome α)
  | waiting (rest : Work α)

end ScriptProxy.Session
