/-!
# Session states
-/

namespace ScriptProxy.Session

/-- The state of a session, as its callers see it. -/
inductive State where
  /-- There is no engine. -/
  | notStarted
  /-- A page is being loaded. -/
  | starting
  /-- A page is loaded, and no work is running. -/
  | ready
  | executing
  /-- The last page or the last work failed. -/
  | error
  /-- The session is hidden, and its engine goes on. -/
  | hidden
  deriving DecidableEq, Repr

namespace State

def name : State → String
  | notStarted => "NotStarted"
  | starting => "Starting"
  | ready => "Ready"
  | executing => "Executing"
  | error => "Error"
  | hidden => "Hidden"

/-- Whether work can be sent to the engine. -/
def acceptsWork : State → Bool
  | ready | executing | error | hidden => true
  | notStarted | starting => false

def all : List State := [notStarted, starting, ready, executing, error, hidden]

end State

end ScriptProxy.Session
