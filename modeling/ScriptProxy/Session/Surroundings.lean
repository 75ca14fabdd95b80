import ScriptProxy.Exchange.Shelf
import ScriptProxy.Script.Line

/-!
# What is around a session

The values that its callers keep, and the log that its pages write to.
-/

namespace ScriptProxy.Session

structure Surroundings where
  shelf : Exchange.Shelf
  log : List Script.Line

def Surroundings.empty : Surroundings := ⟨.empty, []⟩

end ScriptProxy.Session
