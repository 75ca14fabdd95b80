import ScriptProxy.Duration
import ScriptProxy.Page.Files
import ScriptProxy.Script.Run

/-!
# Platforms

What hosts and sessions are run on: files, an engine for scripts, and a clock. Nothing is known of the
engine but how it is asked for the evaluation of a script or for the call of a function. `standard` has
the interpreter of this library as its engine.
-/

namespace ScriptProxy

structure Platform where
  files : Page.Files
  /-- How scripts are evaluated. -/
  engine : Script.Evaluator
  /-- Whether the clock has a time that lies so far ahead. -/
  reaches : Duration → Bool

namespace Platform

/-- The clock counts seconds with 63 bits. -/
def standard (files : Page.Files) : Platform :=
  ⟨files, Script.engine, fun d => d.nanoseconds < 9223372036854775808 * 1000000000⟩

end Platform

end ScriptProxy
