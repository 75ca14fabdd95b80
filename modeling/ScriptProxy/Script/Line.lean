/-!
# Printed lines

What the scripts of a page print, line by line.
-/

namespace ScriptProxy.Script

/-- How important a printed line is. -/
inductive Level where
  | debug
  | info
  | warning
  | error
  deriving DecidableEq, Repr

def Level.name : Level → String
  | debug => "DEBUG"
  | info => "INFO"
  | warning => "WARN"
  | error => "ERROR"

structure Line where
  level : Level
  text : String
  deriving DecidableEq, Repr

end ScriptProxy.Script
