import ScriptProxy.Failure

/-!
# One-shot deliveries

A delivery brings one value from the side that makes it to a side that waits for it. The value is
taken by the first that finds it. If the side that was to make it gives up, nothing ever arrives.
-/

namespace ScriptProxy.Exchange

/-- How far a delivery has come. -/
inductive Delivery (α : Type) where
  | pending
  | arrived (a : α)
  | taken
  | abandoned
  deriving DecidableEq, Repr

namespace Delivery

variable {α : Type}

/-- Gives up delivering. A value that has arrived stays. -/
def abandon : Delivery α → Delivery α
  | pending => abandoned
  | d => d

/-- What comes of a wait that looks for the value, if the look ends it, and the delivery afterwards. A
wait whose time is over ends with nothing while the delivery is pending. -/
def look (expired : Bool) : Delivery α → Option (Except Failure (Option α)) × Delivery α
  | pending => (if expired then some (.ok none) else none, pending)
  | arrived a => (some (.ok (some a)), taken)
  | taken => (some (.error .disconnected), taken)
  | abandoned => (some (.error .disconnected), abandoned)

end Delivery

end ScriptProxy.Exchange
