import ScriptProxy.Exchange.Delivery

/-!
# Handing a value over

A delivery together with those who take part in it, in steps between which anything can happen: the
maker of the value, who makes one call and then lets go of the delivery, and any number of waits,
limited or not. A wait looks for the value, sleeps, and looks again. A step is what is done in one go,
with the lock of the delivery held where it needs the delivery.
-/

namespace ScriptProxy.Exchange

variable {α : Type}

/-- The call with which the maker's part ends. -/
inductive Ending (α : Type) where
  | complete (a : α)
  | drop
  deriving DecidableEq, Repr

/-- A step of the maker. -/
inductive Duty (α : Type) where
  /-- Lets go of the delivery, in order to put the value into it. -/
  | complete (a : α)
  /-- Lets go of the delivery, in order to give it up. -/
  | drop
  | put (a : α)
  | abandon
  /-- Wakes all who sleep. -/
  | wake
  deriving DecidableEq, Repr

/-- After the value has been put into the delivery, the maker is dropped as well. -/
def Ending.duties : Ending α → List (Duty α)
  | complete a => [.complete a, .drop]
  | drop => [.drop]

inductive Phase (α : Type) where
  /-- About to look for the value. -/
  | awake
  | asleep
  | ended (result : Except Failure (Option α))

structure Wait (α : Type) where
  /-- Whether the wait has a deadline. -/
  limited : Bool
  phase : Phase α

namespace Wait

def rouse (w : Wait α) : Wait α :=
  match w.phase with
  | .asleep => { w with phase := .awake }
  | _ => w

def result? (w : Wait α) : Option (Except Failure (Option α)) :=
  match w.phase with
  | .ended r => some r
  | _ => none

/-- The wait after a look. -/
def after (w : Wait α) (result : Option (Except Failure (Option α))) : Wait α :=
  { w with phase := match result with
    | some r => .ended r
    | none => .asleep }

end Wait

structure Handover (α : Type) where
  delivery : Delivery α
  /-- Whether the maker has not let go of the delivery. -/
  linked : Bool
  /-- What the maker has still to do, once the call has been made. -/
  duties : Option (List (Duty α))
  /-- The waits in the order in which they have begun. -/
  waits : List (Wait α)

/-- What can happen next. The waits are counted from zero. -/
inductive Move (α : Type) where
  | call (e : Ending α)
  | work
  | wait (limited : Bool)
  /-- A wait looks for the value, before or after its deadline. -/
  | look (number : Nat) (expired : Bool)
  /-- A wait wakes up by itself, at its deadline or for no reason. -/
  | rouse (number : Nat)
  deriving DecidableEq, Repr

namespace Handover

def start : Handover α := ⟨.pending, true, none, []⟩

/-- The maker does one thing, with the rest still to do. Whoever has let go of the delivery has nothing
to do with it any more. -/
def perform (h : Handover α) (rest : List (Duty α)) : Duty α → Handover α
  | .complete a =>
    if h.linked then { h with linked := false, duties := some (.put a :: .wake :: rest) }
    else { h with duties := some rest }
  | .drop =>
    if h.linked then { h with linked := false, duties := some (.abandon :: .wake :: rest) }
    else { h with duties := some rest }
  | .put a => { h with delivery := .arrived a, duties := some rest }
  | .abandon => { h with delivery := h.delivery.abandon, duties := some rest }
  | .wake => { h with waits := h.waits.map Wait.rouse, duties := some rest }

/-- What cannot happen changes nothing: the maker makes one call, and only a wait that is awake looks
for the value. -/
def act (h : Handover α) : Move α → Handover α
  | .call e =>
    match h.duties with
    | none => { h with duties := some e.duties }
    | some _ => h
  | .work =>
    match h.duties with
    | some (d :: rest) => h.perform rest d
    | _ => h
  | .wait limited => { h with waits := h.waits ++ [⟨limited, .awake⟩] }
  | .look i expired =>
    match h.waits[i]? with
    | some ⟨limited, .awake⟩ =>
      let (result, delivery) := h.delivery.look (limited && expired)
      { h with delivery, waits := h.waits.set i (Wait.after ⟨limited, .awake⟩ result) }
    | _ => h
  | .rouse i => { h with waits := h.waits.modify i Wait.rouse }

def runAll (moves : List (Move α)) (h : Handover α) : Handover α := moves.foldl act h

/-- The result of a wait that is over. -/
def result? (h : Handover α) (i : Nat) : Option (Except Failure (Option α)) :=
  h.waits[i]?.bind Wait.result?

end Handover

end ScriptProxy.Exchange
