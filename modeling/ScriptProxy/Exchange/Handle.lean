import ScriptProxy.Failure

/-!
# Object handles

Objects of scripts stay with the engine. Whoever is outside holds a `Handle` in place of one, and
the engine keeps a `HandleTable` that gives every handle its object: `insert` makes a handle, `get?`
follows one, and `reset` forgets all objects when a page goes. A handle that nobody holds any more
is reported with `release`, and its slot is free for another object from the next `sweep` on.
-/

namespace ScriptProxy.Exchange

/-- A reference to an object of a script: a slot of a table, during one generation of it. -/
structure Handle where
  /-- The number of the table among all tables. -/
  table : Nat
  generation : Nat
  slot : Nat
  deriving DecidableEq, Repr

namespace Handle

/-- Equality of handles, as those see it who do not know which table a handle is from. -/
def same (h k : Handle) : Bool := h.generation == k.generation && h.slot == k.slot

def describe (h : Handle) : String := s!"object#{h.slot}@{h.generation}"

end Handle

/-- The objects that handles have been given out for. -/
structure HandleTable (α : Type) where
  /-- The number of the table among all tables. -/
  number : Nat
  /-- How many pages there have been. -/
  generation : Nat
  slots : List (Option α)
  /-- The slots without an object, in which the last one is taken first. -/
  free : List Nat
  /-- The generations and slots of the handles that have been released since the last sweep. -/
  released : List (Nat × Nat)
  deriving DecidableEq, Repr

namespace HandleTable

variable {α : Type}

/-- The table of the given number, before the first page. -/
def start (number : Nat) : HandleTable α := ⟨number, 0, [], [], []⟩

/-- The number of slots that a table can have. -/
def capacity : Nat := UInt32.size

/-- Takes the object out of a slot. -/
def vacate (t : HandleTable α) (slot : Nat) : HandleTable α :=
  match t.slots[slot]? with
  | some (some _) => { t with slots := t.slots.set slot none, free := slot :: t.free }
  | _ => t

/-- Takes the objects of released handles out of their slots. What is from an earlier generation has
no slot any more. -/
def sweep (t : HandleTable α) : HandleTable α :=
  t.released.foldl (fun t (generation, slot) =>
    if generation = t.generation then t.vacate slot else t) { t with released := [] }

/-- Puts an object into a slot and makes its handle. -/
def insert (t : HandleTable α) (object : α) : Except Failure (Handle × HandleTable α) :=
  let t := t.sweep
  match t.free with
  | slot :: free =>
    .ok (⟨t.number, t.generation, slot⟩,
      { t with slots := t.slots.set slot (some object), free := free })
  | [] =>
    if t.slots.length < capacity then
      .ok (⟨t.number, t.generation, t.slots.length⟩, { t with slots := t.slots ++ [some object] })
    else .error (.misuse .fullHandleTable)

/-- The object of a handle, unless the handle is from another generation. -/
def get? (t : HandleTable α) (h : Handle) : Option α :=
  if h.generation = t.generation then t.slots[h.slot]?.join else none

/-- Reports that a handle is held no more. That is noted by the table which it is from. -/
def release (t : HandleTable α) (h : Handle) : HandleTable α :=
  if h.table = t.number then { t with released := t.released ++ [(h.generation, h.slot)] } else t

/-- Forgets all objects and begins the next generation. -/
def reset (t : HandleTable α) : HandleTable α :=
  { t with generation := t.generation + 1, slots := [], free := [], released := [] }

/-- The number of slots that have an object. -/
def occupied (t : HandleTable α) : Nat := t.slots.countP Option.isSome

@[simp] theorem get?_reset (t : HandleTable α) (h : Handle) : t.reset.get? h = none := by
  simp [get?, reset]

@[simp] theorem occupied_reset (t : HandleTable α) : t.reset.occupied = 0 := rfl

end HandleTable

end ScriptProxy.Exchange
