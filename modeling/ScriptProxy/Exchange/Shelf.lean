import ScriptProxy.Exchange.Value
import ScriptProxy.OrderedMap

/-!
# Kept values

A program keeps values under names, and may keep one value under several names. A handle is held as
long as a kept value contains it. The operations that give a value up tell which handles are no
longer held by then.
-/

namespace ScriptProxy.Exchange

/-- The values that are kept, by their names. -/
structure Shelf where
  values : OrderedMap String Value

namespace Shelf

def empty : Shelf := ⟨.empty⟩

def get? (s : Shelf) (name : String) : Option Value := s.values.get? name

/-- Whether a kept value contains the handle. -/
def holds (s : Shelf) (h : Handle) : Bool := s.values.values.any fun v => v.handles.contains h

/-- The handles in a value that no kept value contains, each of them once. -/
def unheld (s : Shelf) (v : Value) : List Handle :=
  (v.handles.filter fun h => !s.holds h).eraseDups

/-- Keeps a value under a name. The handles are those that only the value before it held. -/
def keep (s : Shelf) (name : String) (v : Value) : Shelf × List Handle :=
  let after : Shelf := ⟨s.values.insert name v⟩
  (after, (s.get? name).elim [] after.unheld)

/-- Gives the value of a name up, with the handles that only it held. -/
def giveUp (s : Shelf) (name : String) : Shelf × List Handle :=
  let after : Shelf := ⟨s.values.erase name⟩
  (after, (s.get? name).elim [] after.unheld)

end Shelf

end ScriptProxy.Exchange
