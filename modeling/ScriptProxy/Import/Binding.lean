import ScriptProxy.IndexedMap
import ScriptProxy.Text.Blank

/-!
# Bindings

A binding names a script function by a module and a name within it, and may bring the script that
defines it. A registry says which methods of a class are bound to which functions.
-/

namespace ScriptProxy.Import

structure Binding where
  module : String
  name : String
  script : Option String
  deriving DecidableEq, Repr

namespace Binding

/-- A binding whose script is left out if it is blank. -/
def of (module name : String) (script : Option String) : Binding :=
  ⟨module, name, script.filter fun s => !Text.allBlank s⟩

def hasScript (b : Binding) : Bool := b.script.isSome

def key (b : Binding) : String × String := (b.module, b.name)

def describe (b : Binding) : String := b.module ++ "." ++ b.name

end Binding

/-- A method of a class, by its name and descriptor. -/
structure MethodKey where
  name : String
  descriptor : String
  deriving DecidableEq, Repr

def MethodKey.describe (k : MethodKey) : String := k.name ++ k.descriptor

/-- The bindings of the methods of a class, in the order of their first insertion. -/
structure Registry extends IndexedMap MethodKey Binding where
  agrees : toIndexedMap.Agrees

namespace Registry

def empty : Registry := ⟨.empty, IndexedMap.agrees_empty⟩

def insert (r : Registry) (key : MethodKey) (b : Binding) : Registry :=
  ⟨r.toIndexedMap.insert key b, r.agrees.insert key b⟩

@[ext] theorem ext {r s : Registry} (h : r.entries = s.entries) : r = s := by
  obtain ⟨m, hm⟩ := r
  obtain ⟨n, hn⟩ := s
  obtain rfl : m = n := hm.ext hn h
  rfl

variable (r : Registry) (key key' : MethodKey) (b : Binding)

theorem get?_eq : r.get? key = r.toOrderedMap.get? key := r.agrees.get?_eq key

theorem toOrderedMap_insert : (r.insert key b).toOrderedMap = r.toOrderedMap.insert key b :=
  r.agrees.toOrderedMap_insert key b

theorem get?_insert : (r.insert key b).get? key' = if key = key' then some b else r.get? key' := by
  rw [get?_eq, toOrderedMap_insert, OrderedMap.get?_insert, get?_eq]

end Registry

end ScriptProxy.Import
