import ScriptProxy.Import.Binding

/-!
# The functions of a session

Every function that has been registered, in the order in which their modules and names came first. A
function that is registered again takes its own place.
-/

namespace ScriptProxy.Session

open Import (Binding)

structure Functions extends IndexedMap (String × String) Binding where
  agrees : toIndexedMap.Agrees
  /-- Every function stands under its own module and name. -/
  keyed : ∀ p ∈ entries, p.2.key = p.1

namespace Functions

def empty : Functions := ⟨.empty, IndexedMap.agrees_empty, nofun⟩

theorem key_of_mem_put {b : Binding} {l : List ((String × String) × Binding)}
    (hl : ∀ p ∈ l, p.2.key = p.1) : ∀ p ∈ OrderedMap.put b.key b l, p.2.key = p.1 := by
  induction l with
  | nil => simp [OrderedMap.put]
  | cons q l ih =>
    obtain ⟨hq, hl⟩ := List.forall_mem_cons.1 hl
    unfold OrderedMap.put
    split
    · next hk => exact List.forall_mem_cons.2 ⟨hk.symm, hl⟩
    · exact List.forall_mem_cons.2 ⟨hq, ih hl⟩

/-- Adds a function, or replaces the one of its module and name. -/
def insert (fs : Functions) (b : Binding) : Functions where
  toIndexedMap := fs.toIndexedMap.insert b.key b
  agrees := fs.agrees.insert b.key b
  keyed := by
    rw [fs.agrees.toOrderedMap_insert]
    exact key_of_mem_put fs.keyed

variable (fs : Functions) (b : Binding) (key : String × String)

theorem get?_eq : fs.get? key = fs.toOrderedMap.get? key := fs.agrees.get?_eq key

theorem toOrderedMap_insert : (fs.insert b).toOrderedMap = fs.toOrderedMap.insert b.key b :=
  fs.agrees.toOrderedMap_insert b.key b

theorem get?_insert : (fs.insert b).get? key = if b.key = key then some b else fs.get? key := by
  rw [get?_eq, toOrderedMap_insert, OrderedMap.get?_insert, get?_eq]

theorem keys_eq : fs.keys = fs.values.map Binding.key := by
  unfold OrderedMap.keys OrderedMap.values
  rw [List.map_map]
  exact (List.map_congr_left fs.keyed).symm

end Functions

end ScriptProxy.Session
