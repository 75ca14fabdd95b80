import Mathlib.Data.Finset.Card
import Mathlib.Data.Finset.Dedup
import ScriptProxy.Import.Binding
import ScriptProxy.Proofs.OrderedMap

/-!
# What a registry records

`records_insertAll`: after any insertions, a registry has for every key the binding that was inserted
last, lists the keys in the order of their first insertion, and its index says where each of them
stands.
-/

namespace ScriptProxy.Import.Registry

/-- The registry after insertions one after the other. -/
def insertAll (r : Registry) (l : List (MethodKey × Binding)) : Registry :=
  l.foldl (fun r e => r.insert e.1 e.2) r

theorem toOrderedMap_insertAll (r : Registry) (l : List (MethodKey × Binding)) :
    (r.insertAll l).toOrderedMap = r.toOrderedMap.insertAll l := by
  induction l generalizing r with
  | nil => rfl
  | cons e l ih =>
    refine (ih (r.insert e.1 e.2)).trans ?_
    rw [toOrderedMap_insert]
    rfl

theorem mem_entries_iff (r : Registry) {key : MethodKey} {b : Binding} :
    (key, b) ∈ r.entries ↔ r.get? key = some b := by
  rw [IndexedMap.get?, Option.bind_eq_some_iff, List.mem_iff_getElem?]
  constructor
  · rintro ⟨i, hi⟩
    exact ⟨i, r.agrees.index_get?_eq_some_iff.2 ⟨b, hi⟩, by rw [hi]; rfl⟩
  · rintro ⟨i, hi, hb⟩
    obtain ⟨b', hb'⟩ := r.agrees.index_get?_eq_some_iff.1 hi
    rw [hb', Option.map_some, Option.some.injEq] at hb
    exact ⟨i, hb ▸ hb'⟩

/-- The insertions `l` are what is recorded in `r`. -/
structure Records (r : Registry) (l : List (MethodKey × Binding)) : Prop where
  /-- The index has the position of every pair, and nothing else. -/
  index (key : MethodKey) (i : Nat) :
    r.index.get? key = some i ↔ ∃ b, r.entries[i]? = some (key, b)
  /-- What is found under a key was inserted last for it. -/
  last (key : MethodKey) :
    r.get? key = ((l.filter (·.1 = key)).map (·.2)).getLast?
  pairs (key : MethodKey) (b : Binding) : (key, b) ∈ r.entries ↔ r.get? key = some b
  /-- The keys stand in the order in which they came first. -/
  order : r.keys = (l.map (·.1)).eraseDups
  once : r.keys.Nodup
  size : r.size = (l.map (·.1)).toFinset.card
  isEmpty : r.isEmpty = l.isEmpty

theorem findSome?_reverse_eq_getLast? (l : List (MethodKey × Binding)) (key : MethodKey) :
    (l.reverse.findSome? fun e => if e.1 = key then some e.2 else none) =
      ((l.filter (·.1 = key)).map (·.2)).getLast? := by
  rw [← List.head?_filterMap, List.filterMap_reverse, List.head?_reverse]
  congr 1
  induction l with
  | nil => rfl
  | cons e l ih =>
    by_cases he : e.1 = key
    · simp [he, ih]
    · simp [he, ih]

theorem records_insertAll (l : List (MethodKey × Binding)) : Records (empty.insertAll l) l := by
  have hmap := toOrderedMap_insertAll empty l
  have hkeys : (empty.insertAll l).keys = (l.map (·.1)).eraseDups := by
    rw [hmap]
    exact OrderedMap.keys_foldl_insert (·.1) (·.2) l
  have hnodup := (empty.insertAll l).agrees.nodup
  have hmem (key : MethodKey) : key ∈ (empty.insertAll l).keys ↔ key ∈ l.map (·.1) := by
    rw [hkeys, List.mem_eraseDups]
  refine { index := fun key i => (empty.insertAll l).agrees.index_get?_eq_some_iff
           last := fun key => ?_
           pairs := fun key b => mem_entries_iff _
           order := hkeys
           once := hnodup
           size := ?_
           isEmpty := ?_ }
  · rw [get?_eq, hmap, OrderedMap.get?_insertAll, findSome?_reverse_eq_getLast?]
    exact Option.or_none
  · have hset : (empty.insertAll l).keys.toFinset = (l.map (·.1)).toFinset := by
      ext key
      rw [List.mem_toFinset, List.mem_toFinset, hmem]
    rw [← hset, List.toFinset_card_of_nodup hnodup, OrderedMap.keys, List.length_map]
    rfl
  · have hnil : (empty.insertAll l).entries = [] ↔ l = [] := by
      rw [← List.map_eq_nil_iff (f := (·.1)), ← List.map_eq_nil_iff (f := (·.1)) (l := l),
        List.eq_nil_iff_forall_not_mem, List.eq_nil_iff_forall_not_mem]
      exact forall_congr' fun key => not_congr (hmem key)
    rw [OrderedMap.isEmpty, Bool.eq_iff_iff, List.isEmpty_iff, List.isEmpty_iff, hnil]

example (a b b' : Binding) :
    (empty.insertAll [(⟨"b", "()V"⟩, b), (⟨"a", "(I)I"⟩, a), (⟨"b", "()V"⟩, b')]).entries =
      [(⟨"b", "()V"⟩, b'), (⟨"a", "(I)I"⟩, a)] := rfl

end ScriptProxy.Import.Registry
