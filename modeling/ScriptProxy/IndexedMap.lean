import ScriptProxy.OrderedMap

/-!
# Ordered maps with an index

The pairs of an ordered map, and an index that says where the pair of each key stands. `insert` keeps
both, and `get?` asks the index. As long as the two agree, which `Agrees.insert` preserves, they do what
`OrderedMap.insert` and `OrderedMap.get?` do by searching through the pairs.
-/

namespace ScriptProxy

structure IndexedMap (κ α : Type) extends OrderedMap κ α where
  /-- The position of the pair of each key. -/
  index : OrderedMap κ Nat
  deriving DecidableEq, Repr

namespace IndexedMap

variable {κ α : Type}

def empty : IndexedMap κ α := ⟨.empty, .empty⟩

/-- No key stands in two pairs, and the index lists the keys with the positions of their pairs. -/
structure Agrees (m : IndexedMap κ α) : Prop where
  nodup : m.keys.Nodup
  index_eq : m.index.entries = m.keys.zipIdx

theorem agrees_empty : (empty : IndexedMap κ α).Agrees := ⟨.nil, rfl⟩

/-- The index is determined by the pairs. -/
theorem Agrees.ext {m n : IndexedMap κ α} (hm : m.Agrees) (hn : n.Agrees)
    (h : m.entries = n.entries) : m = n := by
  obtain ⟨⟨entries⟩, ⟨index⟩⟩ := m
  obtain ⟨⟨entries'⟩, ⟨index'⟩⟩ := n
  obtain rfl : entries = entries' := h
  obtain rfl : index = index' := hm.index_eq.trans hn.index_eq.symm
  rfl

variable [DecidableEq κ]

/-- Replaces the value at the position of the key, or adds a pair at the end. -/
def insert (m : IndexedMap κ α) (k : κ) (a : α) : IndexedMap κ α :=
  match m.index.get? k with
  | some i => ⟨⟨m.entries.modify i fun e => (e.1, a)⟩, m.index⟩
  | none => ⟨⟨m.entries ++ [(k, a)]⟩, m.index.insert k m.entries.length⟩

/-- The value at the position of the key. -/
def get? (m : IndexedMap κ α) (k : κ) : Option α :=
  (m.index.get? k).bind fun i => m.entries[i]?.map (·.2)

/-! ### Positions of keys -/

theorem lookup_zipIdx (k : κ) (l : List (κ × α)) (n : Nat) :
    OrderedMap.lookup k ((l.map (·.1)).zipIdx n) = (l.findIdx? (·.1 = k)).map (· + n) := by
  induction l generalizing n with
  | nil => rfl
  | cons e l ih =>
    rw [List.map_cons, List.zipIdx_cons, OrderedMap.lookup, ih, List.findIdx?_cons]
    by_cases he : e.1 = k
    · simp [he]
    · simp [he, Function.comp_def, Nat.add_comm, Nat.add_left_comm]

theorem lookup_eq_findIdx? (k : κ) (l : List (κ × α)) :
    OrderedMap.lookup k l = (l.findIdx? (·.1 = k)).bind fun i => l[i]?.map (·.2) := by
  induction l with
  | nil => rfl
  | cons e l ih =>
    rw [OrderedMap.lookup, ih, List.findIdx?_cons]
    by_cases he : e.1 = k
    · simp [he]
    · rw [if_neg he, decide_eq_false he]
      show _ = (Option.map (· + 1) _).bind _
      rw [Option.bind_map]
      rfl

theorem put_eq_findIdx? (k : κ) (a : α) (l : List (κ × α)) :
    OrderedMap.put k a l = match l.findIdx? (·.1 = k) with
      | some i => l.modify i fun e => (e.1, a)
      | none => l ++ [(k, a)] := by
  induction l with
  | nil => rfl
  | cons e l ih =>
    rw [OrderedMap.put, ih, List.findIdx?_cons]
    by_cases he : e.1 = k
    · simp [he]
    · cases l.findIdx? (·.1 = k) with
      | none => simp [he]
      | some i => simp [he]

/-! ### Agreement -/

namespace Agrees
variable {m : IndexedMap κ α} (h : m.Agrees)
include h

theorem index_get? (k : κ) : m.index.get? k = m.entries.findIdx? (·.1 = k) := by
  rw [OrderedMap.get?, h.index_eq, OrderedMap.keys, lookup_zipIdx]
  exact Option.map_id'

theorem mem_keys_iff (k : κ) : k ∈ m.keys ↔ m.index.get? k ≠ none := by
  rw [h.index_get?, ne_eq, List.findIdx?_eq_none_iff]
  simp [OrderedMap.keys]

/-- The index has every key at the position of its pair, and nothing else. -/
theorem index_get?_eq_some_iff {k : κ} {i : Nat} :
    m.index.get? k = some i ↔ ∃ a, m.entries[i]? = some (k, a) := by
  rw [h.index_get?, List.findIdx?_eq_some_iff_getElem]
  constructor
  · rintro ⟨hi, hk, -⟩
    exact ⟨m.entries[i].2, by rw [List.getElem?_eq_getElem hi, ← of_decide_eq_true hk]⟩
  · rintro ⟨a, ha⟩
    obtain ⟨hi, hk⟩ := List.getElem?_eq_some_iff.1 ha
    refine ⟨hi, by simp [hk], fun j hj => ?_⟩
    have hne := List.pairwise_iff_getElem.1 h.nodup j i (by simp [OrderedMap.keys]; omega)
      (by simpa [OrderedMap.keys] using hi) hj
    simpa [OrderedMap.keys, hk] using hne

theorem get?_eq (k : κ) : m.get? k = m.toOrderedMap.get? k := by
  rw [get?, h.index_get?, OrderedMap.get?, lookup_eq_findIdx?]

theorem toOrderedMap_insert (k : κ) (a : α) :
    (m.insert k a).toOrderedMap = m.toOrderedMap.insert k a := by
  rw [OrderedMap.insert, put_eq_findIdx?, ← h.index_get?, IndexedMap.insert]
  cases m.index.get? k <;> rfl

/-- An insertion keeps the index in agreement with the pairs. -/
theorem insert (k : κ) (a : α) : (m.insert k a).Agrees := by
  have hpairs := h.toOrderedMap_insert k a
  refine ⟨by rw [hpairs]; exact OrderedMap.nodup_keys_insert h.nodup k a, ?_⟩
  rw [hpairs, OrderedMap.keys_insert, IndexedMap.insert]
  by_cases hk : k ∈ m.keys
  · obtain ⟨i, hi⟩ := Option.ne_none_iff_exists'.1 ((h.mem_keys_iff k).1 hk)
    rw [if_pos hk, hi]
    exact h.index_eq
  · have hnone : m.index.get? k = none := Classical.not_not.1 (mt (h.mem_keys_iff k).2 hk)
    have hnew : k ∉ m.index.entries.map (·.1) := by rwa [h.index_eq, List.zipIdx_map_fst]
    rw [if_neg hk, hnone, List.zipIdx_append, ← h.index_eq]
    refine (OrderedMap.put_of_notMem hnew).trans ?_
    rw [OrderedMap.keys, List.length_map, Nat.zero_add]
    rfl

end Agrees

end IndexedMap

end ScriptProxy
