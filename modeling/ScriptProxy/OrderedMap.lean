/-!
# Maps that keep the order of first insertion

`insert` puts a new key at the end and gives a key that is there its new value in place.
`get?_insert` and `keys_insert` say what it does to the two views of a map, its values and the order
of its keys.
-/

namespace ScriptProxy

/-- Pairs of a key and its value, in the order in which the keys came. -/
structure OrderedMap (κ : Type) (α : Type) where
  entries : List (κ × α)
  deriving DecidableEq, Repr

namespace OrderedMap

variable {κ α : Type} [DecidableEq κ]

def empty : OrderedMap κ α := ⟨[]⟩

def keys (m : OrderedMap κ α) : List κ := m.entries.map (·.1)

def values (m : OrderedMap κ α) : List α := m.entries.map (·.2)

def size (m : OrderedMap κ α) : Nat := m.entries.length

def isEmpty (m : OrderedMap κ α) : Bool := m.entries.isEmpty

/-- The value of the first pair with the key. -/
def lookup (k : κ) : List (κ × α) → Option α
  | [] => none
  | (k', a) :: rest => if k' = k then some a else lookup k rest

/-- Replaces the value of the first pair with the key, or adds a pair at the end. -/
def put (k : κ) (a : α) : List (κ × α) → List (κ × α)
  | [] => [(k, a)]
  | (k', b) :: rest => if k' = k then (k', a) :: rest else (k', b) :: put k a rest

def get? (m : OrderedMap κ α) (k : κ) : Option α := lookup k m.entries

def insert (m : OrderedMap κ α) (k : κ) (a : α) : OrderedMap κ α := ⟨put k a m.entries⟩

def contains (m : OrderedMap κ α) (k : κ) : Bool := (m.get? k).isSome

/-- The map without a key. -/
def erase (m : OrderedMap κ α) (k : κ) : OrderedMap κ α := ⟨m.entries.filter (·.1 ≠ k)⟩

theorem lookup_put (k k' : κ) (a : α) (l : List (κ × α)) :
    lookup k' (put k a l) = if k = k' then some a else lookup k' l := by
  induction l with
  | nil => simp [put, lookup]
  | cons e l ih =>
    obtain ⟨j, b⟩ := e
    by_cases hj : j = k <;> by_cases hk : j = k' <;> by_cases h : k = k' <;>
      simp_all [put, lookup]

theorem map_fst_put (k : κ) (a : α) (l : List (κ × α)) :
    (put k a l).map (·.1) = if k ∈ l.map (·.1) then l.map (·.1) else l.map (·.1) ++ [k] := by
  induction l with
  | nil => simp [put]
  | cons e l ih =>
    obtain ⟨j, b⟩ := e
    by_cases hj : j = k
    · simp [put, hj]
    · have hj' : ¬ k = j := fun h => hj h.symm
      simp only [put, hj, if_false, List.map_cons, ih, List.mem_cons, hj', false_or]
      split <;> simp

theorem put_of_notMem {k : κ} {a : α} {l : List (κ × α)} (h : k ∉ l.map (·.1)) :
    put k a l = l ++ [(k, a)] := by
  induction l with
  | nil => rfl
  | cons e l ih =>
    rw [List.map_cons, List.mem_cons, not_or] at h
    rw [put, if_neg fun he => h.1 he.symm, ih h.2, List.cons_append]

theorem get?_insert (m : OrderedMap κ α) (k k' : κ) (a : α) :
    (m.insert k a).get? k' = if k = k' then some a else m.get? k' :=
  lookup_put k k' a m.entries

theorem get?_erase (m : OrderedMap κ α) (k k' : κ) :
    (m.erase k).get? k' = if k = k' then none else m.get? k' := by
  obtain ⟨l⟩ := m
  simp only [get?, erase]
  induction l with
  | nil => simp [lookup]
  | cons e l ih =>
    obtain ⟨j, b⟩ := e
    by_cases hj : j = k <;> by_cases hk : j = k' <;> by_cases h : k = k' <;>
      simp_all [lookup]

theorem keys_insert (m : OrderedMap κ α) (k : κ) (a : α) :
    (m.insert k a).keys = if k ∈ m.keys then m.keys else m.keys ++ [k] :=
  map_fst_put k a m.entries

theorem nodup_keys_insert {m : OrderedMap κ α} (h : m.keys.Nodup) (k : κ) (a : α) :
    (m.insert k a).keys.Nodup := by
  rw [keys_insert]
  split
  · exact h
  · next hk => exact List.nodup_append.2 ⟨h, by simp, by simp; rintro x hx rfl; exact hk hx⟩

end OrderedMap

end ScriptProxy
