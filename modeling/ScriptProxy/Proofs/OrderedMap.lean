import Mathlib.Data.List.Induction
import ScriptProxy.OrderedMap

/-!
# Insertions one after the other

What is in an ordered map after many insertions: a key has the value that was inserted last for it, and
the keys are listed in the order in which they came first.
-/

namespace ScriptProxy

/-- Another element behind a list is a first occurrence if it is not in the list. -/
theorem eraseDups_concat {α : Type} [BEq α] [LawfulBEq α] [DecidableEq α] (l : List α) (a : α) :
    (l ++ [a]).eraseDups = if a ∈ l then l.eraseDups else l.eraseDups ++ [a] := by
  rw [List.eraseDups_append]
  by_cases ha : a ∈ l
  · simp [List.removeAll, ha]
  · simp [List.removeAll, ha, List.eraseDups_cons]

namespace OrderedMap
variable {κ α : Type} [DecidableEq κ]

theorem get?_of_mem {m : OrderedMap κ α} (h : m.keys.Nodup) {k : κ} {a : α} (hm : (k, a) ∈ m.entries) :
    m.get? k = some a := by
  obtain ⟨entries⟩ := m
  unfold keys at h
  unfold get?
  dsimp only at h hm ⊢
  induction entries with
  | nil => cases hm
  | cons e l ih =>
    obtain ⟨he, hl⟩ := List.nodup_cons.1 h
    rcases List.mem_cons.1 hm with rfl | hm
    · exact if_pos rfl
    · have hne : e.1 ≠ k := fun hek => he (List.mem_map.2 ⟨_, hm, hek.symm⟩)
      exact (if_neg hne).trans (ih hl hm)

/-- The keys of the insertions that make a map, in the order in which they came. -/
theorem keys_foldl_insert {β : Type} [BEq κ] [LawfulBEq κ] (key : β → κ) (value : β → α)
    (bs : List β) :
    (bs.foldl (fun m b => m.insert (key b) (value b)) (.empty : OrderedMap κ α)).keys =
      (bs.map key).eraseDups := by
  induction bs using List.reverseRecOn with
  | nil => rfl
  | append_singleton bs b ih =>
    have hmem : key b ∈ (bs.map key).eraseDups ↔ key b ∈ bs.map key := List.mem_eraseDups
    rw [List.foldl_append, List.foldl_cons, List.foldl_nil, keys_insert, ih, List.map_append,
      List.map_cons, List.map_nil, eraseDups_concat]
    simp only [hmem]

/-- The map after insertions one after the other. -/
def insertAll (m : OrderedMap κ α) (l : List (κ × α)) : OrderedMap κ α :=
  l.foldl (fun m e => m.insert e.1 e.2) m

theorem entries_insertAll {m : OrderedMap κ α} {l : List (κ × α)}
    (h : (m.keys ++ l.map (·.1)).Nodup) : (m.insertAll l).entries = m.entries ++ l := by
  induction l generalizing m with
  | nil => simp [insertAll]
  | cons e l ih =>
    obtain ⟨-, -, hdisjoint⟩ := List.nodup_append.1 h
    have hnew : e.1 ∉ m.keys := fun hm => hdisjoint _ hm _ (by simp) rfl
    have hkeys : (m.insert e.1 e.2).keys = m.keys ++ [e.1] := by rw [keys_insert, if_neg hnew]
    have hstep : (m.insert e.1 e.2).entries = m.entries ++ [e] := put_of_notMem hnew
    refine (ih (m := m.insert e.1 e.2) (by rw [hkeys]; simpa using h)).trans ?_
    rw [hstep]
    simp

/-- What is found under a key was inserted last, or it was there before and nothing came in its
place. -/
theorem get?_insertAll (m : OrderedMap κ α) (l : List (κ × α)) (k : κ) :
    (m.insertAll l).get? k =
      (l.reverse.findSome? fun e => if e.1 = k then some e.2 else none).or (m.get? k) := by
  induction l generalizing m with
  | nil => simp [insertAll]
  | cons e l ih =>
    refine (ih (m.insert e.1 e.2)).trans ?_
    rw [get?_insert, List.reverse_cons, List.findSome?_append, Option.or_assoc]
    by_cases he : e.1 = k <;> simp [he]

theorem insertAll_append (m : OrderedMap κ α) (l l' : List (κ × α)) :
    m.insertAll (l ++ l') = (m.insertAll l).insertAll l' := List.foldl_append

theorem get?_insertAll_of_notMem {m : OrderedMap κ α} {l : List (κ × α)} {k : κ}
    (h : k ∉ l.map (·.1)) : (m.insertAll l).get? k = m.get? k := by
  induction l generalizing m with
  | nil => rfl
  | cons e l ih =>
    obtain ⟨he, hl⟩ := not_or.1 (mt List.mem_cons.2 h)
    refine (ih (m := m.insert e.1 e.2) hl).trans ?_
    rw [get?_insert, if_neg (Ne.symm he)]

theorem get?_insertAll_of_mem {m : OrderedMap κ α} {l : List (κ × α)} (hl : (l.map (·.1)).Nodup)
    {k : κ} {a : α} (h : (k, a) ∈ l) : (m.insertAll l).get? k = some a := by
  induction l generalizing m with
  | nil => cases h
  | cons e l ih =>
    obtain ⟨he, hl⟩ := List.nodup_cons.1 hl
    rcases List.mem_cons.1 h with rfl | h
    · refine (get?_insertAll_of_notMem (m := m.insert k a) he).trans ?_
      rw [get?_insert, if_pos rfl]
    · exact ih hl h

/-- New keys come behind the old ones. -/
theorem keys_insertAll {m : OrderedMap κ α} {l : List (κ × α)} (hl : (l.map (·.1)).Nodup) :
    (m.insertAll l).keys = m.keys ++ (l.map (·.1)).filter (· ∉ m.keys) := by
  induction l generalizing m with
  | nil => simp [insertAll]
  | cons e l ih =>
    obtain ⟨he, hl⟩ := List.nodup_cons.1 hl
    refine (ih (m := m.insert e.1 e.2) hl).trans ?_
    rw [keys_insert, List.map_cons]
    split
    · next hm => rw [List.filter_cons_of_neg (by simpa using hm)]
    · next hm =>
      have hrest : (l.map (·.1)).filter (· ∉ m.keys ++ [e.1]) = (l.map (·.1)).filter (· ∉ m.keys) := by
        refine List.filter_congr fun k hk => ?_
        have hne : k ≠ e.1 := by
          rintro rfl
          exact he hk
        simp [hne]
      rw [hrest, List.filter_cons_of_pos (by simpa using hm), List.append_assoc, List.singleton_append]

variable {l l' : List (κ × α)} (h : l.Perm l') (hl : (l.map (·.1)).Nodup)
include h hl

/-- In what order entries with different keys are put into a map does not matter to who looks them
up. -/
theorem get?_insertAll_perm (m : OrderedMap κ α) (k : κ) :
    (m.insertAll l).get? k = (m.insertAll l').get? k := by
  have hl' : (l'.map (·.1)).Nodup := ((h.map _).nodup_iff).1 hl
  by_cases hk : k ∈ l.map (·.1)
  · obtain ⟨⟨_, a⟩, hm, rfl⟩ := List.mem_map.1 hk
    rw [get?_insertAll_of_mem hl hm, get?_insertAll_of_mem hl' (h.mem_iff.1 hm)]
  · have hk' : k ∉ l'.map (·.1) := fun hm => hk ((h.map _).mem_iff.2 hm)
    rw [get?_insertAll_of_notMem hk, get?_insertAll_of_notMem hk']

theorem keys_insertAll_perm (m : OrderedMap κ α) :
    (m.insertAll l).keys.Perm (m.insertAll l').keys := by
  rw [keys_insertAll hl, keys_insertAll (((h.map _).nodup_iff).1 hl)]
  exact ((h.map _).filter _).append_left _

end OrderedMap

end ScriptProxy
