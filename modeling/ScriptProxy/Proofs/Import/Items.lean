import Mathlib.Data.List.DropRight
import ScriptProxy.Import.Config

/-!
# The items of agent arguments

`parts` splits a text at every occurrence of a character, and `trim` takes nothing more from a text
that it has trimmed. So an item of a text, taken as a text of its own, is its only item: `items_of_mem`.
-/

namespace ScriptProxy

/-! ### Trimming -/

namespace Text

theorem toList_trim (s : String) :
    (trim s).toList = (s.toList.dropWhile isBlank).rdropWhile isBlank := String.toList_ofList

theorem trim_sublist (s : String) : (trim s).toList.Sublist s.toList := by
  rw [toList_trim]
  exact (List.rdropWhile_prefix _ _).sublist.trans (List.dropWhile_sublist _)

/-- Nothing is dropped from the front of a list from whose continuation nothing is dropped. -/
theorem dropWhile_of_prefix {α : Type} {p : α → Bool} {l l' : List α} (h : l' <+: l)
    (hl : l.dropWhile p = l) : l'.dropWhile p = l' := by
  cases l' with
  | nil => rfl
  | cons a l' =>
    obtain ⟨rest, rfl⟩ := h
    rw [List.dropWhile_eq_self_iff] at hl ⊢
    exact fun _ => hl (by simp)

theorem trim_trim (s : String) : trim (trim s) = trim s := by
  refine String.toList_injective ?_
  rw [toList_trim, toList_trim, dropWhile_of_prefix (List.rdropWhile_prefix _ _)
    (List.dropWhile_idempotent _ _), List.rdropWhile_idempotent]

end Text

namespace Import.Config

/-! ### Splitting -/

theorem parts_eq_splitOn (sep : Char) (cs : List Char) : parts sep cs = cs.splitOn sep := by
  unfold parts List.splitOn
  induction cs with
  | nil => rfl
  | cons c cs ih =>
    rw [List.foldr_cons, ih, List.splitOnP_cons_eq_if_modifyHead]
    by_cases hc : c = sep
    · simp [hc]
    · cases hps : cs.splitOnP (· == sep) with
      | nil => exact absurd hps (List.splitOnP_ne_nil _ _)
      | cons p ps => simp [hc]

theorem notMem_of_mem_parts {sep : Char} {cs p : List Char} (h : p ∈ parts sep cs) : sep ∉ p := by
  induction cs generalizing p with
  | nil =>
    rw [List.mem_singleton.1 h]
    exact List.not_mem_nil
  | cons c cs ih =>
    rw [parts_eq_splitOn, List.splitOn, List.splitOnP_cons_eq_if_modifyHead, ← List.splitOn,
      ← parts_eq_splitOn] at h
    split at h
    · rcases List.mem_cons.1 h with rfl | h
      · exact List.not_mem_nil
      · exact ih h
    · next hc =>
      cases hps : parts sep cs with
      | nil => simp [hps] at h
      | cons q qs =>
        rw [hps, List.modifyHead_cons, List.mem_cons] at h
        rcases h with rfl | h
        · have hne : sep ≠ c := fun heq => hc (beq_iff_eq.2 heq.symm)
          exact List.not_mem_cons_of_ne_of_not_mem hne (ih (by simp [hps]))
        · exact ih (by simp [hps, h])

theorem parts_of_notMem {sep : Char} {cs : List Char} (h : sep ∉ cs) : parts sep cs = [cs] := by
  rw [parts_eq_splitOn]
  refine List.splitOnP_eq_singleton fun c hc => ?_
  rw [beq_eq_false_iff_ne]
  rintro rfl
  exact h hc

/-! ### Items -/

theorem mem_items {arguments a : String} : a ∈ items arguments ↔
    a ≠ "" ∧ ∃ p ∈ parts ',' arguments.toList, Text.trim (String.ofList p) = a := by
  simp [items, and_comm]

theorem items_of_mem {arguments a : String} (h : a ∈ items arguments) : items a = [a] := by
  obtain ⟨hne, p, hp, rfl⟩ := mem_items.1 h
  have hcomma : ',' ∉ (Text.trim (String.ofList p)).toList := by
    intro hmem
    have hp' := (Text.trim_sublist _).subset hmem
    rw [String.toList_ofList] at hp'
    exact notMem_of_mem_parts hp hp'
  rw [items, parts_of_notMem hcomma]
  simp [Text.trim_trim, hne]

end Import.Config

end ScriptProxy
