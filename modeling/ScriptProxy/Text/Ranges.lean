/-!
# Ascending ranges of code points

Character classes are tables of ranges, in ascending order and with both ends included.
`mem_iff` says that the search, which stops at the first range beyond the code point, misses
nothing.
-/

namespace ScriptProxy.Text

/-- A range of code points, both ends included. -/
abbrev Range := Nat × Nat

namespace Range

/-- Whether one of the ranges holds `n`. -/
def anyHolds : List Range → Nat → Bool
  | [], _ => false
  | (low, high) :: rest, n => low ≤ n && (n ≤ high || anyHolds rest n)

theorem anyHolds_iff {rs : List Range} {n : Nat} (h : rs.Pairwise fun r s => r.1 ≤ s.1) :
    anyHolds rs n ↔ ∃ r ∈ rs, r.1 ≤ n ∧ n ≤ r.2 := by
  induction rs with
  | nil => simp [anyHolds]
  | cons r rs ih =>
    obtain ⟨low, high⟩ := r
    rw [List.pairwise_cons] at h
    have later : (∃ r ∈ rs, r.1 ≤ n ∧ n ≤ r.2) → low ≤ n := fun ⟨s, hs, hn, _⟩ =>
      Nat.le_trans (h.1 s hs) hn
    simp only [anyHolds, Bool.and_eq_true, decide_eq_true_eq, Bool.or_eq_true, ih h.2,
      List.mem_cons, exists_eq_or_imp]
    constructor
    · rintro ⟨hl, hh | hr⟩
      · exact .inl ⟨hl, hh⟩
      · exact .inr hr
    · rintro (⟨hl, hh⟩ | hr)
      · exact ⟨hl, .inl hh⟩
      · exact ⟨later hr, .inr hr⟩

end Range

end ScriptProxy.Text
