import Mathlib.Tactic.Choose
import ScriptProxy.Proofs.Bytes.Form

/-!
# Input that is cut off or goes on

A step that reads from the front decides by the bytes that it takes: `Reads` says that bytes behind
them make no difference, and `Streams` says besides that with some of them missing the step runs out
of bytes, whatever it would have found wrong later. `Streams` is put together reader by reader, and
`Streams.run_front` and `Streams.run_append` say what it means for a reader of whole files.
-/

namespace ScriptProxy
open Outcome

variable {α β : Type} {step : Read α} {bs front missing more : Bytes} {a : α}

/-- The step reads some form, and where the bytes that it takes are not all there it runs out of
bytes. -/
structure Streams (step : Read α) : Prop where
  reads : ∃ F, Reads step F
  starves : ∀ {c d e : Cursor} {a : α} {missing : Bytes}, step c = .ok a d → missing ≠ [] →
    c.Passes (e.rest ++ missing) d → ∃ e', step e = .error .outOfBounds e'

namespace Streams

theorem pure (a : α) : Streams (Pure.pure a) where
  reads := ⟨_, .pure a⟩
  starves := by
    rintro c d e b missing ⟨⟩ hne hp
    have hl := hp.remaining
    rw [List.length_append] at hl
    exact absurd (List.length_eq_zero_iff.1 (by omega)) hne

/-- A step that never succeeds takes no bytes that could be missing. -/
theorem of_reads_false (h : Reads step fun _ _ => False) : Streams step where
  reads := ⟨_, h⟩
  starves hok := by
    obtain ⟨-, ⟨⟩, -⟩ := (h _ _ _).1 hok

theorem fail (f : Defect) : Streams (Read.fail f : Read α) := of_reads_false (.fail f)

theorem ite {P : Prop} [Decidable P] {step' : Read α} (h : P → Streams step)
    (h' : ¬ P → Streams step') : Streams (if P then step else step') := by
  split
  · next hP => exact h hP
  · next hP => exact h' hP

theorem bind {f : α → Read β} (h : Streams step) (hf : ∀ a, Streams (f a)) :
    Streams (step >>= f) := by
  obtain ⟨F, hF⟩ := h.reads
  choose G hG using fun a => (hf a).reads
  refine ⟨⟨_, hF.bind hG⟩, ?_⟩
  intro c d e b missing hok hne hp
  obtain ⟨a, m, ha, hb⟩ := step_bind_eq_ok.1 hok
  obtain ⟨front, hfront, hpf⟩ := (hF c a m).1 ha
  obtain ⟨back, -, hpb⟩ := (hG a m b d).1 hb
  have hsplit : front ++ back = e.rest ++ missing :=
    List.append_cancel_right ((hpf.append hpb).rest.symm.trans hp.rest)
  -- the input ends within what the first step takes, or not before it
  by_cases hl : e.rest.length < front.length
  · obtain ⟨lacking, rfl⟩ := List.prefix_of_prefix_length_le
      (hsplit ▸ List.prefix_append e.rest missing) (List.prefix_append front back) (Nat.le_of_lt hl)
    have hne : lacking ≠ [] := by rintro rfl; simp at hl
    obtain ⟨e', he⟩ := h.starves ha hne hpf
    exact ⟨e', step_bind_eq_error.2 (.inl he)⟩
  · obtain ⟨given, hgiven⟩ := List.prefix_of_prefix_length_le
      (hsplit ▸ List.prefix_append front back) (List.prefix_append e.rest missing) (Nat.not_lt.1 hl)
    obtain ⟨n, hn, hrest⟩ := Cursor.exists_passes hgiven.symm
    rw [← hgiven, List.append_assoc, List.append_cancel_left_eq] at hsplit
    rw [hsplit, ← hrest] at hpb
    obtain ⟨e', he⟩ := (hf a).starves hb hne hpb
    exact ⟨e', step_bind_eq_error.2 (.inr ⟨a, n, (hF e a n).2 ⟨front, hfront, hn⟩, he⟩)⟩

theorem map (f : α → β) (h : Streams step) : Streams (f <$> step) := h.bind fun a => pure (f a)

/-! ### Numbers and blocks -/

theorem block (n : Nat) : Streams (Read.block n) where
  reads := ⟨_, .block n⟩
  starves := by
    intro c d e a missing hok hne hp
    obtain ⟨-, -, -, hpos⟩ := Read.block_eq_ok.1 hok
    have hl := hp.pos
    have hm := List.length_pos_iff.2 hne
    rw [List.length_append, Cursor.length_rest] at hl
    exact ⟨e, Read.block_eq_error.2 ⟨by omega, rfl, rfl⟩⟩

theorem number (width : Nat) : Streams (Read.number width) := (block width).map _

theorem u8 : Streams Read.u8 := (number 1).map _

theorem u16 : Streams Read.u16 := (number 2).map _

theorem u32 : Streams Read.u32 := (number 4).map _

theorem u64 : Streams Read.u64 := (number 8).map _

theorem shortBlock : Streams Read.shortBlock := u16.bind fun w => block w.toNat

theorem longBlock : Streams Read.longBlock := u32.bind fun w => block w.toNat

/-! ### Tables -/

theorem timesInto (h : Streams step) (n : Nat) (before : Array α) :
    Streams (Read.timesInto step n before) := by
  induction n generalizing before with
  | zero => exact pure before
  | succ n ih => exact h.bind fun a => ih (before.push a)

theorem times (h : Streams step) (n : Nat) : Streams (Read.times n step) :=
  (h.timesInto n #[]).bind fun out => pure out.toList

theorem table (h : Streams step) : Streams (Read.table step) := u16.bind fun w => h.times w.toNat

/-! ### Whole files -/

variable {trailing : Nat → Defect}

/-- A file that is cut off is not read, for want of bytes. -/
theorem run_front (h : Streams step) (hne : missing ≠ [])
    (hok : (step.toEnd trailing).run (front ++ missing) = .ok a) :
    (step.toEnd trailing).run front = .error .outOfBounds := by
  obtain ⟨F, hF⟩ := h.reads
  have hform := (hF.run_to_end trailing).1 hok
  obtain ⟨d, hd, -⟩ := Cursor.exists_passes
    ((Cursor.rest_ofList (front ++ missing)).trans (List.append_nil _).symm)
  have hread := (hF _ a d).2 ⟨_, hform, hd⟩
  rw [← Cursor.rest_ofList front] at hd
  obtain ⟨e', he⟩ := h.starves hread hne hd
  rw [Read.run, Read.toEnd, step_bind_eq_error.2 (.inl he)]

/-- A file that goes on behind its end is refused, with the number of bytes that are too many. -/
theorem run_append (h : Streams step) (hne : more ≠ [])
    (hok : (step.toEnd trailing).run bs = .ok a) :
    (step.toEnd trailing).run (bs ++ more) = .error (.malformed (trailing more.length)) := by
  obtain ⟨F, hF⟩ := h.reads
  obtain ⟨d, hd, hrest⟩ := Cursor.exists_passes (Cursor.rest_ofList (bs ++ more))
  have hread := (hF _ a d).2 ⟨bs, (hF.run_to_end trailing).1 hok, hd⟩
  have hl : d.remaining = more.length := by rw [← Cursor.length_rest, hrest]
  have hpos := List.length_pos_iff.2 hne
  rw [Read.run, Read.toEnd, bind_of_ok hread, bind_of_ok (get_apply d), if_pos (by omega), hl]
  rfl

end Streams

end ScriptProxy
