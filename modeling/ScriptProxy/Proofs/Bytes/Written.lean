import ScriptProxy.Proofs.Bytes.Form
import ScriptProxy.Proofs.Outcome

/-!
# What the writers of counts, lists and tables give

For each writer the form that it gives, in the terms in which `Reads` states what a reader accepts,
and the condition under which it gives anything.
-/

namespace ScriptProxy.Written
open Outcome

variable {α : Type} {n : Nat} {d : Defect} {bs : Bytes} {write : α → Except Failure Bytes}

theorem count16_eq_ok : count16 n d = .ok bs ↔ n ≤ 65535 ∧ bs = BigEndian.digits 2 n := by
  unfold count16
  split <;> simp [*, Defect.fail, eq_comm]

theorem count32_eq_ok : count32 n d = .ok bs ↔ n < UInt32.size ∧ bs = BigEndian.digits 4 n := by
  unfold count32
  split <;> simp [*, Defect.fail, eq_comm]

theorem okIff_count16 : OkIff (count16 n d) (n ≤ 65535) := OkIff.ite

theorem okIff_count32 : OkIff (count32 n d) (n < UInt32.size) := OkIff.ite

theorem all_cons (write : α → Except Failure Bytes) (x : α) (xs : List α) :
    all write (x :: xs) = write x >>= fun b => (b ++ ·) <$> all write xs := by
  simp [all, List.mapM_cons]

/-- A writer that goes through the list with the forms written so far at hand, last to first. -/
theorem eq_all {go : List α → List Bytes → Except Failure Bytes}
    (nil : ∀ before, go [] before = .ok before.reverse.flatten)
    (cons : ∀ x xs before, go (x :: xs) before = write x >>= fun b => go xs (b :: before))
    (xs : List α) : go xs [] = all write xs := by
  suffices h : ∀ before, go xs before = (before.reverse.flatten ++ ·) <$> all write xs by
    simpa using h []
  induction xs with
  | nil =>
    intro before
    rw [nil]
    exact congrArg Except.ok (List.append_nil _).symm
  | cons x xs ih =>
    intro before
    rw [cons, all_cons]
    cases write x with
    | error f => rfl
    | ok b =>
      show go xs (b :: before) = _ <$> _ <$> all write xs
      rw [ih]
      simp

theorem all_eq_ok {xs : List α} : all write xs = .ok bs ↔ (Form.of write).sequence xs bs := by
  induction xs generalizing bs with
  | nil =>
    show (.ok [] : Except Failure Bytes) = .ok bs ↔ bs = []
    rw [Except.ok.injEq, eq_comm]
  | cons x xs ih =>
    rw [all_cons, bind_eq_ok]
    simp only [map_eq_ok, ih, Form.sequence, Form.of]
    constructor
    · rintro ⟨b, hb, later, hl, rfl⟩
      exact ⟨b, later, hb, hl, rfl⟩
    · rintro ⟨b, later, hb, hl, rfl⟩
      exact ⟨b, hb, later, hl, rfl⟩

theorem okIff_all {P : α → Prop} {xs : List α} (h : ∀ a ∈ xs, OkIff (write a) (P a)) :
    OkIff (all write xs) (∀ a ∈ xs, P a) :=
  (OkIff.mapM h).map List.flatten

theorem table_eq_ok {tooLarge : Nat → Defect} {xs : List α} :
    table tooLarge write xs = .ok bs ↔ xs.length ≤ 65535 ∧
      ∃ body, (Form.of write).sequence xs body ∧ bs = BigEndian.digits 2 xs.length ++ body := by
  unfold table
  simp only [bind_eq_ok, count16_eq_ok, all_eq_ok]
  constructor
  · rintro ⟨_, ⟨hl, rfl⟩, body, hb, ⟨⟩⟩
    exact ⟨hl, body, hb, rfl⟩
  · rintro ⟨hl, body, hb, rfl⟩
    exact ⟨_, ⟨hl, rfl⟩, body, hb, rfl⟩

theorem okIff_table {tooLarge : Nat → Defect} {P : α → Prop} {xs : List α}
    (h : ∀ a ∈ xs, OkIff (write a) (P a)) :
    OkIff (table tooLarge write xs) (xs.length ≤ 65535 ∧ ∀ a ∈ xs, P a) :=
  okIff_count16.bind fun count => (okIff_all h).map (count ++ ·)

/-- Each element of a table is written, to no more bytes than the table. -/
theorem exists_of_table {tooLarge : Nat → Defect} {xs : List α}
    (h : table tooLarge write xs = .ok bs) {x : α} (hx : x ∈ xs) :
    ∃ b, write x = .ok b ∧ b.length ≤ bs.length := by
  obtain ⟨-, body, hs, rfl⟩ := table_eq_ok.1 h
  obtain ⟨b, hb, hl⟩ := Form.exists_of_sequence hs hx
  exact ⟨b, hb, by rw [List.length_append]; omega⟩

theorem length_of_table {tooLarge : Nat → Defect} (size : α → Nat) {xs : List α}
    (hsize : ∀ a bs, write a = .ok bs → bs.length = size a)
    (h : table tooLarge write xs = .ok bs) :
    bs.length = 2 + xs.foldr (fun x n => size x + n) 0 := by
  obtain ⟨-, body, hs, rfl⟩ := table_eq_ok.1 h
  rw [List.length_append, BigEndian.length_digits, Form.length_of_sequence hsize hs]

end ScriptProxy.Written

namespace ScriptProxy.Reads

theorem written16 : Reads Read.u16 (Form.of fun i => .ok (Written.word16 i)) :=
  u16.congr fun _ _ => by rw [Form.of, Except.ok.injEq, eq_comm]

/-- A reader of some of what a writer gives reads the tables of these. -/
theorem someTable {α : Type} {step : Read α} {P : α → Prop} {write : α → Except Failure Bytes}
    (h : Reads step fun a bs => P a ∧ write a = .ok bs) (tooLarge : Nat → Defect) :
    Reads (Read.table step) fun xs bs =>
      (∀ x ∈ xs, P x) ∧ Written.table tooLarge write xs = .ok bs := by
  refine h.table.congr fun xs bs => ?_
  simp only [Form.sequence_and, Written.table_eq_ok]
  constructor
  · rintro ⟨hl, body, ⟨hP, hs⟩, rfl⟩
    exact ⟨hP, hl, body, hs, rfl⟩
  · rintro ⟨hP, hl, body, hs, rfl⟩
    exact ⟨hl, body, ⟨hP, hs⟩, rfl⟩

/-- A reader for what a writer gives reads the tables that are written with it. -/
theorem writtenTable {α : Type} {step : Read α} {write : α → Except Failure Bytes}
    (h : Reads step (Form.of write)) (tooLarge : Nat → Defect) :
    Reads (Read.table step) (Form.of (Written.table tooLarge write)) :=
  h.table.congr fun _ _ => Written.table_eq_ok.symm

end ScriptProxy.Reads
