import ScriptProxy.Bytes.Cursor
import ScriptProxy.Bytes.Written
import ScriptProxy.Proofs.Outcome

/-!
# Readers and the written forms they accept

A form says which byte strings stand for a value. `Reads step F` says that `step` succeeds exactly
at a cursor that stands before bytes of the form `F`, gives the value they stand for, and moves the
cursor behind them. It is one equivalence, so a reader that loses a byte and one that accepts
something else are both excluded, and it is put together reader by reader: `Reads.bind`,
`Reads.map`, `Reads.times`, `Reads.table`.
-/

namespace ScriptProxy

namespace Cursor
variable {c d e : Cursor} {as bs : Bytes}

/-- `d` stands right behind the bytes `bs` that `c` stands before. -/
structure Passes (c : Cursor) (bs : Bytes) (d : Cursor) : Prop where
  data : d.data = c.data
  rest : c.rest = bs ++ d.rest

theorem Passes.pos (h : c.Passes bs d) : d.pos = c.pos + bs.length := by
  have hl := congrArg List.length h.rest
  rw [length_rest, List.length_append, length_rest, remaining, remaining, h.data] at hl
  have hc := c.pos_le
  have hd := d.pos_le
  rw [h.data] at hd
  omega

theorem Passes.remaining (h : c.Passes bs d) : c.remaining = bs.length + d.remaining := by
  rw [← length_rest, h.rest, List.length_append, length_rest]

theorem passes_nil : c.Passes [] d ↔ d = c := by
  constructor
  · intro h
    exact Cursor.ext' h.data (by simpa using h.pos)
  · rintro rfl
    exact ⟨rfl, rfl⟩

theorem Passes.append (h : c.Passes as d) (h' : d.Passes bs e) : c.Passes (as ++ bs) e :=
  ⟨h'.data.trans h.data, by rw [h.rest, h'.rest, List.append_assoc]⟩

/-- The cursor behind the first `n` bytes that are left. -/
theorem exists_passes (h : c.rest = as ++ bs) : ∃ d, c.Passes as d ∧ d.rest = bs := by
  have hl := congrArg List.length h
  rw [length_rest, List.length_append, remaining] at hl
  refine ⟨⟨c.data, c.pos + as.length, by have := c.pos_le; omega⟩, ?_⟩
  have hr : Cursor.rest ⟨c.data, c.pos + as.length, by have := c.pos_le; omega⟩ = bs := by
    show c.data.toList.drop (c.pos + as.length) = bs
    rw [← List.drop_drop]
    show c.rest.drop as.length = bs
    rw [h, List.drop_left]
  exact ⟨⟨rfl, by rw [hr]; exact h⟩, hr⟩

theorem passes_append : c.Passes (as ++ bs) e ↔ ∃ d, c.Passes as d ∧ d.Passes bs e := by
  constructor
  · intro h
    obtain ⟨d, hd, hr⟩ := exists_passes (h.rest.trans (List.append_assoc ..))
    exact ⟨d, hd, h.data.trans hd.data.symm, hr⟩
  · rintro ⟨d, h, h'⟩
    exact h.append h'

theorem passes_cons {b : UInt8} : c.Passes (b :: bs) e ↔ ∃ d, c.Passes [b] d ∧ d.Passes bs e :=
  (passes_append : c.Passes ([b] ++ bs) e ↔ _)

end Cursor

theorem Read.run_eq_ok {α : Type} {step : Read α} {bs : Bytes} {a : α} :
    step.run bs = .ok a ↔ ∃ d, step (Cursor.ofList bs) = .ok a d := by
  unfold Read.run
  constructor
  · intro h
    split at h
    · next d hd => cases h; exact ⟨d, hd⟩
    · cases h
  · rintro ⟨d, hd⟩
    rw [hd]

/-- The step, with the end of the input behind what it reads. -/
def Read.toEnd {α : Type} (step : Read α) (trailing : Nat → Defect) : Read α :=
  step >>= fun a => (get : Read Cursor) >>= fun d =>
    if d.remaining ≠ 0 then Read.fail (trailing d.remaining) else Pure.pure a

/-- Which byte strings stand for a value. -/
abbrev Form (α : Type) := α → Bytes → Prop

namespace Form

/-- The form that a writer gives. -/
def of {α : Type} (write : α → Except Failure Bytes) : Form α := fun a bs => write a = .ok bs

/-- Values one after the other. -/
def sequence {α : Type} (F : Form α) : Form (List α)
  | [], bs => bs = []
  | x :: xs, bs => ∃ first later, F x first ∧ F.sequence xs later ∧ bs = first ++ later

theorem sequence_append {α : Type} {F : Form α} {xs ys : List α} {bs : Bytes} :
    F.sequence (xs ++ ys) bs ↔
      ∃ front back, F.sequence xs front ∧ F.sequence ys back ∧ bs = front ++ back := by
  induction xs generalizing bs with
  | nil => simp [sequence]
  | cons x xs ih =>
    constructor
    · rintro ⟨first, later, hx, hl, rfl⟩
      obtain ⟨front, back, hf, hb, rfl⟩ := ih.1 hl
      exact ⟨first ++ front, back, ⟨first, front, hx, hf, rfl⟩, hb, by simp⟩
    · rintro ⟨_, back, ⟨first, front, hx, hf, rfl⟩, hb, rfl⟩
      exact ⟨first, front ++ back, hx, ih.2 ⟨front, back, hf, hb, rfl⟩, by simp⟩

theorem sequence_and {α : Type} {P : α → Prop} {F : Form α} {xs : List α} {bs : Bytes} :
    sequence (fun a bs => P a ∧ F a bs) xs bs ↔ (∀ x ∈ xs, P x) ∧ F.sequence xs bs := by
  induction xs generalizing bs with
  | nil => simp [sequence]
  | cons x xs ih =>
    rw [List.forall_mem_cons]
    constructor
    · rintro ⟨first, later, ⟨hP, hF⟩, hs, rfl⟩
      obtain ⟨hPs, hs⟩ := ih.1 hs
      exact ⟨⟨hP, hPs⟩, first, later, hF, hs, rfl⟩
    · rintro ⟨⟨hP, hPs⟩, first, later, hF, hs, rfl⟩
      exact ⟨first, later, ⟨hP, hF⟩, ih.2 ⟨hPs, hs⟩, rfl⟩

/-- Each of the values stands for some of the bytes. -/
theorem exists_of_sequence {α : Type} {F : Form α} {xs : List α} {bs : Bytes}
    (h : F.sequence xs bs) {x : α} (hx : x ∈ xs) : ∃ b, F x b ∧ b.length ≤ bs.length := by
  induction xs generalizing bs with
  | nil => cases hx
  | cons y xs ih =>
    obtain ⟨first, later, hF, hs, rfl⟩ := h
    rw [List.length_append]
    rcases List.mem_cons.1 hx with rfl | hx
    · exact ⟨first, hF, Nat.le_add_right _ _⟩
    · obtain ⟨b, hb, hle⟩ := ih hs hx
      exact ⟨b, hb, Nat.le_trans hle (Nat.le_add_left _ _)⟩

/-- The bytes of a sequence are those of its parts, if these are as long as they should be. -/
theorem length_of_sequence {α : Type} {F : Form α} {size : α → Nat}
    (hF : ∀ a bs, F a bs → bs.length = size a) {xs : List α} {bs : Bytes} (h : F.sequence xs bs) :
    bs.length = xs.foldr (fun x n => size x + n) 0 := by
  induction xs generalizing bs with
  | nil =>
    obtain rfl : bs = [] := h
    rfl
  | cons x xs ih =>
    obtain ⟨first, later, hfirst, hlater, rfl⟩ := h
    rw [List.length_append, hF x first hfirst, ih hlater, List.foldr_cons]

end Form

/-- The step succeeds exactly before bytes of the form, and passes them. -/
def Reads {α : Type} (step : Read α) (F : Form α) : Prop :=
  ∀ c a d, step c = .ok a d ↔ ∃ bs, F a bs ∧ c.Passes bs d

namespace Reads
variable {α β : Type} {step : Read α} {F F' : Form α}

theorem congr (h : Reads step F) (hF : ∀ a bs, F a bs ↔ F' a bs) : Reads step F' := by
  intro c a d
  rw [h c a d]
  simp only [hF]

/-- What a reader makes of a byte string that may go on behind the value. -/
theorem run_eq_ok (h : Reads step F) {bs : Bytes} {a : α} :
    step.run bs = .ok a ↔ ∃ front back, F a front ∧ bs = front ++ back := by
  rw [Read.run_eq_ok]
  constructor
  · rintro ⟨d, hd⟩
    obtain ⟨front, hF, hp⟩ := (h _ _ _).1 hd
    exact ⟨front, d.rest, hF, (Cursor.rest_ofList bs).symm.trans hp.rest⟩
  · rintro ⟨front, back, hF, hbs⟩
    obtain ⟨d, hd, -⟩ := Cursor.exists_passes ((Cursor.rest_ofList bs).trans hbs)
    exact ⟨d, (h _ _ _).2 ⟨front, hF, hd⟩⟩

/-- What a reader makes of a byte string that may not go on behind the value. -/
theorem run_to_end (h : Reads step F) (trailing : Nat → Defect) {bs : Bytes} {a : α} :
    (step.toEnd trailing).run bs = .ok a ↔ F a bs := by
  rw [Read.run_eq_ok]
  constructor
  · rintro ⟨e, he⟩
    obtain ⟨b, d, hb, he⟩ := Outcome.step_bind_eq_ok.1 he
    obtain ⟨front, hF, hp⟩ := (h _ _ _).1 hb
    change (if d.remaining ≠ 0 then Read.fail (trailing d.remaining) else Pure.pure b : Read α)
      d = _ at he
    split at he
    · cases he
    · next hend =>
      cases he
      have hrest : e.rest = [] := by
        rw [← List.length_eq_zero_iff, Cursor.length_rest]
        exact Classical.not_not.1 hend
      rwa [← Cursor.rest_ofList bs, hp.rest, hrest, List.append_nil]
  · intro hF
    obtain ⟨d, hd, hrest⟩ :=
      Cursor.exists_passes ((Cursor.rest_ofList bs).trans (List.append_nil bs).symm)
    refine ⟨d, Outcome.step_bind_eq_ok.2 ⟨a, d, (h _ _ _).2 ⟨bs, hF, hd⟩, ?_⟩⟩
    show (if d.remaining ≠ 0 then Read.fail (trailing d.remaining) else Pure.pure a : Read α) d = _
    rw [if_neg (by rw [← Cursor.length_rest, hrest]; simp)]
    rfl

theorem pure (a : α) : Reads (Pure.pure a) fun b bs => b = a ∧ bs = [] := by
  intro c b d
  show EStateM.Result.ok a c = .ok b d ↔ _
  constructor
  · rintro ⟨⟩
    exact ⟨[], ⟨rfl, rfl⟩, Cursor.passes_nil.2 rfl⟩
  · rintro ⟨_, ⟨rfl, rfl⟩, h⟩
    rw [Cursor.passes_nil.1 h]

theorem throw (f : Failure) : Reads (MonadExcept.throw f : Read α) fun _ _ => False := by
  intro c b d
  show EStateM.Result.error f c = .ok b d ↔ _
  simp

theorem fail (f : Defect) : Reads (Read.fail f : Read α) fun _ _ => False := throw _

/-- A failure whose defect tells where the cursor is. -/
theorem failAt (f : Cursor → Defect) :
    Reads ((get : Read Cursor) >>= fun c => (Read.fail (f c) : Read α)) fun _ _ => False := by
  intro c b d
  show EStateM.Result.error _ c = .ok b d ↔ _
  simp

theorem ite {P : Prop} [Decidable P] {step' : Read α} (h : P → Reads step F)
    (h' : ¬ P → Reads step' F) : Reads (if P then step else step') F := by
  split
  · next hP => exact h hP
  · next hP => exact h' hP

theorem bind {f : α → Read β} {G : α → Form β} (h : Reads step F) (hf : ∀ a, Reads (f a) (G a)) :
    Reads (step >>= f) fun b bs => ∃ a front, F a front ∧ ∃ back, G a b back ∧ bs = front ++ back := by
  intro c b d
  rw [Outcome.step_bind_eq_ok]
  constructor
  · rintro ⟨a, m, ha, hb⟩
    obtain ⟨front, hF, hfront⟩ := (h c a m).1 ha
    obtain ⟨back, hG, hback⟩ := (hf a m b d).1 hb
    exact ⟨_, ⟨a, front, hF, back, hG, rfl⟩, hfront.append hback⟩
  · rintro ⟨_, ⟨a, front, hF, back, hG, rfl⟩, hp⟩
    obtain ⟨m, hfront, hback⟩ := Cursor.passes_append.1 hp
    exact ⟨a, m, (h c a m).2 ⟨front, hF, hfront⟩, (hf a m b d).2 ⟨back, hG, hback⟩⟩

theorem map (f : α → β) (h : Reads step F) :
    Reads (f <$> step) fun b bs => ∃ a, F a bs ∧ b = f a := by
  refine (h.bind fun a => Reads.pure (f a)).congr fun b bs => ?_
  constructor
  · rintro ⟨a, front, hF, _, ⟨rfl, rfl⟩, rfl⟩
    exact ⟨a, by simpa using hF, rfl⟩
  · rintro ⟨a, hF, rfl⟩
    exact ⟨a, bs, hF, [], ⟨rfl, rfl⟩, by simp⟩

/-! ### Numbers and blocks -/

theorem block (n : Nat) : Reads (Read.block n) fun a bs => a = bs ∧ bs.length = n := by
  intro c a d
  rw [Read.block_eq_ok]
  constructor
  · rintro ⟨hl, hr, hd, -⟩
    exact ⟨a, ⟨rfl, hl⟩, hd, hr⟩
  · rintro ⟨_, ⟨rfl, hl⟩, h⟩
    exact ⟨hl, h.rest, h.data, by rw [h.pos, hl]⟩

theorem number (width : Nat) : Reads (Read.number width) fun n bs =>
    n < Nat.pow 256 width ∧ bs = BigEndian.digits width n := by
  refine ((block width).map BigEndian.value).congr fun n bs => ?_
  constructor
  · rintro ⟨_, ⟨rfl, rfl⟩, rfl⟩
    exact ⟨BigEndian.value_lt _, (BigEndian.digits_value _).symm⟩
  · rintro ⟨hn, rfl⟩
    refine ⟨_, ⟨rfl, BigEndian.length_digits _ _⟩, ?_⟩
    rw [BigEndian.value_digits, Nat.mod_eq_of_lt hn]

theorem u8 : Reads Read.u8 fun b bs => bs = [b] := by
  refine ((number 1).map UInt8.ofNat).congr fun b bs => ?_
  constructor
  · rintro ⟨n, ⟨-, rfl⟩, rfl⟩
    rfl
  · rintro rfl
    exact ⟨b.toNat, ⟨b.toNat_lt, by simp [BigEndian.digits]⟩, by simp⟩

theorem u16 : Reads Read.u16 fun w bs => bs = Written.word16 w := by
  refine ((number 2).map UInt16.ofNat).congr fun w bs => ?_
  constructor
  · rintro ⟨n, ⟨hn, rfl⟩, rfl⟩
    rw [Written.word16, UInt16.toNat_ofNat', Nat.mod_eq_of_lt hn]
  · rintro rfl
    exact ⟨w.toNat, ⟨w.toNat_lt, rfl⟩, by simp⟩

theorem u32 : Reads Read.u32 fun w bs => bs = Written.word32 w := by
  refine ((number 4).map UInt32.ofNat).congr fun w bs => ?_
  constructor
  · rintro ⟨n, ⟨hn, rfl⟩, rfl⟩
    rw [Written.word32, UInt32.toNat_ofNat', Nat.mod_eq_of_lt hn]
  · rintro rfl
    exact ⟨w.toNat, ⟨w.toNat_lt, rfl⟩, by simp⟩

theorem u64 : Reads Read.u64 fun w bs => bs = Written.word64 w := by
  refine ((number 8).map UInt64.ofNat).congr fun w bs => ?_
  constructor
  · rintro ⟨n, ⟨hn, rfl⟩, rfl⟩
    rw [Written.word64, UInt64.toNat_ofNat', Nat.mod_eq_of_lt hn]
  · rintro rfl
    exact ⟨w.toNat, ⟨w.toNat_lt, rfl⟩, by simp⟩

/-! ### Counted blocks and lists -/

theorem shortBlock : Reads Read.shortBlock fun a bs =>
    a.length ≤ 65535 ∧ bs = BigEndian.digits 2 a.length ++ a := by
  refine (u16.bind fun w => block w.toNat).congr fun a bs => ?_
  constructor
  · rintro ⟨w, _, rfl, _, ⟨rfl, hl⟩, rfl⟩
    have := w.toNat_lt
    exact ⟨by omega, by rw [hl]; rfl⟩
  · rintro ⟨hl, rfl⟩
    refine ⟨UInt16.ofNat a.length, _, rfl, a, ⟨rfl, ?_⟩, ?_⟩
    · simp; omega
    · rw [Written.word16, UInt16.toNat_ofNat', Nat.mod_eq_of_lt (by omega)]

theorem longBlock : Reads Read.longBlock fun a bs =>
    a.length < UInt32.size ∧ bs = BigEndian.digits 4 a.length ++ a := by
  refine (u32.bind fun w => block w.toNat).congr fun a bs => ?_
  constructor
  · rintro ⟨w, _, rfl, _, ⟨rfl, hl⟩, rfl⟩
    exact ⟨hl ▸ w.toNat_lt, by rw [hl]; rfl⟩
  · rintro ⟨hl, rfl⟩
    refine ⟨UInt32.ofNat a.length, _, rfl, a, ⟨rfl, ?_⟩, ?_⟩
    · rw [UInt32.toNat_ofNat', Nat.mod_eq_of_lt hl]
    · rw [Written.word32, UInt32.toNat_ofNat', Nat.mod_eq_of_lt hl]

theorem timesInto (h : Reads step F) (n : Nat) (before : Array α) :
    Reads (Read.timesInto step n before) fun out bs =>
      ∃ xs, out.toList = before.toList ++ xs ∧ xs.length = n ∧ F.sequence xs bs := by
  induction n generalizing before with
  | zero =>
    refine (Reads.pure before).congr fun out bs => ?_
    constructor
    · rintro ⟨rfl, rfl⟩
      exact ⟨[], by simp, rfl, rfl⟩
    · rintro ⟨xs, ho, hl, hs⟩
      obtain rfl := List.length_eq_zero_iff.1 hl
      exact ⟨Array.ext' (by simpa using ho), hs⟩
  | succ n ih =>
    refine (h.bind fun a => ih (before.push a)).congr fun out bs => ?_
    constructor
    · rintro ⟨a, front, hF, back, ⟨xs, ho, rfl, hs⟩, rfl⟩
      exact ⟨a :: xs, by simpa using ho, rfl, front, back, hF, hs, rfl⟩
    · rintro ⟨xs, ho, hl, hs⟩
      match xs, hl, hs with
      | a :: xs, hl, ⟨front, back, hF, hs, hbs⟩ =>
        exact ⟨a, front, hF, back, ⟨xs, by simpa using ho, by simpa using hl, hs⟩, hbs⟩

theorem times (h : Reads step F) (n : Nat) :
    Reads (Read.times n step) fun xs bs => xs.length = n ∧ F.sequence xs bs := by
  refine ((h.timesInto n #[]).bind fun out => Reads.pure out.toList).congr fun xs bs => ?_
  constructor
  · rintro ⟨out, front, ⟨ys, ho, hl, hs⟩, _, ⟨rfl, rfl⟩, rfl⟩
    obtain rfl : out.toList = ys := by simpa using ho
    exact ⟨hl, by simpa using hs⟩
  · rintro ⟨hl, hs⟩
    exact ⟨xs.toArray, bs, ⟨xs, rfl, hl, hs⟩, [], by simp, by simp⟩

/-- A table is its length in two bytes and its elements one after the other. -/
theorem table (h : Reads step F) :
    Reads (Read.table step) fun xs bs =>
      xs.length ≤ 65535 ∧ ∃ body, F.sequence xs body ∧ bs = BigEndian.digits 2 xs.length ++ body := by
  refine (u16.bind fun w => h.times w.toNat).congr fun xs bs => ?_
  constructor
  · rintro ⟨w, _, rfl, body, ⟨hl, hs⟩, rfl⟩
    have := w.toNat_lt
    exact ⟨by omega, body, hs, by rw [hl]; rfl⟩
  · rintro ⟨hl, body, hs, rfl⟩
    refine ⟨UInt16.ofNat xs.length, _, rfl, body, ⟨?_, hs⟩, ?_⟩
    · simp; omega
    · rw [Written.word16, UInt16.toNat_ofNat', Nat.mod_eq_of_lt (by omega)]

end Reads

end ScriptProxy
