import ScriptProxy.Bytes.Basic
import ScriptProxy.Failure

/-!
# Reading from the front of a byte string

A `Cursor` is a position in a byte string that does not change, and a `Read` is a step that moves
it. The cursor stays where a failing step left it, so that its position can be asked for afterwards.

All reads of bytes go through `Read.block`; `block_eq_ok` and `block_eq_error` state in terms of
`Cursor.rest`, the bytes still to be read, when it succeeds and what it does.
-/

namespace ScriptProxy

/-- A position in a byte string. -/
structure Cursor where
  data : Array UInt8
  pos : Nat
  pos_le : pos ≤ data.size

namespace Cursor

/-- The start of a byte string. -/
def ofList (bs : Bytes) : Cursor := ⟨bs.toArray, 0, Nat.zero_le _⟩

/-- The bytes still to be read. -/
def rest (c : Cursor) : Bytes := c.data.toList.drop c.pos

/-- The number of bytes still to be read. -/
def remaining (c : Cursor) : Nat := c.data.size - c.pos

def hasMore (c : Cursor) : Bool := c.pos < c.data.size

@[simp] theorem rest_ofList (bs : Bytes) : (ofList bs).rest = bs := by simp [ofList, rest]

@[simp] theorem length_rest (c : Cursor) : c.rest.length = c.remaining := by
  simp [rest, remaining]

theorem hasMore_iff (c : Cursor) : c.hasMore ↔ c.rest ≠ [] := by
  rw [← List.length_pos_iff, length_rest]
  simp only [hasMore, remaining, decide_eq_true_eq]
  omega

@[ext] theorem ext' {c d : Cursor} (hd : c.data = d.data) (hp : c.pos = d.pos) : c = d := by
  cases c; cases d; simp_all

end Cursor

/-- A step that reads at a cursor and moves it. -/
abbrev Read := EStateM Failure Cursor

namespace Read

/-- The next `n` bytes. The cursor does not move if there are fewer. -/
def block (n : Nat) : Read Bytes := fun c =>
  if h : c.pos + n ≤ c.data.size then
    .ok (c.data.extract c.pos (c.pos + n)).toList { c with pos := c.pos + n, pos_le := h }
  else .error .outOfBounds c

theorem block_of_le {n : Nat} {c : Cursor} (h : c.pos + n ≤ c.data.size) :
    block n c = .ok (c.rest.take n) { c with pos := c.pos + n, pos_le := h } := by
  simp [block, h, Cursor.rest]

theorem block_eq_ok {n : Nat} {c d : Cursor} {bs : Bytes} :
    block n c = .ok bs d ↔
      bs.length = n ∧ c.rest = bs ++ d.rest ∧ d.data = c.data ∧ d.pos = c.pos + n := by
  by_cases h : c.pos + n ≤ c.data.size
  · rw [block_of_le h]
    constructor
    · rintro ⟨⟩
      refine ⟨by simp [Cursor.remaining]; omega, ?_, rfl, rfl⟩
      simp [Cursor.rest, ← List.drop_drop]
    · rintro ⟨hl, hr, hd, hp⟩
      congr 1
      · rw [hr, ← hl, List.take_left]
      · exact Cursor.ext' hd.symm hp.symm
  · simp only [block, h, dite_false, reduceCtorEq, false_iff]
    rintro ⟨hl, hr, hd, hp⟩
    exact h (by rw [← hp, ← hd]; exact d.pos_le)

theorem block_eq_error {n : Nat} {c d : Cursor} {f : Failure} :
    block n c = .error f d ↔ c.remaining < n ∧ f = .outOfBounds ∧ d = c := by
  have := c.pos_le
  by_cases h : c.pos + n ≤ c.data.size
  · rw [block_of_le h]
    simp only [reduceCtorEq, Cursor.remaining, false_iff]
    omega
  · simp only [block, h, dite_false, EStateM.Result.error.injEq, Cursor.remaining]
    constructor
    · rintro ⟨rfl, rfl⟩; exact ⟨by omega, rfl, rfl⟩
    · rintro ⟨_, rfl, rfl⟩; exact ⟨rfl, rfl⟩

/-- The number made of the next `width` bytes. -/
def number (width : Nat) : Read Nat := BigEndian.value <$> block width

def u8 : Read UInt8 := UInt8.ofNat <$> number 1

def u16 : Read UInt16 := UInt16.ofNat <$> number 2

def u32 : Read UInt32 := UInt32.ofNat <$> number 4

def u64 : Read UInt64 := UInt64.ofNat <$> number 8

/-- As many bytes as the two bytes before them say. -/
def shortBlock : Read Bytes := do block (← u16).toNat

/-- As many bytes as the four bytes before them say. -/
def longBlock : Read Bytes := do block (← u32).toNat

/-- Moves on by `step`. Positions are words of 64 bits, and their sum with a step is computed before it
is looked at. -/
def advance (step : UInt64) : Read Unit := fun c =>
  if UInt64.size ≤ c.pos + step.toNat then .error .addOverflow c
  else if h : c.pos + step.toNat ≤ c.data.size then
    .ok () { c with pos := c.pos + step.toNat, pos_le := h }
  else .error .outOfBounds c

/-- The next `count` bytes, where the caller says how many. -/
def bytes (count : UInt64) : Read Bytes := fun c =>
  if UInt64.size ≤ c.pos + count.toNat then .error .addOverflow c else block count.toNat c

/-- Fails with a defect. -/
def fail {α : Type} (d : Defect) : Read α := throw (.malformed d)

/-- `n` times the same step, with the results put behind those in `before`. -/
@[specialize] def timesInto {α : Type} (step : Read α) : Nat → Array α → Read (Array α)
  | 0, before => pure before
  | n + 1, before => do
    let a ← step
    timesInto step n (before.push a)

/-- `n` times the same step. -/
@[inline] def times {α : Type} (n : Nat) (step : Read α) : Read (List α) := do
  return (← timesInto step n #[]).toList

/-- As many times the same step as the two bytes before it say. -/
@[inline] def table {α : Type} (step : Read α) : Read (List α) := do
  times (← u16).toNat step

/-- What a step reads at the start of a byte string. -/
def run {α : Type} (step : Read α) (bs : Bytes) : Except Failure α :=
  match step (Cursor.ofList bs) with
  | .ok a _ => .ok a
  | .error f _ => .error f

end Read

end ScriptProxy
