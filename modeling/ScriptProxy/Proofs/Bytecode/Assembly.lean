import ScriptProxy.Bytecode.Instruction
import ScriptProxy.Proofs.Bytes.Form

/-!
# Assembling and decoding

An instruction without its place is an opcode and its operands. `decode_assemble`: the bytes of such
instructions, one after the other, are decoded into them, each at the place where its bytes begin.
Switches are left out, whose bytes depend on where they stand.
-/

namespace ScriptProxy.Bytecode
open Outcome

/-- An instruction, wherever it stands. -/
structure Unplaced where
  opcode : Opcode
  operands : Bytes
  deriving DecidableEq, Repr

namespace Unplaced

def bytes (u : Unplaced) : Bytes := u.opcode.code :: u.operands

/-- The operands have the length that the opcode asks for. -/
def Sized (u : Unplaced) : Prop :=
  match u.opcode.operands with
  | .fixed n => u.operands.length = n
  | .wideForm => ∃ widened rest, u.operands = widened :: rest ∧
    (widened = Opcode.iinc.code ∧ rest.length = 4 ∨
      widened ≠ Opcode.iinc.code ∧ widened ∈ Instruction.widenedCodes ∧ rest.length = 2)
  | .tableSwitch | .lookupSwitch => False

set_option maxRecDepth 4000 in
theorem Sized.length_le {u : Unplaced} (h : u.Sized) : u.bytes.length ≤ 6 := by
  have rows : ∀ n : Fin 0xCA, ∀ k ∈ Opcode.operandLength? ⟨n⟩, k ≤ 4 := by decide
  unfold Sized at h
  rw [bytes, List.length_cons]
  split at h
  · next n hn =>
    have hle := rows u.opcode.index n (by rw [Opcode.operandLength?, hn]; rfl)
    omega
  · obtain ⟨widened, rest, hoperands, hrest⟩ := h
    rw [hoperands, List.length_cons]
    omega
  · exact h.elim
  · exact h.elim

end Unplaced

/-- The bytes of instructions, one after the other. -/
def assemble (us : List Unplaced) : Bytes := us.flatMap Unplaced.bytes

/-- Each instruction has a byte at least, and no more than six. -/
theorem length_assemble {us : List Unplaced} (hus : ∀ u ∈ us, u.Sized) :
    us.length ≤ (assemble us).length ∧ (assemble us).length ≤ 6 * us.length := by
  induction us with
  | nil => exact ⟨Nat.le_refl 0, Nat.le_refl 0⟩
  | cons u us ih =>
    have hu := (hus u (by simp)).length_le
    have hpos : 1 ≤ u.bytes.length := Nat.succ_pos _
    obtain ⟨hmin, hmax⟩ := ih fun v hv => hus v (by simp [hv])
    have hlength : (assemble (u :: us)).length = u.bytes.length + (assemble us).length :=
      List.length_append
    rw [hlength, List.length_cons]
    omega

/-- Instructions one after the other, from an offset on. -/
def placed : Nat → List Unplaced → List Instruction
  | _, [] => []
  | offset, u :: us => ⟨offset, u.opcode, u.operands⟩ :: placed (offset + u.bytes.length) us

theorem map_placed (offset : Nat) (us : List Unplaced) :
    (placed offset us).map (fun i => ⟨i.opcode, i.operands⟩) = us := by
  induction us generalizing offset with
  | nil => rfl
  | cons u us ih => rw [placed, List.map_cons, ih]

namespace Instruction
variable {u : Unplaced} {c d : Cursor}

theorem readOperands_of_sized (hu : u.Sized) (h : c.Passes u.operands d) (offset : Nat) :
    readOperands offset u.opcode.operands c = .ok u.operands d := by
  unfold Unplaced.Sized at hu
  split at hu
  · next n ho =>
    rw [ho]
    exact (Reads.block n _ _ _).2 ⟨_, ⟨rfl, hu⟩, h⟩
  · next ho =>
    obtain ⟨widened, rest, hop, hw⟩ := hu
    rw [hop] at h ⊢
    obtain ⟨e, hfront, hback⟩ := Cursor.passes_cons.1 h
    rw [ho]
    refine step_bind_eq_ok.2 ⟨widened, e, (Reads.u8 _ _ _).2 ⟨_, rfl, hfront⟩, ?_⟩
    rcases hw with ⟨hw, hl⟩ | ⟨hw, hm, hl⟩
    · rw [if_pos hw]
      exact step_bind_eq_ok.2 ⟨rest, d, (Reads.block 4 _ _ _).2 ⟨_, ⟨rfl, hl⟩, hback⟩, rfl⟩
    · rw [if_neg hw, if_pos hm]
      exact step_bind_eq_ok.2 ⟨rest, d, (Reads.block 2 _ _ _).2 ⟨_, ⟨rfl, hl⟩, hback⟩, rfl⟩
  · exact hu.elim
  · exact hu.elim

theorem read_of_sized (hu : u.Sized) (h : c.Passes u.bytes d) :
    read c = .ok ⟨c.pos, u.opcode, u.operands⟩ d := by
  obtain ⟨e, hfront, hback⟩ := Cursor.passes_cons.1 h
  refine step_bind_eq_ok.2 ⟨c, c, rfl, ?_⟩
  refine step_bind_eq_ok.2 ⟨u.opcode.code, e, (Reads.u8 _ _ _).2 ⟨_, rfl, hfront⟩, ?_⟩
  rw [Opcode.ofCode?_code]
  exact step_bind_eq_ok.2 ⟨u.operands, d, readOperands_of_sized hu hback c.pos, rfl⟩

theorem readInto_assemble {us : List Unplaced} (hus : ∀ u ∈ us, u.Sized) (fuel : Nat)
    (before : Array Instruction) (hfuel : (assemble us).length ≤ fuel) (hc : c.rest = assemble us) :
    ∃ d, readInto fuel before c = .ok (before ++ (placed c.pos us).toArray) d := by
  induction us generalizing fuel before c with
  | nil =>
    refine ⟨c, ?_⟩
    rw [placed, Array.append_empty]
    cases fuel with
    | zero => rfl
    | succ fuel =>
      have hmore : c.hasMore = false := by
        rw [← Bool.not_eq_true, Cursor.hasMore_iff, hc, Classical.not_not]
        rfl
      refine step_bind_eq_ok.2 ⟨c, c, rfl, ?_⟩
      rw [hmore]
      rfl
  | cons u us ih =>
    obtain ⟨d, hd, hr⟩ := Cursor.exists_passes (show c.rest = u.bytes ++ assemble us from hc)
    have hlen : (assemble (u :: us)).length = u.bytes.length + (assemble us).length :=
      List.length_append
    have hpos : 0 < u.bytes.length := Nat.succ_pos _
    obtain ⟨fuel, rfl⟩ : ∃ n, fuel = n + 1 := ⟨fuel - 1, by omega⟩
    have hmore : c.hasMore = true := by
      rw [Cursor.hasMore_iff, hc]
      exact List.ne_nil_of_length_pos (by omega)
    obtain ⟨e, he⟩ := ih (fun u hu => hus u (List.mem_cons_of_mem _ hu)) fuel
      (before.push ⟨c.pos, u.opcode, u.operands⟩) (by omega) hr
    refine ⟨e, step_bind_eq_ok.2 ⟨c, c, rfl, ?_⟩⟩
    rw [hmore]
    refine step_bind_eq_ok.2 ⟨_, d, read_of_sized (hus u (List.mem_cons_self ..)) hd, ?_⟩
    rw [he, hd.pos, placed]
    simp

end Instruction

theorem decode_assemble {us : List Unplaced} (hus : ∀ u ∈ us, u.Sized) :
    decode (assemble us) = .ok (placed 0 us) := by
  obtain ⟨d, hd⟩ := Instruction.readInto_assemble hus (assemble us).length #[] (Nat.le_refl _)
    (Cursor.rest_ofList (assemble us))
  refine map_eq_ok.2 ⟨_, Read.run_eq_ok.2 ⟨d, hd⟩, ?_⟩
  simp [Cursor.ofList]

end ScriptProxy.Bytecode
