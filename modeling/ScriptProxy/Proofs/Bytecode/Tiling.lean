import ScriptProxy.Bytecode.Instruction
import ScriptProxy.Proofs.Bytes.Form

/-!
# The place of decoded instructions

`decode_tiles`: the instructions of a code array lie one behind the other from its start to its end, and
each is found in the bytes that it takes up. Only the padding of a switch is in none of them.
-/

namespace ScriptProxy.Bytecode
open Outcome

/-- The opcodes of `tableswitch` and `lookupswitch`. -/
def switchCodes : List UInt8 := [0xAA, 0xAB]

theorem Opcode.code_of_ofCode? {b : UInt8} {op : Opcode} (h : ofCode? b = some op) : op.code = b := by
  unfold ofCode? at h
  split at h
  · cases h
    exact UInt8.ofNat_toNat
  · cases h

set_option maxRecDepth 4000 in
theorem Opcode.operands_switch_iff (op : Opcode) :
    op.operands = .tableSwitch ∨ op.operands = .lookupSwitch ↔ op.code ∈ switchCodes := by
  have rows : ∀ n : Fin 0xCA, Opcode.operands ⟨n⟩ = .tableSwitch ∨ Opcode.operands ⟨n⟩ = .lookupSwitch ↔
      Opcode.code ⟨n⟩ ∈ switchCodes := by decide
  exact rows op.index

/-- The instructions lie one behind the other, from one offset up to another. -/
def Tiles : (offset : Nat) → List Instruction → (stop : Nat) → Prop
  | offset, [], stop => offset = stop
  | offset, i :: is, stop => i.offset = offset ∧ Tiles (offset + i.encodedLength) is stop

namespace Instruction
variable {i : Instruction} {c d : Cursor}

/-- Only switches have padding. -/
theorem padding_eq (i : Instruction) :
    i.padding = if i.opcode.code ∈ switchCodes then switchPadding i.offset else 0 := by
  have hswitch := i.opcode.operands_switch_iff
  unfold padding
  split
  · next h => rw [if_pos (hswitch.1 (.inl h))]
  · next h => rw [if_pos (hswitch.1 (.inr h))]
  · next h h' => rw [if_neg fun hcode => (hswitch.2 hcode).elim h h']

/-- The bytes that the instruction takes up are its opcode, the padding and its operands. -/
structure Covers (i : Instruction) (code : Bytes) : Prop where
  bytes : ∃ pad, (code.drop i.offset).take i.encodedLength = i.opcode.code :: (pad ++ i.operands) ∧
    pad.length = i.padding
  /-- The operands of a switch begin at a multiple of four, and as soon as they can. -/
  aligned : i.opcode.code ∈ switchCodes → i.padding ≤ 3 ∧ (i.offset + 1 + i.padding) % 4 = 0
  unpadded : i.opcode.code ∉ switchCodes → i.padding = 0

/-! ### Reading one instruction -/

/-- A step that goes on behind a block. -/
theorem passes_of_block {α : Type} {n : Nat} {f : Bytes → Read α} {a : α}
    (h : (Read.block n >>= f) c = .ok a d) :
    ∃ bs e, bs.length = n ∧ c.Passes bs e ∧ f bs e = .ok a d := by
  obtain ⟨bs, e, hblock, h⟩ := step_bind_eq_ok.1 h
  obtain ⟨_, ⟨rfl, hl⟩, hpass⟩ := (Reads.block n _ _ _).1 hblock
  exact ⟨bs, e, hl, hpass, h⟩

/-- A step that goes on behind a signed number. -/
theorem passes_of_signed {α : Type} {f : Int × Bytes → Read α} {a : α}
    (h : (readSigned >>= f) c = .ok a d) : ∃ v bs e, c.Passes bs e ∧ f (v, bs) e = .ok a d := by
  obtain ⟨_, e, hsigned, h⟩ := step_bind_eq_ok.1 h
  obtain ⟨bs, _, -, hpass, hsigned⟩ := passes_of_block hsigned
  cases hsigned
  exact ⟨_, bs, e, hpass, h⟩

theorem passes_of_readOperands {offset : Nat} {op : Opcode} {bs : Bytes}
    (h : readOperands offset op.operands c = .ok bs d) :
    ∃ pad, c.Passes (pad ++ bs) d ∧ pad.length = padding ⟨offset, op, bs⟩ := by
  unfold padding
  dsimp only
  generalize op.operands = k at h ⊢
  cases k with
  | fixed n =>
    obtain ⟨_, ⟨rfl, -⟩, hpass⟩ := (Reads.block n _ _ _).1 h
    exact ⟨[], hpass, rfl⟩
  | wideForm =>
    obtain ⟨widened, e, hbyte, h⟩ := step_bind_eq_ok.1 h
    obtain ⟨_, rfl, hfront⟩ := (Reads.u8 _ _ _).1 hbyte
    refine ⟨[], ?_, rfl⟩
    split at h
    · obtain ⟨rest, e', -, hback, h⟩ := passes_of_block h
      cases h
      exact hfront.append hback
    split at h
    · obtain ⟨rest, e', -, hback, h⟩ := passes_of_block h
      cases h
      exact hfront.append hback
    · cases h
  | tableSwitch =>
    obtain ⟨pad, e, hl, hpad, h⟩ := passes_of_block h
    obtain ⟨fallback, e₁, -, hfallback, h⟩ := passes_of_block h
    obtain ⟨low, lowBytes, e₂, hlow, h⟩ := passes_of_signed h
    obtain ⟨high, highBytes, e₃, hhigh, h⟩ := passes_of_signed h
    dsimp only at h
    split at h
    · cases h
    · obtain ⟨jumps, e₄, -, hjumps, h⟩ := passes_of_block h
      cases h
      exact ⟨pad, hpad.append (hfallback.append (hlow.append (hhigh.append hjumps))), hl⟩
  | lookupSwitch =>
    obtain ⟨pad, e, hl, hpad, h⟩ := passes_of_block h
    obtain ⟨fallback, e₁, -, hfallback, h⟩ := passes_of_block h
    obtain ⟨count, countBytes, e₂, hcount, h⟩ := passes_of_signed h
    dsimp only at h
    split at h
    · cases h
    · obtain ⟨pairs, e₃, -, hpairs, h⟩ := passes_of_block h
      cases h
      exact ⟨pad, hpad.append (hfallback.append (hcount.append hpairs)), hl⟩

theorem passes_of_read (h : read c = .ok i d) :
    i.offset = c.pos ∧
      ∃ pad, c.Passes (i.opcode.code :: (pad ++ i.operands)) d ∧ pad.length = i.padding := by
  rw [read, bind_of_ok (get_apply c)] at h
  obtain ⟨byte, e, hbyte, h⟩ := step_bind_eq_ok.1 h
  obtain ⟨_, rfl, hfront⟩ := (Reads.u8 _ _ _).1 hbyte
  cases hop : Opcode.ofCode? byte with
  | none =>
    rw [hop] at h
    cases h
  | some op =>
    rw [hop] at h
    obtain ⟨bs, _, hoperands, h⟩ := step_bind_eq_ok.1 h
    cases h
    obtain ⟨pad, hback, hl⟩ := passes_of_readOperands hoperands
    refine ⟨rfl, pad, ?_, hl⟩
    dsimp only
    rw [Opcode.code_of_ofCode? hop]
    exact hfront.append hback

/-- The extent of an instruction that was read is what the cursor has passed. -/
theorem covers_of_read (h : read c = .ok i d) :
    d.data = c.data ∧ d.pos = c.pos + i.encodedLength ∧ i.Covers c.data.toList := by
  obtain ⟨hoffset, pad, hpass, hl⟩ := passes_of_read h
  have hlength : (i.opcode.code :: (pad ++ i.operands)).length = i.encodedLength := by
    simp [encodedLength, hl]
    omega
  refine ⟨hpass.data, by rw [hpass.pos, hlength], ⟨⟨pad, ?_, hl⟩, fun hcode => ?_, fun hcode => ?_⟩⟩
  · rw [hoffset, ← hlength]
    show c.rest.take _ = _
    rw [hpass.rest, List.take_left]
  · rw [padding_eq, if_pos hcode, switchPadding]
    omega
  · rw [padding_eq, if_neg hcode]

/-! ### Reading all instructions -/

/-- What is read into an array lies behind what is in it already, up to the end of the code. -/
theorem tiles_of_readInto {fuel : Nat} {before all : Array Instruction}
    (h : readInto fuel before c = .ok all d) (hfuel : c.remaining ≤ fuel) :
    ∃ is, all.toList = before.toList ++ is ∧ Tiles c.pos is c.data.size ∧
      ∀ i ∈ is, i.Covers c.data.toList := by
  induction fuel generalizing c before with
  | zero =>
    have hend : c.pos = c.data.size := by
      have := c.pos_le
      unfold Cursor.remaining at hfuel
      omega
    cases h
    exact ⟨[], by simp, hend, by simp⟩
  | succ fuel ih =>
    rw [readInto, bind_of_ok (get_apply c)] at h
    split at h
    · next hmore =>
      obtain ⟨i, e, hread, h⟩ := step_bind_eq_ok.1 h
      obtain ⟨hdata, hpos, hcovers⟩ := covers_of_read hread
      have hleft : e.remaining ≤ fuel := by
        unfold Cursor.remaining encodedLength at *
        rw [hdata, hpos]
        omega
      obtain ⟨is, hall, htiles, hall'⟩ := ih h hleft
      rw [hdata] at htiles hall'
      refine ⟨i :: is, by simpa using hall, ⟨(passes_of_read hread).1, hpos ▸ htiles⟩, ?_⟩
      exact List.forall_mem_cons.2 ⟨hcovers, hall'⟩
    · next hmore =>
      have hend : c.pos = c.data.size := by
        have := c.pos_le
        simp only [Cursor.hasMore, decide_eq_true_eq] at hmore
        omega
      cases h
      exact ⟨[], by simp, hend, by simp⟩

end Instruction

/-- The instructions of a code array take it up from its start to its end, one behind the other, and
each is made of the bytes that it takes up, in their order: its opcode, up to three bytes of padding
behind that of a switch, and its operands. -/
theorem decode_tiles {code : Bytes} {is : List Instruction} (h : decode code = .ok is) :
    (is = [] ↔ code = []) ∧ Tiles 0 is code.length ∧ ∀ i ∈ is, i.Covers code := by
  obtain ⟨all, hall, rfl⟩ := map_eq_ok.1 h
  obtain ⟨d, hd⟩ := Read.run_eq_ok.1 hall
  obtain ⟨is, his, htiles, hcovers⟩ := Instruction.tiles_of_readInto hd
    (by simp [Cursor.remaining, Cursor.ofList])
  have his : all.toList = is := by simpa using his
  have htiles : Tiles 0 is code.length := by simpa [Cursor.ofList] using htiles
  rw [his]
  refine ⟨?_, htiles, by simpa [Cursor.ofList] using hcovers⟩
  cases is with
  | nil => simpa [Tiles, eq_comm] using htiles
  | cons i is =>
    obtain ⟨pad, hbytes, -⟩ := (hcovers i (by simp)).bytes
    simp only [reduceCtorEq, false_iff]
    rintro rfl
    simp [Cursor.ofList] at hbytes

/-- A switch with two bytes of padding, between two other instructions. -/
def paddedSwitch : Bytes := [0x00, 0xAB, 0, 0, 0, 0, 0, 9, 0, 0, 0, 0, 0xB1]

theorem decode_tiles_switch :
    ∃ is, decode paddedSwitch = .ok is ∧ is.length = 3 ∧
      (is = [] ↔ paddedSwitch = []) ∧ Tiles 0 is 13 ∧ ∀ i ∈ is, i.Covers paddedSwitch := by
  have h : decode paddedSwitch =
      .ok [⟨0, ⟨0x00⟩, []⟩, ⟨1, ⟨0xAB⟩, [0, 0, 0, 9, 0, 0, 0, 0]⟩, ⟨12, .voidReturn, []⟩] :=
    eq_ok_of_toOption (by decide +kernel)
  exact ⟨_, h, rfl, decode_tiles h⟩

end ScriptProxy.Bytecode
