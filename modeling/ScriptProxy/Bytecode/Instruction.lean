import ScriptProxy.Bytecode.Opcode
import ScriptProxy.Bytes.Cursor

/-!
# Instructions

A code array is a sequence of instructions without gaps. `Instruction.read` reads one, and
`decode` reads them all.
-/

namespace ScriptProxy.Bytecode

structure Instruction where
  /-- The position of the instruction in the code array. -/
  offset : Nat
  opcode : Opcode
  /-- The bytes that follow, without the padding of a switch. For a wide instruction the first of
  them is the byte of the instruction that is widened. -/
  operands : Bytes
  deriving DecidableEq, Repr

/-- The number of bytes after the opcode of a switch that bring its operands to a multiple of
four. -/
def switchPadding (offset : Nat) : Nat := (4 - (offset + 1) % 4) % 4

namespace Instruction

/-- The first two operand bytes as an index. -/
def shortOperand? (i : Instruction) : Option UInt16 :=
  match i.operands with
  | a :: b :: _ => some (UInt16.ofNat (BigEndian.value [a, b]))
  | _ => none

/-- The opcodes whose first two operand bytes are an index into the constant pool: `ldc_w`,
`ldc2_w`, field access, calls, `new`, `anewarray`, `checkcast`, `instanceof`, `multianewarray`. -/
def pooledCodes : List UInt8 :=
  [0x13, 0x14, 0xB2, 0xB3, 0xB4, 0xB5, 0xB6, 0xB7, 0xB8, 0xB9, 0xBA, 0xBB, 0xBD, 0xC0, 0xC1, 0xC5]

/-- The index into the constant pool that the instruction holds. -/
def poolIndex? (i : Instruction) : Option UInt16 :=
  if i.opcode = .ldc then i.operands.head?.map UInt8.toUInt16
  else if i.opcode.code ∈ pooledCodes then i.shortOperand?
  else none

/-- The number of bytes between the opcode and the operands. -/
def padding (i : Instruction) : Nat :=
  match i.opcode.operands with
  | .tableSwitch | .lookupSwitch => switchPadding i.offset
  | _ => 0

/-- The number of bytes that the instruction takes up. -/
def encodedLength (i : Instruction) : Nat := 1 + i.padding + i.operands.length

/-- The opcodes that can be widened, other than `iinc`: loads, stores and `ret`. -/
def widenedCodes : List UInt8 :=
  [0x15, 0x16, 0x17, 0x18, 0x19, 0x36, 0x37, 0x38, 0x39, 0x3A, 0xA9]

/-- Reads a signed number and keeps its bytes. -/
def readSigned : Read (Int × Bytes) := do
  let bs ← Read.block 4
  return ((UInt32.ofNat (BigEndian.value bs)).toInt32.toInt, bs)

/-- Reads the operands of an instruction that stands at `offset`. -/
def readOperands (offset : Nat) : Operands → Read Bytes
  | .fixed n => Read.block n
  | .wideForm => do
    let widened ← Read.u8
    if widened = Opcode.iinc.code then return widened :: (← Read.block 4)
    else if widened ∈ widenedCodes then return widened :: (← Read.block 2)
    else Read.fail (.badWideOpcode widened offset)
  | .tableSwitch => do
    let _ ← Read.block (switchPadding offset)
    let fallback ← Read.block 4
    let (low, lowBytes) ← readSigned
    let (high, highBytes) ← readSigned
    if high < low then Read.fail (.switchBounds offset)
    else
      let jumps ← Read.block (4 * (high - low + 1).toNat)
      return fallback ++ (lowBytes ++ (highBytes ++ jumps))
  | .lookupSwitch => do
    let _ ← Read.block (switchPadding offset)
    let fallback ← Read.block 4
    let (count, countBytes) ← readSigned
    if count < 0 then Read.fail (.switchCount offset)
    else
      let pairs ← Read.block (8 * count.toNat)
      return fallback ++ (countBytes ++ pairs)

/-- Reads the instruction at the cursor, whose position is its offset. -/
def read : Read Instruction := do
  let offset := (← get).pos
  let byte ← Read.u8
  match Opcode.ofCode? byte with
  | some opcode => return ⟨offset, opcode, ← readOperands offset opcode.operands⟩
  | none => Read.fail (.undefinedOpcode byte offset)

/-- Reads instructions up to the end, and puts them behind those in `before`. Each takes up a byte
at least, so that no more than `fuel` are left if as many bytes are. -/
def readInto : (fuel : Nat) → (before : Array Instruction) → Read (Array Instruction)
  | 0, before => pure before
  | fuel + 1, before => do
    if (← get).hasMore then
      let i ← read
      readInto fuel (before.push i)
    else return before

end Instruction

/-- The instructions of a code array. -/
def decode (code : Bytes) : Except Failure (List Instruction) :=
  Array.toList <$> (Instruction.readInto code.length #[]).run code

end ScriptProxy.Bytecode
