/-!
# Opcodes

The instruction set: a table of names and operands, in the order of the bytes that stand for the
instructions.
-/

namespace ScriptProxy.Bytecode

/-- What follows the byte of an instruction. -/
inductive Operands where
  | fixed (length : Nat)
  /-- The byte of another instruction, with operands of twice the width. -/
  | wideForm
  /-- Padding, bounds and a jump offset for each number within the bounds. -/
  | tableSwitch
  /-- Padding, a count and that many pairs of a number and a jump offset. -/
  | lookupSwitch
  deriving DecidableEq, Repr

/-- The names and the operands of all instructions. -/
def instructionTable : Array (String × Operands) :=
  #[("nop", .fixed 0), ("aconst_null", .fixed 0), ("iconst_m1", .fixed 0), ("iconst_0", .fixed 0),
    ("iconst_1", .fixed 0), ("iconst_2", .fixed 0), ("iconst_3", .fixed 0),
    ("iconst_4", .fixed 0), ("iconst_5", .fixed 0), ("lconst_0", .fixed 0),
    ("lconst_1", .fixed 0), ("fconst_0", .fixed 0), ("fconst_1", .fixed 0),
    ("fconst_2", .fixed 0), ("dconst_0", .fixed 0), ("dconst_1", .fixed 0), ("bipush", .fixed 1),
    ("sipush", .fixed 2), ("ldc", .fixed 1), ("ldc_w", .fixed 2), ("ldc2_w", .fixed 2),
    ("iload", .fixed 1), ("lload", .fixed 1), ("fload", .fixed 1), ("dload", .fixed 1),
    ("aload", .fixed 1), ("iload_0", .fixed 0), ("iload_1", .fixed 0), ("iload_2", .fixed 0),
    ("iload_3", .fixed 0), ("lload_0", .fixed 0), ("lload_1", .fixed 0), ("lload_2", .fixed 0),
    ("lload_3", .fixed 0), ("fload_0", .fixed 0), ("fload_1", .fixed 0), ("fload_2", .fixed 0),
    ("fload_3", .fixed 0), ("dload_0", .fixed 0), ("dload_1", .fixed 0), ("dload_2", .fixed 0),
    ("dload_3", .fixed 0), ("aload_0", .fixed 0), ("aload_1", .fixed 0), ("aload_2", .fixed 0),
    ("aload_3", .fixed 0), ("iaload", .fixed 0), ("laload", .fixed 0), ("faload", .fixed 0),
    ("daload", .fixed 0), ("aaload", .fixed 0), ("baload", .fixed 0), ("caload", .fixed 0),
    ("saload", .fixed 0), ("istore", .fixed 1), ("lstore", .fixed 1), ("fstore", .fixed 1),
    ("dstore", .fixed 1), ("astore", .fixed 1), ("istore_0", .fixed 0), ("istore_1", .fixed 0),
    ("istore_2", .fixed 0), ("istore_3", .fixed 0), ("lstore_0", .fixed 0),
    ("lstore_1", .fixed 0), ("lstore_2", .fixed 0), ("lstore_3", .fixed 0),
    ("fstore_0", .fixed 0), ("fstore_1", .fixed 0), ("fstore_2", .fixed 0),
    ("fstore_3", .fixed 0), ("dstore_0", .fixed 0), ("dstore_1", .fixed 0),
    ("dstore_2", .fixed 0), ("dstore_3", .fixed 0), ("astore_0", .fixed 0),
    ("astore_1", .fixed 0), ("astore_2", .fixed 0), ("astore_3", .fixed 0), ("iastore", .fixed 0),
    ("lastore", .fixed 0), ("fastore", .fixed 0), ("dastore", .fixed 0), ("aastore", .fixed 0),
    ("bastore", .fixed 0), ("castore", .fixed 0), ("sastore", .fixed 0), ("pop", .fixed 0),
    ("pop2", .fixed 0), ("dup", .fixed 0), ("dup_x1", .fixed 0), ("dup_x2", .fixed 0),
    ("dup2", .fixed 0), ("dup2_x1", .fixed 0), ("dup2_x2", .fixed 0), ("swap", .fixed 0),
    ("iadd", .fixed 0), ("ladd", .fixed 0), ("fadd", .fixed 0), ("dadd", .fixed 0),
    ("isub", .fixed 0), ("lsub", .fixed 0), ("fsub", .fixed 0), ("dsub", .fixed 0),
    ("imul", .fixed 0), ("lmul", .fixed 0), ("fmul", .fixed 0), ("dmul", .fixed 0),
    ("idiv", .fixed 0), ("ldiv", .fixed 0), ("fdiv", .fixed 0), ("ddiv", .fixed 0),
    ("irem", .fixed 0), ("lrem", .fixed 0), ("frem", .fixed 0), ("drem", .fixed 0),
    ("ineg", .fixed 0), ("lneg", .fixed 0), ("fneg", .fixed 0), ("dneg", .fixed 0),
    ("ishl", .fixed 0), ("lshl", .fixed 0), ("ishr", .fixed 0), ("lshr", .fixed 0),
    ("iushr", .fixed 0), ("lushr", .fixed 0), ("iand", .fixed 0), ("land", .fixed 0),
    ("ior", .fixed 0), ("lor", .fixed 0), ("ixor", .fixed 0), ("lxor", .fixed 0),
    ("iinc", .fixed 2), ("i2l", .fixed 0), ("i2f", .fixed 0), ("i2d", .fixed 0),
    ("l2i", .fixed 0), ("l2f", .fixed 0), ("l2d", .fixed 0), ("f2i", .fixed 0), ("f2l", .fixed 0),
    ("f2d", .fixed 0), ("d2i", .fixed 0), ("d2l", .fixed 0), ("d2f", .fixed 0), ("i2b", .fixed 0),
    ("i2c", .fixed 0), ("i2s", .fixed 0), ("lcmp", .fixed 0), ("fcmpl", .fixed 0),
    ("fcmpg", .fixed 0), ("dcmpl", .fixed 0), ("dcmpg", .fixed 0), ("ifeq", .fixed 2),
    ("ifne", .fixed 2), ("iflt", .fixed 2), ("ifge", .fixed 2), ("ifgt", .fixed 2),
    ("ifle", .fixed 2), ("if_icmpeq", .fixed 2), ("if_icmpne", .fixed 2), ("if_icmplt", .fixed 2),
    ("if_icmpge", .fixed 2), ("if_icmpgt", .fixed 2), ("if_icmple", .fixed 2),
    ("if_acmpeq", .fixed 2), ("if_acmpne", .fixed 2), ("goto", .fixed 2), ("jsr", .fixed 2),
    ("ret", .fixed 1), ("tableswitch", .tableSwitch), ("lookupswitch", .lookupSwitch),
    ("ireturn", .fixed 0), ("lreturn", .fixed 0), ("freturn", .fixed 0), ("dreturn", .fixed 0),
    ("areturn", .fixed 0), ("return", .fixed 0), ("getstatic", .fixed 2), ("putstatic", .fixed 2),
    ("getfield", .fixed 2), ("putfield", .fixed 2), ("invokevirtual", .fixed 2),
    ("invokespecial", .fixed 2), ("invokestatic", .fixed 2), ("invokeinterface", .fixed 4),
    ("invokedynamic", .fixed 4), ("new", .fixed 2), ("newarray", .fixed 1),
    ("anewarray", .fixed 2), ("arraylength", .fixed 0), ("athrow", .fixed 0),
    ("checkcast", .fixed 2), ("instanceof", .fixed 2), ("monitorenter", .fixed 0),
    ("monitorexit", .fixed 0), ("wide", .wideForm), ("multianewarray", .fixed 3),
    ("ifnull", .fixed 2), ("ifnonnull", .fixed 2), ("goto_w", .fixed 4), ("jsr_w", .fixed 4)]

/-- An instruction of the set, as its position in the table. -/
structure Opcode where
  index : Fin 0xCA
  deriving DecidableEq, Repr

namespace Opcode

set_option maxRecDepth 4000 in
/-- The table has a row for each opcode. -/
theorem size_instructionTable : instructionTable.size = 0xCA := rfl

/-- The byte that stands for an instruction. -/
def code (op : Opcode) : UInt8 := UInt8.ofNat op.index

def ofCode? (b : UInt8) : Option Opcode :=
  if h : b.toNat < 0xCA then some ⟨⟨b.toNat, h⟩⟩ else none

theorem ofCode?_code (op : Opcode) : ofCode? op.code = some op := by
  obtain ⟨⟨i, hi⟩⟩ := op
  have h : i % 256 = i := Nat.mod_eq_of_lt (by omega)
  simp [ofCode?, code, h, hi]

def row (op : Opcode) : String × Operands :=
  have h : op.index.val < instructionTable.size := by
    rw [size_instructionTable]; exact op.index.isLt
  instructionTable[op.index.val]

def mnemonic (op : Opcode) : String := op.row.1

def operands (op : Opcode) : Operands := op.row.2

/-- The number of operand bytes, if it is the same for all uses of the instruction. -/
def operandLength? (op : Opcode) : Option Nat :=
  match op.operands with
  | .fixed n => some n
  | _ => none

/-- Whether the instruction may go on elsewhere than behind itself, within the method. -/
def isBranch (op : Opcode) : Bool :=
  let i := op.index.val
  0x99 ≤ i && i ≤ 0xA8 || i == 0xAA || i == 0xAB || 0xC6 ≤ i && i ≤ 0xC9

/-- Whether the instruction returns from the method. -/
def isReturn (op : Opcode) : Bool := 0xAC ≤ op.index.val && op.index.val ≤ 0xB1

/-- The instruction `n` places further in the table, which is taken as a circle. -/
def next (op : Opcode) (n : Nat) : Opcode := ⟨Fin.ofNat 0xCA (op.index.val + n)⟩

def aconstNull : Opcode := ⟨0x01⟩

/-- Pushes the number 0. The instructions for 1 to 5 follow it. -/
def iconst0 : Opcode := ⟨0x03⟩

def iconstM1 : Opcode := ⟨0x02⟩

def bipush : Opcode := ⟨0x10⟩

def sipush : Opcode := ⟨0x11⟩

def ldc : Opcode := ⟨0x12⟩

def ldcW : Opcode := ⟨0x13⟩

/-- Pushes a local variable, by category in the order of `Category.index`. -/
def iload : Opcode := ⟨0x15⟩

/-- Pushes local variable 0. Those for 1 to 3 follow it, and then the next category. -/
def iload0 : Opcode := ⟨0x1A⟩

def aastore : Opcode := ⟨0x53⟩

def pop : Opcode := ⟨0x57⟩

def pop2 : Opcode := ⟨0x58⟩

def dup : Opcode := ⟨0x59⟩

def iinc : Opcode := ⟨0x84⟩

def i2b : Opcode := ⟨0x91⟩

def i2c : Opcode := ⟨0x92⟩

def i2s : Opcode := ⟨0x93⟩

/-- Returns a value, by category in the order of `Category.index`. -/
def ireturn : Opcode := ⟨0xAC⟩

/-- Returns without a value. -/
def voidReturn : Opcode := ⟨0xB1⟩

def invokevirtual : Opcode := ⟨0xB6⟩

def invokestatic : Opcode := ⟨0xB8⟩

def anewarray : Opcode := ⟨0xBD⟩

def checkcast : Opcode := ⟨0xC0⟩

def wide : Opcode := ⟨0xC4⟩

end Opcode

end ScriptProxy.Bytecode
