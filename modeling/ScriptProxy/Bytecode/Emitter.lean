import ScriptProxy.Bytecode.Opcode
import ScriptProxy.ClassFile.Code
import ScriptProxy.ClassFile.Descriptor

/-!
# Emitting instructions

An `Emitter` holds the instructions emitted so far, the pool that their constants are added to, and
the depth of the operand stack in slots, now and at its highest. A step that fails emits nothing,
though it may have added constants. There are no jumps.
-/

namespace ScriptProxy.Bytecode

open ClassFile

/-- The kinds of values that an instruction tells apart. -/
inductive Category where
  | int
  | long
  | float
  | double
  | reference
  deriving DecidableEq, Repr

/-- The place of a category in families of instructions. -/
def Category.index : Category → Nat
  | int => 0
  | long => 1
  | float => 2
  | double => 3
  | reference => 4

/-- The category of a kind. The small integers and truth values are kept as integers. -/
def category : ValueKind → Category
  | .primitive .long => .long
  | .primitive .float => .float
  | .primitive .double => .double
  | .primitive _ => .int
  | .object _ | .array _ => .reference

structure Emitter where
  pool : Pool
  code : Array UInt8
  depth : UInt16
  maxDepth : UInt16

/-- A step that emits an instruction. -/
abbrev Emit := EStateM Failure Emitter

namespace Emitter

/-- Nothing emitted yet. -/
def start (pool : Pool) : Emitter := ⟨pool, #[], 0, 0⟩

/-- Adds constants to the pool. -/
def pooled {α : Type} (edit : Pool.Edit α) : Emit α := fun e =>
  match edit e.pool with
  | .ok a pool => .ok a { e with pool }
  | .error f pool => .error f { e with pool }

/-- Emits an instruction that takes `pops` slots off the stack and puts `pushes` on it. -/
def emit (op : Opcode) (operands : Bytes) (pops pushes : UInt16) : Emit Unit := fun e =>
  if e.depth < pops then
    .error (.malformed (.stackUnderflow e.code.size pops.toNat e.depth.toNat)) e
  else
    match Word.add (e.depth - pops) pushes with
    | .error f => .error f e
    | .ok depth => .ok () { e with
        code := e.code.push op.code ++ operands
        depth
        maxDepth := if e.maxDepth < depth then depth else e.maxDepth }

def aconstNull : Emit Unit := emit .aconstNull [] 0 1

/-- Pushes the constant at an index. -/
def ldc (index : UInt16) : Emit Unit :=
  if index ≤ 255 then emit .ldc [index.toUInt8] 0 1
  else emit .ldcW (Written.word16 index) 0 1

def ldcString (s : String) : Emit Unit := do ldc (← pooled (Pool.addString s))

/-- Pushes a number in the shortest way. -/
def pushInt (v : Int32) : Emit Unit :=
  let n := v.toInt
  if n = -1 then emit .iconstM1 [] 0 1
  else if 0 ≤ n ∧ n ≤ 5 then emit (Opcode.iconst0.next n.toNat) [] 0 1
  else if -128 ≤ n ∧ n ≤ 127 then emit .bipush [v.toUInt32.toUInt8] 0 1
  else if -32768 ≤ n ∧ n ≤ 32767 then emit .sipush (Written.word16 v.toUInt32.toUInt16) 0 1
  else do ldc (← pooled (Pool.addInteger v))

/-- Takes a length and pushes an array of that many objects of the class. -/
def anewarray (name : String) : Emit Unit := do
  let index ← pooled (Pool.addClass name)
  emit .anewarray (Written.word16 index) 1 1

def dup : Emit Unit := emit .dup [] 1 2

/-- Takes an array, a position and an object, and stores the object there. -/
def aastore : Emit Unit := emit .aastore [] 3 0

/-- Pushes a local variable. -/
def load (kind : ValueKind) (slot : UInt16) : Emit Unit :=
  let place := (category kind).index
  let load := Opcode.iload.next place
  let pushes := UInt16.ofNat kind.slots
  if slot ≤ 3 then emit (Opcode.iload0.next (4 * place + slot.toNat)) [] 0 pushes
  else if slot ≤ 255 then emit load [slot.toUInt8] 0 pushes
  else emit .wide (load.code :: Written.word16 slot) 0 pushes

/-- The slots that the arguments of a method take up, and `receiver` slots below them. -/
def callSlots (t : MethodType) (receiver : UInt16) : Except Failure UInt16 := do
  Word.add (← t.slotWord) receiver

theorem callSlots_eq (t : MethodType) (n : Nat) (hn : n ≤ 65535) :
    callSlots t (UInt16.ofNat n) = Word.checked (t.parameterSlots + n) := by
  rw [callSlots, t.slotWord_eq]
  exact Word.checked_bind_add _ _ hn

/-- Calls a method, with `receiver` slots below its arguments. -/
def invoke (op : Opcode) (m : MethodSymbol) (receiver : UInt16) : Emit Unit :=
  match MethodType.ofDescriptor m.descriptor with
  | .error d => throw (.malformed d)
  | .ok t => do
    let index ← pooled (Pool.addMethod m)
    let pops ← MonadExcept.ofExcept (callSlots t receiver)
    emit op (Written.word16 index) pops (UInt16.ofNat t.result.slots)

def invokestatic (m : MethodSymbol) : Emit Unit := invoke .invokestatic m 0

def invokevirtual (m : MethodSymbol) : Emit Unit := invoke .invokevirtual m 1

/-- Checks the class of the object on top. The name of an array class is its descriptor. -/
def checkcast (name : String) : Emit Unit := do
  let index ← pooled (Pool.addClass name)
  emit .checkcast (Written.word16 index) 1 1

/-- Drops a value of one or two slots. -/
def pop (slots : Nat) : Emit Unit :=
  if slots = 2 then emit .pop2 [] 2 0 else emit .pop [] 1 0

/-- Cuts the integer on top down to a kind of fewer bits. -/
def narrow : ValueKind → Emit Unit
  | .primitive .byte => emit .i2b [] 1 1
  | .primitive .char => emit .i2c [] 1 1
  | .primitive .short => emit .i2s [] 1 1
  | _ => pure ()

/-- Returns the value on top, or nothing. -/
def returnValue : ReturnKind → Emit Unit
  | .void => emit .voidReturn [] 0 0
  | .value kind => emit (Opcode.ireturn.next (category kind).index) [] (UInt16.ofNat kind.slots) 0

/-- The method body that consists of the instructions emitted. -/
def finish (e : Emitter) (maxLocals : UInt16) : Except Failure Code :=
  if e.code.size = 0 ∨ 65535 < e.code.size then (Defect.codeLength e.code.size).fail
  else .ok ⟨e.maxDepth, maxLocals, e.code.toList, [], []⟩

end Emitter

end ScriptProxy.Bytecode
