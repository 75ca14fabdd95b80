import ScriptProxy.ClassFile.Attribute

/-!
# Method bodies

The body of an attribute named `Code`: the instructions of a method with the sizes of its operand
stack and of its local variables, its exception handlers, and attributes of its own.
-/

namespace ScriptProxy.ClassFile

/-- An exception handler for the instructions from `start` up to `stop`. -/
structure Handler where
  start : UInt16
  stop : UInt16
  target : UInt16
  /-- The class that is caught, or 0 for every one. -/
  caught : UInt16
  deriving DecidableEq, Repr

namespace Handler

def read : Read Handler := return ⟨← Read.u16, ← Read.u16, ← Read.u16, ← Read.u16⟩

open Written in
def write (h : Handler) : Bytes :=
  word16 h.start ++ (word16 h.stop ++ (word16 h.target ++ word16 h.caught))

end Handler

structure Code where
  maxStack : UInt16
  maxLocals : UInt16
  instructions : Bytes
  handlers : List Handler
  attributes : List Attribute
  deriving DecidableEq, Repr

namespace Code

/-- The name of the attribute that holds a method body. -/
def attributeName : String := "Code"

def read : Read Code := do
  let maxStack ← Read.u16
  let maxLocals ← Read.u16
  let instructions ← Read.longBlock
  if instructions.isEmpty then Read.fail .emptyCode
  else
    let handlers ← Read.table Handler.read
    return ⟨maxStack, maxLocals, instructions, handlers, ← Attribute.readList⟩

/-- The method body at the start of an attribute's body. -/
def ofBytes (bs : Bytes) : Except Failure Code := read.run bs

open Written in
def toBytes (c : Code) : Except Failure Bytes := do
  let length := c.instructions.length
  if length = 0 ∨ 65535 < length then (Defect.codeLength length).fail
  else
    let handlers ← table (fun _ => .tooManyHandlers) (fun h => .ok h.write) c.handlers
    let attributes ← Attribute.writeList c.attributes
    return word16 c.maxStack ++ (word16 c.maxLocals ++
      (BigEndian.digits 4 length ++ (c.instructions ++ (handlers ++ attributes))))

end Code

end ScriptProxy.ClassFile
