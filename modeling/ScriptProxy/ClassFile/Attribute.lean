import ScriptProxy.ClassFile.Pool

/-!
# Attributes

An attribute is a name, given by its index in the constant pool, and a body that is kept as it
stands in the file.
-/

namespace ScriptProxy.ClassFile

structure Attribute where
  name : UInt16
  body : Bytes
  deriving DecidableEq, Repr

namespace Attribute

def read : Read Attribute := return ⟨← Read.u16, ← Read.longBlock⟩

def write (a : Attribute) : Except Failure Bytes := do
  let length ← Written.count32 a.body.length .attributeTooLong
  return Written.word16 a.name ++ (length ++ a.body)

def readList : Read (List Attribute) := Read.table read

def writeList : List Attribute → Except Failure Bytes :=
  Written.table (fun _ => .tooManyAttributes) write

/-- Whether the attribute has a name in the pool and it is the given one. -/
def isNamed (pool : Pool) (name : String) (a : Attribute) : Bool :=
  match pool.text a.name with
  | .ok n => n == name
  | .error _ => false

end Attribute

end ScriptProxy.ClassFile
