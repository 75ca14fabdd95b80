import ScriptProxy.ClassFile.Access
import ScriptProxy.ClassFile.Code

/-!
# Class files

A class file as a value. `ofBytes` reads one, and `toBytes` writes it; all that the file holds is
kept, so that a class that was read is written byte for byte as it was.
-/

namespace ScriptProxy

namespace ClassFile

/-- A field or a method. -/
structure Member where
  access : AccessFlags
  name : UInt16
  descriptor : UInt16
  attributes : List Attribute
  deriving DecidableEq, Repr

namespace Member

def read : Read Member :=
  return ⟨⟨← Read.u16⟩, ← Read.u16, ← Read.u16, ← Attribute.readList⟩

open Written in
def write (m : Member) : Except Failure Bytes := do
  let attributes ← Attribute.writeList m.attributes
  return word16 m.access.bits ++ (word16 m.name ++ (word16 m.descriptor ++ attributes))

/-- The first attribute of the given name. -/
def attribute? (pool : Pool) (name : String) (m : Member) : Option Attribute :=
  m.attributes.find? (·.isNamed pool name)

/-- The body of a method, if it has one. -/
def code (pool : Pool) (m : Member) : Except Failure (Option Code) :=
  match m.attribute? pool Code.attributeName with
  | some a => some <$> Code.ofBytes a.body
  | none => .ok none

end Member

end ClassFile

structure ClassFile where
  minor : UInt16
  major : UInt16
  pool : ClassFile.Pool
  access : ClassFile.AccessFlags
  thisClass : UInt16
  /-- The superclass, or 0 for the class that has none. -/
  superClass : UInt16
  interfaces : List UInt16
  fields : List ClassFile.Member
  methods : List ClassFile.Member
  attributes : List ClassFile.Attribute
  deriving DecidableEq

namespace ClassFile

/-- The four bytes that every class file starts with. -/
def magic : UInt32 := 0xCAFEBABE

/-- Reads all of a class file after its magic number. -/
def readContents : Read ClassFile := do
  let minor ← Read.u16
  let major ← Read.u16
  let pool ← Pool.read
  let access ← Read.u16
  let thisClass ← Read.u16
  let superClass ← Read.u16
  let interfaces ← Read.table Read.u16
  let fields ← Read.table Member.read
  let methods ← Read.table Member.read
  let attributes ← Attribute.readList
  return { minor, major, pool, access := ⟨access⟩, thisClass, superClass, interfaces, fields,
           methods, attributes }

/-- Reads a class file that ends where the input does. -/
def read : Read ClassFile := do
  let found ← Read.u32
  if found ≠ magic then Read.fail (.badMagic found)
  else
    let c ← readContents
    let trailing := (← get).remaining
    if trailing ≠ 0 then Read.fail (.trailingBytes trailing) else return c

def ofBytes (bs : Bytes) : Except Failure ClassFile :=
  if bs.isEmpty then .error .empty else read.run bs

open Written in
def toBytes (c : ClassFile) : Except Failure Bytes := do
  let pool ← c.pool.write
  let interfaces ← table (.tableTooLong .interfaces) (fun i => .ok (word16 i)) c.interfaces
  let fields ← table (.tableTooLong .fields) Member.write c.fields
  let methods ← table (.tableTooLong .methods) Member.write c.methods
  let attributes ← Attribute.writeList c.attributes
  return word32 magic ++ (word16 c.minor ++ (word16 c.major ++ (pool ++ (word16 c.access.bits ++
    (word16 c.thisClass ++ (word16 c.superClass ++ (interfaces ++ (fields ++ (methods ++
      attributes)))))))))

/-- The name of the class, with `/` between its parts. -/
def className (c : ClassFile) : Except Failure String := c.pool.className c.thisClass

/-- What stands after the last `/` or `.` of a class name. -/
def simpleNameOf (name : String) : String :=
  String.ofList (name.toList.reverse.takeWhile fun ch => ch != '/' && ch != '.').reverse

def simpleName (c : ClassFile) : Except Failure String := simpleNameOf <$> c.className

def methodName (c : ClassFile) (m : Member) : Except Failure String := c.pool.text m.name

def methodDescriptor (c : ClassFile) (m : Member) : Except Failure String :=
  c.pool.text m.descriptor

/-- Whether a method has the given name and descriptor. -/
def isMethod (c : ClassFile) (name descriptor : String) (m : Member) : Bool :=
  match c.methodName m, c.methodDescriptor m with
  | .ok n, .ok d => n == name && d == descriptor
  | _, _ => false

/-- The position of the first method of the given name and descriptor. -/
def findMethod? (c : ClassFile) (name descriptor : String) : Option Nat :=
  c.methods.findIdx? (c.isMethod name descriptor)

end ClassFile

end ScriptProxy
