import ScriptProxy.ClassFile.Pool

/-!
# Reading and writing annotations

The body of an attribute that lists annotations. Values nest: an array holds values, and an
annotation may be the value of an element of another.
-/

namespace ScriptProxy.ClassFile

namespace ElementValue

def enumTag : UInt8 := 0x65

def classTag : UInt8 := 0x63

def annotationTag : UInt8 := 0x40

def arrayTag : UInt8 := 0x5B

/-- Reads the elements of an annotation. -/
@[inline] def readElements (value : Read ElementValue) : Read (List (UInt16 × ElementValue)) :=
  Read.table do return (← Read.u16, ← value)

/-- Reads a value that nests less than `depth` deep. Each level takes a byte at least, so that a
depth beyond the number of bytes left is none. -/
def read : (depth : Nat) → Read ElementValue
  | 0 => throw .outOfBounds
  | depth + 1 => do
    let tag ← Read.u8
    if tag ∈ constantTags then return .const tag (← Read.u16)
    else if tag = enumTag then return .enumConstant (← Read.u16) (← Read.u16)
    else if tag = classTag then return .classLiteral (← Read.u16)
    else if tag = annotationTag then
      return .nested (← Read.u16) (← readElements (read depth))
    else if tag = arrayTag then return .array (← Read.table (read depth))
    else Read.fail (.unknownElementTag tag)

open Written in
mutual

def write : ElementValue → Except Failure Bytes
  | const tag index => .ok (tag :: word16 index)
  | enumConstant type name => .ok (enumTag :: (word16 type ++ word16 name))
  | classLiteral descriptor => .ok (classTag :: word16 descriptor)
  | nested type elements => do
    let count ← count16 elements.length .annotationTableTooLong
    return annotationTag :: (word16 type ++ (count ++ (← writeElements elements [])))
  | array values => do
    let count ← count16 values.length .annotationTableTooLong
    return arrayTag :: (count ++ (← writeValues values []))

/-- Writes elements after those written `before`, which are given last to first. -/
def writeElements : List (UInt16 × ElementValue) → List Bytes → Except Failure Bytes
  | [], before => .ok before.reverse.flatten
  | (name, value) :: rest, before => do
    let written ← write value
    writeElements rest ((word16 name ++ written) :: before)

/-- Writes values after those written `before`, which are given last to first. -/
def writeValues : List ElementValue → List Bytes → Except Failure Bytes
  | [], before => .ok before.reverse.flatten
  | value :: rest, before => do
    let written ← write value
    writeValues rest (written :: before)

end

/-- The text of a string constant. -/
def asString (pool : Pool) (v : ElementValue) : Except Failure String :=
  match v with
  | const tag index => if tag = stringTag then pool.text index else (Defect.notString v).fail
  | _ => (Defect.notString v).fail

/-- The number of a constant that an integer represents. -/
def asInt (pool : Pool) (v : ElementValue) : Except Failure Int32 :=
  match v with
  | const tag index =>
    if tag ∈ integerTags then do
      match ← pool.get index with
      | .integer n => return n
      | c => (Defect.notInteger c).fail
    else (Defect.notIntegerElement v).fail
  | _ => (Defect.notIntegerElement v).fail

end ElementValue

namespace Annotation

def read (depth : Nat) : Read Annotation :=
  return ⟨← Read.u16, ← ElementValue.readElements (ElementValue.read depth)⟩

def write (a : Annotation) : Except Failure Bytes := do
  let count ← Written.count16 a.elements.length .annotationTableTooLong
  return Written.word16 a.type ++ (count ++ (← ElementValue.writeElements a.elements []))

/-- Reads a list of annotations that ends where the input does. -/
def readList : Read (List Annotation) := do
  let depth := (← get).remaining
  let annotations ← Read.table (read depth)
  let trailing := (← get).remaining
  if trailing ≠ 0 then Read.fail (.trailingAnnotationBytes trailing) else return annotations

/-- The annotations that the body of an attribute lists. -/
def listOfBytes (bs : Bytes) : Except Failure (List Annotation) := readList.run bs

def listToBytes : List Annotation → Except Failure Bytes :=
  Written.table (fun _ => .annotationTableTooLong) write

/-- The descriptor of the annotation's type. -/
def typeDescriptor (pool : Pool) (a : Annotation) : Except Failure String := pool.text a.type

end Annotation

end ScriptProxy.ClassFile
