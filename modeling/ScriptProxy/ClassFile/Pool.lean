import ScriptProxy.Bytes.Cursor
import ScriptProxy.Bytes.Written
import ScriptProxy.Text.ModifiedUtf8

/-!
# Constant pools

A pool is a table of constants. Index 0 and the index after a long or double constant are unusable.
Constants are looked up by index, and added by `Pool.Edit` steps, which give the first index that
holds the wanted constant and put a new one at the end only if there is none. No pool grows beyond
65535 slots. A failing step keeps what it added before it failed.
-/

namespace ScriptProxy.ClassFile

namespace Constant

def read : Read Constant := do
  let tag ← Read.u8
  if tag = 1 then return .utf8 (← Read.shortBlock)
  else if tag = 3 then return .integer (← Read.u32).toInt32
  else if tag = 4 then return .float (← Read.u32)
  else if tag = 5 then return .long (← Read.u64).toInt64
  else if tag = 6 then return .double (← Read.u64)
  else if tag = 7 then return .classRef (← Read.u16)
  else if tag = 8 then return .string (← Read.u16)
  else if tag = 9 then return .fieldRef (← Read.u16) (← Read.u16)
  else if tag = 10 then return .methodRef (← Read.u16) (← Read.u16)
  else if tag = 11 then return .interfaceMethodRef (← Read.u16) (← Read.u16)
  else if tag = 12 then return .nameAndType (← Read.u16) (← Read.u16)
  else if tag = 15 then return .methodHandle (← Read.u8) (← Read.u16)
  else if tag = 16 then return .methodType (← Read.u16)
  else if tag = 17 then return .dynamic (← Read.u16) (← Read.u16)
  else if tag = 18 then return .invokeDynamic (← Read.u16) (← Read.u16)
  else if tag = 19 then return .module (← Read.u16)
  else if tag = 20 then return .package (← Read.u16)
  else Read.fail (.unknownConstantTag tag ((← get).pos - 1))

open Written in
/-- The bytes of a constant after its tag. -/
def body : Constant → Except Failure Bytes
  | utf8 bytes => return (← count16 bytes.length .utf8TooLong) ++ bytes
  | integer v => return word32 v.toUInt32
  | float w => return word32 w
  | long v => return word64 v.toUInt64
  | double w => return word64 w
  | classRef i | string i | methodType i | module i | package i => return word16 i
  | fieldRef i j | methodRef i j | interfaceMethodRef i j | nameAndType i j | dynamic i j
  | invokeDynamic i j => return word16 i ++ word16 j
  | methodHandle k i => return k :: word16 i

def write (c : Constant) : Except Failure Bytes := return c.tag :: (← c.body)

end Constant

structure Pool where
  slots : Array (Option Constant)
  deriving DecidableEq

/-- A method that a constant refers to. -/
structure MethodSymbol where
  owner : String
  name : String
  descriptor : String
  deriving DecidableEq, Repr

namespace Pool

def empty : Pool := ⟨#[none]⟩

/-- One more than the highest index. -/
def count (p : Pool) : Nat := p.slots.size

/-- The most slots that a pool may have. -/
def limit : Nat := 65535

/-- The count in sixteen bits, as files hold it. A count beyond them is held as the largest one. -/
def countWord (p : Pool) : UInt16 :=
  if p.count < UInt16.size then .ofNat p.count else 65535

/-! ### Reading and writing -/

/-- Reads constants until the given number of slots is filled. -/
def readSlots : Nat → Array (Option Constant) → Read (Array (Option Constant))
  | 0, slots => pure slots
  | n + 1, slots => do
    let c ← Constant.read
    if c.isWide then
      match n with
      | 0 => Read.fail .wideConstantLast
      | n + 1 => readSlots n ((slots.push c).push none)
    else readSlots n (slots.push c)

def read : Read Pool := do
  let count ← Read.u16
  if count = 0 then Read.fail .emptyPool
  else return ⟨← readSlots (count.toNat - 1) #[none]⟩

/-- The written form of a slot: nothing for one that is unusable. -/
def writeSlot : Option Constant → Except Failure Bytes
  | none => return []
  | some c => c.write

def write (p : Pool) : Except Failure Bytes := do
  return Written.word16 p.countWord ++ (← Written.all writeSlot p.slots.toList)

/-! ### Looking up -/

def get (p : Pool) (i : UInt16) : Except Failure Constant :=
  match p.slots[i.toNat]? with
  | some (some c) => .ok c
  | _ => (Defect.invalidIndex i p.count).fail

/-- The text of the constant at an index. -/
def text (p : Pool) (i : UInt16) : Except Failure String := do
  match ← p.get i with
  | .utf8 bytes => Text.ModifiedUtf8.decode bytes
  | c => (Defect.notUtf8 i c).fail

/-- The name of the class that the constant at an index refers to. -/
def className (p : Pool) (i : UInt16) : Except Failure String := do
  match ← p.get i with
  | .classRef name => p.text name
  | c => (Defect.notClass i c).fail

/-- The class and the name and type of a reference to a method of a class or an interface. -/
def methodParts (p : Pool) (i : UInt16) : Except Failure (UInt16 × UInt16) := do
  match ← p.get i with
  | .methodRef owner nameAndType => return (owner, nameAndType)
  | .interfaceMethodRef owner nameAndType => return (owner, nameAndType)
  | c => (Defect.notMethodReference i c).fail

/-- The method that the constant at an index refers to. -/
def method (p : Pool) (i : UInt16) : Except Failure MethodSymbol := do
  let (owner, nameAndType) ← p.methodParts i
  match ← p.get nameAndType with
  | .nameAndType name descriptor =>
    return ⟨← p.className owner, ← p.text name, ← p.text descriptor⟩
  | _ => (Defect.notNameAndType nameAndType).fail

/-- The usable slots with their indices. -/
def entries (p : Pool) : List (Nat × Constant) :=
  p.slots.toList.zipIdx.filterMap fun (slot, i) => slot.map (i, ·)

/-! ### Adding -/

/-- A step that may add constants to a pool. -/
abbrev Edit := EStateM Failure Pool

/-- The number of slots that a constant takes up. -/
def width (c : Constant) : Nat := if c.isWide then 2 else 1

/-- Puts a constant at the end and gives its index. -/
def push (c : Constant) : Edit UInt16 := fun p =>
  if p.count + width c ≤ limit then
    let slots := p.slots.push c
    .ok (UInt16.ofNat p.count) ⟨if c.isWide then slots.push none else slots⟩
  else .error (.notSupported .fullPool) p

/-- The first index that holds the constant. -/
def find? (p : Pool) (c : Constant) : Option Nat := p.slots.findIdx? (· == some c)

/-- The first index that holds the constant, which is added if there is none. -/
def intern (c : Constant) : Edit UInt16 := fun p =>
  match p.find? c with
  | some i => .ok (UInt16.ofNat i) p
  | none => push c p

def addText (s : String) : Edit UInt16 := intern (.utf8 (Text.ModifiedUtf8.encode s))

def addClass (name : String) : Edit UInt16 := do intern (.classRef (← addText name))

def addString (s : String) : Edit UInt16 := do intern (.string (← addText s))

def addInteger (v : Int32) : Edit UInt16 := intern (.integer v)

def addNameAndType (name descriptor : String) : Edit UInt16 := do
  intern (.nameAndType (← addText name) (← addText descriptor))

def addMethod (m : MethodSymbol) : Edit UInt16 := do
  let owner ← addClass m.owner
  intern (.methodRef owner (← addNameAndType m.name m.descriptor))

end Pool

end ScriptProxy.ClassFile
