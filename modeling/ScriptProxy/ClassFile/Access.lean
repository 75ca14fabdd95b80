/-!
# Access flags

The flags of a class, field or method. Bits without a meaning are kept.
-/

namespace ScriptProxy.ClassFile

structure AccessFlags where
  bits : UInt16
  deriving DecidableEq, Repr

namespace AccessFlags

def static : AccessFlags := ⟨0x0008⟩

/-- The flag of a method whose body lies outside the class file. -/
def native : AccessFlags := ⟨0x0100⟩

/-- Whether all flags of `g` are set. -/
def contains (f g : AccessFlags) : Bool := f.bits &&& g.bits == g.bits

/-- The flags of `f` that are not in `g`. -/
def without (f g : AccessFlags) : AccessFlags := ⟨f.bits &&& ~~~g.bits⟩

def isStatic (f : AccessFlags) : Bool := f.contains static

def isNative (f : AccessFlags) : Bool := f.contains native

end AccessFlags

end ScriptProxy.ClassFile
