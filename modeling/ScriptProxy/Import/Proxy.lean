import ScriptProxy.Bytecode.Emitter
import ScriptProxy.Import.Binding
import ScriptProxy.Import.Config

/-!
# Proxy bodies

The body that replaces a native method: it calls the bridge with the module, the name and an array
of the arguments, and returns what the bridge gives back as a value of the method's result kind.

Primitive arguments are boxed, objects of a string wrapper class are passed as their texts, where
null stays null, and other objects are passed as they are. There are no jumps.
-/

namespace ScriptProxy.Import.Proxy

open ClassFile Bytecode

def objectClass : String := "java/lang/Object"

def numberClass : String := "java/lang/Number"

def booleanClass : String := "java/lang/Boolean"

/-- Gives the text of its first argument, or its second one if the first is null. -/
def toText : MethodSymbol :=
  ⟨"java/util/Objects", "toString", "(Ljava/lang/Object;Ljava/lang/String;)Ljava/lang/String;"⟩

/-- The method that boxes a primitive value. -/
def boxing (p : Primitive) : MethodSymbol :=
  ⟨p.boxClass, "valueOf", "(" ++ (ValueKind.primitive p).descriptor ++ ")L" ++ p.boxClass ++ ";"⟩

/-- The method that gives the primitive value of a box, and the class it belongs to. -/
def unboxing : Primitive → MethodSymbol
  | .boolean => ⟨booleanClass, "booleanValue", "()Z"⟩
  | .long => ⟨numberClass, "longValue", "()J"⟩
  | .float => ⟨numberClass, "floatValue", "()F"⟩
  | .double => ⟨numberClass, "doubleValue", "()D"⟩
  | .byte | .char | .short | .int => ⟨numberClass, "intValue", "()I"⟩

def bridge (c : Config) : MethodSymbol := ⟨c.bridgeClass, c.bridgeMethod, bridgeDescriptor⟩

open Emitter in
/-- Makes an object for the bridge of the value on top. -/
def marshal (c : Config) : ValueKind → Emit Unit
  | .primitive p => invokestatic (boxing p)
  | .object name =>
    if c.isStringWrapper name then do
      aconstNull
      invokestatic toText
    else pure ()
  | .array _ => pure ()

open Emitter in
/-- Puts arguments into the array on top, from a position of the array and a local slot on. -/
def passArguments (c : Config) : List ValueKind → (position slot : Nat) → Emit Unit
  | [], _, _ => pure ()
  | k :: ks, position, slot => do
    dup
    pushInt (Int32.ofNat position)
    load k (UInt16.ofNat slot)
    marshal c k
    aastore
    passArguments c ks (position + 1) (slot + k.slots)

open Emitter in
/-- Makes a value of a kind of the object on top. -/
def unmarshal : ValueKind → Emit Unit
  | .primitive p => do
    checkcast (unboxing p).owner
    invokevirtual (unboxing p)
    narrow (.primitive p)
  | .object name => if name = objectClass then pure () else checkcast name
  | .array component => checkcast (ValueKind.array component).descriptor

open Emitter in
/-- Returns the object on top as a result of the given kind. -/
def giveBack : ReturnKind → Emit Unit
  | .void => do
    pop 1
    returnValue .void
  | .value k => do
    unmarshal k
    returnValue (.value k)

open Emitter in
/-- The instructions of a proxy whose first argument is in the given slot. -/
def emitBody (c : Config) (b : Binding) (t : MethodType) (firstSlot : Nat) : Emit Unit := do
  ldcString b.module
  ldcString b.name
  pushInt (Int32.ofNat t.parameters.length)
  anewarray objectClass
  passArguments c t.parameters 0 firstSlot
  invokestatic (bridge c)
  giveBack t.result

/-- The number of slots below the arguments of a method. -/
def receiverSlots (isStatic : Bool) : Nat := if isStatic then 0 else 1

/-- The most slots that the receiver and the parameters of a method may take up. -/
def maxSlots : Nat := 255

/-- The body of the proxy for a method. Its constants are added to the pool. -/
def body (c : Config) (method : MethodKey) (b : Binding) (isStatic : Bool) : Pool.Edit Code :=
  match MethodType.ofDescriptor method.descriptor with
  | .error d => throw (.rewrite method.describe (.badDescriptor d))
  | .ok t => fun pool =>
    let slots := receiverSlots isStatic + t.parameterSlots
    if maxSlots < slots then .error (.rewrite method.describe (.tooManySlots slots)) pool
    else
      match emitBody c b t (receiverSlots isStatic) (Emitter.start pool) with
      | .error f e => .error f e.pool
      | .ok _ e =>
        match e.finish (UInt16.ofNat slots) with
        | .ok code => .ok code e.pool
        | .error f => .error f e.pool

end ScriptProxy.Import.Proxy
