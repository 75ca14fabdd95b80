import ScriptProxy.Bytes.Basic
import ScriptProxy.Decimal.Layout

/-!
# Entries of a constant pool

A constant refers to others by their index. Floating-point constants are kept as their words, so
that two constants are equal exactly if their bits are, and text constants as the bytes of the file.
-/

namespace ScriptProxy.ClassFile

inductive Constant where
  | utf8 (bytes : Bytes)
  | integer (value : Int32)
  | float (word : UInt32)
  | long (value : Int64)
  | double (word : UInt64)
  | classRef (name : UInt16)
  | string (text : UInt16)
  | fieldRef (owner nameAndType : UInt16)
  | methodRef (owner nameAndType : UInt16)
  | interfaceMethodRef (owner nameAndType : UInt16)
  | nameAndType (name descriptor : UInt16)
  | methodHandle (kind : UInt8) (reference : UInt16)
  | methodType (descriptor : UInt16)
  | dynamic (bootstrap nameAndType : UInt16)
  | invokeDynamic (bootstrap nameAndType : UInt16)
  | module (name : UInt16)
  | package (name : UInt16)
  deriving DecidableEq, Repr

namespace Constant

/-- Long and double constants take up two indices of the pool. -/
def isWide : Constant → Bool
  | long _ | double _ => true
  | _ => false

/-- The byte that stands before a constant in the file and names its kind. -/
def tag : Constant → UInt8
  | utf8 _ => 1
  | integer _ => 3
  | float _ => 4
  | long _ => 5
  | double _ => 6
  | classRef _ => 7
  | string _ => 8
  | fieldRef .. => 9
  | methodRef .. => 10
  | interfaceMethodRef .. => 11
  | nameAndType .. => 12
  | methodHandle .. => 15
  | methodType _ => 16
  | dynamic .. => 17
  | invokeDynamic .. => 18
  | module _ => 19
  | package _ => 20

/-- How messages show a kind with its arguments. -/
def applied (kind : String) (args : List String) : String :=
  kind ++ "(" ++ ", ".intercalate args ++ ")"

/-- How messages show a constant. -/
def describe : Constant → String
  | utf8 bytes =>
    applied "Utf8" ["[" ++ ", ".intercalate (bytes.map fun b => toString b.toNat) ++ "]"]
  | integer v => applied "Integer" [toString v.toInt]
  | float w => applied "Float" [Decimal.Layout.exact.render .single w.toNat]
  | long v => applied "Long" [toString v.toInt]
  | double w => applied "Double" [Decimal.Layout.exact.render .double w.toNat]
  | classRef i => applied "Class" [toString i.toNat]
  | string i => applied "String" [toString i.toNat]
  | fieldRef i j => applied "FieldRef" [toString i.toNat, toString j.toNat]
  | methodRef i j => applied "MethodRef" [toString i.toNat, toString j.toNat]
  | interfaceMethodRef i j => applied "InterfaceMethodRef" [toString i.toNat, toString j.toNat]
  | nameAndType i j => applied "NameAndType" [toString i.toNat, toString j.toNat]
  | methodHandle k i => applied "MethodHandle" [toString k.toNat, toString i.toNat]
  | methodType i => applied "MethodType" [toString i.toNat]
  | dynamic i j => applied "Dynamic" [toString i.toNat, toString j.toNat]
  | invokeDynamic i j => applied "InvokeDynamic" [toString i.toNat, toString j.toNat]
  | module i => applied "Module" [toString i.toNat]
  | package i => applied "Package" [toString i.toNat]

end Constant

end ScriptProxy.ClassFile
