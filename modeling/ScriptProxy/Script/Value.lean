import ScriptProxy.Script.NumberText

/-!
# Values of scripts

A value is an object, which is known by its place among all objects, or one of the primitive values,
which are what they are. `primitiveText` and `primitiveNumber` say what a primitive value stands for
as a text and as a number; what an object stands for is a matter of its methods.

Values are compared in three ways that differ for numbers only: `identical` follows arithmetic,
`same` tells the two zeros apart, and `sameElement` does not, but finds what is no number.
-/

namespace ScriptProxy.Script

inductive Value where
  | undefined
  | null
  | bool (b : Bool)
  | number (n : Number)
  | string (s : String)
  | object (place : Nat)
  deriving DecidableEq, Repr

namespace Value

/-- The number of a count. -/
def ofNat (n : Nat) : Value := .number (.ofInt n)

def isObject : Value → Bool
  | object _ => true
  | _ => false

/-- The value itself, unless it is `undefined` or `null`. -/
def present? : Value → Option Value
  | undefined | null => none
  | v => some v

/-- The text of a value that is no object. -/
def primitiveText : Value → String
  | undefined => "undefined"
  | null => "null"
  | bool b => if b then "true" else "false"
  | number n => n.text
  | string s => s
  | object _ => "[object]"

/-- The number that a value stands for that is no object. -/
def primitiveNumber : Value → Number
  | null => .int 0
  | bool b => .int (if b then 1 else 0)
  | number n => n
  | string s => .ofText s
  | undefined | object _ => .double .nan

/-- Whether a value counts as true. -/
def holds : Value → Bool
  | undefined | null => false
  | bool b => b
  | number n => !(n.toDouble.isZero || n.toDouble.isNaN)
  | string s => s != ""
  | object _ => true

/-- Whether two values are equal, where numbers are equal as numbers. -/
def identical : Value → Value → Bool
  | number a, number b => a.same b
  | a, b => a = b

/-- Whether two values cannot be told apart. -/
def same : Value → Value → Bool
  | number a, number b =>
    (a.toDouble.isNaN && b.toDouble.isNaN) || a.toDouble = b.toDouble
  | a, b => a = b

/-- Whether two values are equal as elements of a list. -/
def sameElement (a b : Value) : Bool := identical a b || same a b

end Value

end ScriptProxy.Script
