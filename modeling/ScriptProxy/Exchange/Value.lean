import ScriptProxy.Double
import ScriptProxy.Exchange.Handle
import ScriptProxy.Text.Quoted

/-!
# Values between a program and its scripts

The arguments and results of script functions as they are outside of the engine. Equality is `same`:
numbers are compared as numbers, and an object that stands for a text equals that text.
-/

namespace ScriptProxy.Exchange

inductive Value where
  | undefined
  | null
  | bool (b : Bool)
  | int (n : Int32)
  | double (d : Double)
  | string (s : String)
  /-- An object that stands for a text. It arrives in a script as that text. -/
  | textLike (s : String)
  | array (vs : List Value)
  | object (h : Handle)

namespace Value

/-- The value of an optional one, whose absence is `null`. -/
def ofOption {α : Type} (f : α → Value) : Option α → Value
  | some a => f a
  | none => null

def ofList {α : Type} (f : α → Value) (as : List α) : Value := array (as.map f)

/-- Whether a value is `undefined` or `null`. -/
def isNullish : Value → Bool
  | undefined | null => true
  | _ => false

/-- The number that a value is, as a double. -/
def toDouble? : Value → Option Double
  | int n => some (.ofInt n)
  | double d => some d
  | _ => none

/-- The number that a value is, without its fraction. -/
def toInt? : Value → Option Int32
  | int n => some n
  | double d => some d.truncated
  | _ => none

def toString? : Value → Option String
  | string s => some s
  | _ => none

def toBool? : Value → Option Bool
  | bool b => some b
  | _ => none

mutual
/-- Equality of values. -/
def same : Value → Value → Bool
  | undefined, undefined => true
  | null, null => true
  | bool a, bool b => a == b
  | int a, int b => a == b
  | double a, double b => a.same b
  | int a, double b => (Double.ofInt a).same b
  | double a, int b => (Double.ofInt b).same a
  | string a, string b => a == b
  | textLike a, textLike b => a == b
  | string a, textLike b => a == b
  | textLike a, string b => b == a
  | array as, array bs => sameAll as bs
  | object h, object k => h.same k
  | _, _ => false

/-- Equality of the values at each place of two lists. -/
def sameAll : List Value → List Value → Bool
  | [], [] => true
  | a :: as, b :: bs => a.same b && sameAll as bs
  | _, _ => false
end

mutual
/-- How messages show a value. -/
def describe : Value → String
  | undefined => "undefined"
  | null => "null"
  | bool b => if b then "true" else "false"
  | int n => toString n.toInt
  | double d => d.describe
  | string s => Text.quoted s
  | textLike s => Text.quoted s
  | array vs => "[" ++ ", ".intercalate (describeAll vs) ++ "]"
  | object h => h.describe

def describeAll : List Value → List String
  | [] => []
  | v :: vs => v.describe :: describeAll vs
end

mutual
/-- The handles in a value, in order. -/
def handles : Value → List Handle
  | array vs => handlesOfAll vs
  | object h => [h]
  | _ => []

def handlesOfAll : List Value → List Handle
  | [] => []
  | v :: vs => v.handles ++ handlesOfAll vs
end

end Value

end ScriptProxy.Exchange
