import ScriptProxy.Double

/-!
# Numbers of scripts

A script has one kind of number, and the engine keeps the integers of 32 bits apart: arithmetic on
them gives an integer as long as the result is one, and any other arithmetic gives a double.
-/

namespace ScriptProxy.Script

inductive Number where
  | int (n : Int32)
  | double (d : Double)
  deriving DecidableEq, Repr

namespace Number

/-- The number that a double stands for, as an integer if it is one. -/
def ofDouble (d : Double) : Number :=
  match d.toInt? with
  | some n => int n
  | none => double d

/-- The number that an integer stands for. -/
def ofInt (n : Int) : Number :=
  if -2147483648 ≤ n ∧ n ≤ 2147483647 then int (Int32.ofInt n) else double (.ofInteger n)

def toDouble : Number → Double
  | int n => .ofInt n
  | double d => d

def toFloat (x : Number) : Float := x.toDouble.toFloat

/-- The number that a float stands for, as an integer if it is one. -/
def ofFloat (x : Float) : Number := ofDouble (.ofFloat x)

/-- The integer between a number and zero that is nearest to the number. -/
def toInteger : Number → Int
  | int n => n.toInt
  | double d => d.toInteger

/-- The low 32 bits of the integer of a number. -/
def toWord (x : Number) : UInt32 :=
  if x.toDouble.isFinite then .ofNat (x.toInteger.emod 4294967296).toNat else 0

def add : Number → Number → Number
  | int a, int b => ofInt (a.toInt + b.toInt)
  | x, y => double (.ofFloat (x.toFloat + y.toFloat))

def subtract : Number → Number → Number
  | int a, int b => ofInt (a.toInt - b.toInt)
  | x, y => double (.ofFloat (x.toFloat - y.toFloat))

/-- The product. A zero is negative if just one of two integers is. -/
def multiply : Number → Number → Number
  | int a, int b =>
    if a.toInt * b.toInt = 0 ∧ (a < 0 ∨ b < 0) then double .negativeZero
    else ofInt (a.toInt * b.toInt)
  | x, y => double (.ofFloat (x.toFloat * y.toFloat))

def negate : Number → Number
  | int n => if n = 0 then double .negativeZero else ofInt (-n.toInt)
  | double d => double (.ofFloat (-d.toFloat))

/-- Equality of numbers, whichever way they are kept. -/
def same (x y : Number) : Bool := x.toDouble.same y.toDouble

/-- The larger of two numbers, of which a positive zero is larger than a negative one. -/
def larger : Number → Number → Number
  | int a, int b => int (if a < b then b else a)
  | x, y =>
    let a := x.toDouble
    let b := y.toDouble
    .ofDouble (
      if a.isNaN || b.isNaN then .nan
      else if a.isZero && b.isZero then if a.isNegative then b else a
      else if a.toFloat < b.toFloat then b else a)

/-- The smaller of two numbers, of which a negative zero is smaller than a positive one. -/
def smaller : Number → Number → Number
  | int a, int b => int (if b < a then b else a)
  | x, y =>
    let a := x.toDouble
    let b := y.toDouble
    .ofDouble (
      if a.isNaN || b.isNaN then .nan
      else if a.isZero && b.isZero then if a.isNegative then a else b
      else if b.toFloat < a.toFloat then b else a)

/-- The number as a script writes it. -/
def text : Number → String
  | int n => toString n.toInt
  | double d => d.scriptText

end Number

end ScriptProxy.Script
