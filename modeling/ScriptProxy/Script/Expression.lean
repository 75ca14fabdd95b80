import ScriptProxy.Script.Number

/-!
# Expressions and statements

What a script is made of: expressions over literals, names, functions, arrays and objects, and the
statements in which they stand.
-/

namespace ScriptProxy.Script

inductive Literal where
  | null
  | bool (b : Bool)
  | number (n : Number)
  | string (s : String)
  deriving DecidableEq, Repr

inductive Operator where
  | add
  | subtract
  | multiply
  | identical
  deriving DecidableEq, Repr

namespace Operator

def mark : Operator → String
  | add => "+"
  | subtract => "-"
  | multiply => "*"
  | identical => "==="

/-- How tightly an operator binds. -/
def rank : Operator → Nat
  | identical => 1
  | add | subtract => 2
  | multiply => 3

def ofMark? (m : String) : Option Operator :=
  [add, subtract, multiply, identical].find? (·.mark = m)

end Operator

/-- How a function takes its arguments. -/
structure Parameters where
  names : List String
  /-- The name for all arguments beyond those. -/
  rest : Option String
  deriving DecidableEq, Repr

mutual
inductive Expression where
  | literal (l : Literal)
  | name (n : String)
  | self
  | array (elements : List Expression)
  | object (properties : List (String × Expression))
  /-- A function, with its text in the script. One that is `bound` has the `this` and the arguments
  of the function around it. -/
  | function (name : String) (parameters : Parameters) (bound : Bool) (body : List Statement)
    (source : String)
  | member (e : Expression) (name : String)
  | call (callee : Expression) (arguments : List Expression)
  | construct (callee : Expression) (arguments : List Expression)
  | negate (e : Expression)
  | typeof (e : Expression)
  | binary (o : Operator) (left right : Expression)
  | assign (name : String) (e : Expression)
  | assignMember (object : Expression) (name : String) (e : Expression)

inductive Statement where
  | declare (name : String) (e : Option Expression)
  | evaluate (e : Expression)
  | throw (e : Expression)
  | giveBack (e : Option Expression)
end

/-- The expression that a name is given to: a function without a name takes it. -/
def Expression.named (name : String) : Expression → Expression
  | function "" parameters bound body source => function name parameters bound body source
  | e => e

end ScriptProxy.Script
