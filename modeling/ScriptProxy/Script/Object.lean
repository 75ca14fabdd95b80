import ScriptProxy.OrderedMap
import ScriptProxy.Script.Expression
import ScriptProxy.Script.Native
import ScriptProxy.Script.Value
import ScriptProxy.Text.Utf16

/-!
# Objects of scripts

An object has properties of its own, each under a name. `own?` is the view of them that scripts
have: beside the properties that the object was given, a text in the shape of an object has its
characters as properties, and an array has its elements. `names` lists the properties of an object,
those that count elements first. `add`, `assign` and `remove` change one property.

The first elements of an array are kept apart from its other properties as long as there is nothing
special about them.
-/

namespace ScriptProxy.Script

/-- What the names in the body of a function stand for. -/
structure Scope where
  /-- Whether the scope is that of the page. -/
  ofPage : Bool
  self : Value
  /-- The arguments of the function around, if there is one that is not bound. -/
  arguments : Option (List Value)
  /-- The parameters of the function and of those around it, the innermost first. -/
  names : List (String × Value)

/-- A function that a script has made, with the scope that it was made in. -/
structure Closure where
  parameters : Parameters
  bound : Bool
  body : List Statement
  source : String
  scope : Scope

inductive Kind where
  | plain
  | array
  /-- The arguments of a function. -/
  | arguments
  | error
  /-- An object that says of itself what it is. -/
  | library (name : String)
  /-- An object that stands for a value that is none. -/
  | boxed (v : Value)
  /-- What goes through the elements of an object one by one, from a number on, until there are no
  more of them. -/
  | cursor (source : Option Value) (next : Nat) (part : Part)
  | native (f : Native)
  | closure (f : Closure)
  /-- A function that calls another with a given `this` and first arguments. -/
  | bound (f self : Value) (first : List Value)

namespace Kind

/-- Whether an object of a kind can be called. -/
def isFunction : Kind → Bool
  | native _ | closure _ | bound _ _ _ => true
  | _ => false

/-- The word by which an object says what it is. -/
def word? : Kind → Option String
  | library name => name
  | cursor _ _ _ => "Array Iterator"
  | _ => none

/-- The word for a kind in the text of an object. -/
def name : Kind → String
  | plain | library _ | cursor _ _ _ => "Object"
  | array => "Array"
  | arguments => "Arguments"
  | error => "Error"
  | boxed (.bool _) => "Boolean"
  | boxed (.number _) => "Number"
  | boxed (.string _) => "String"
  | boxed _ => "Object"
  | native _ | closure _ | bound _ _ _ => "Function"

end Kind

/-- What a property holds. -/
inductive Content where
  | value (v : Value) (writable : Bool)
  /-- The functions that are called to read and to write the property. Either may be `undefined`. -/
  | accessor (getter setter : Value)
  deriving DecidableEq, Repr

structure Property where
  content : Content
  /-- Whether the property is among those that are listed. -/
  listed : Bool
  /-- Whether the property can be removed, and can become one of another sort. -/
  changeable : Bool
  deriving DecidableEq, Repr

namespace Property

/-- A property as scripts make them. -/
def ofValue (v : Value) : Property := ⟨.value v true, true, true⟩

/-- A property that is not listed. -/
def unlisted (v : Value) : Property := ⟨.value v true, false, true⟩

/-- A property that is not listed and keeps its value. -/
def constant (v : Value) : Property := ⟨.value v false, false, true⟩

/-- A property that is not listed and always stays as it is. -/
def fixed (v : Value) : Property := ⟨.value v false, false, false⟩

end Property

structure Object where
  kind : Kind
  /-- The place of the object whose properties this one has as well. -/
  behind : Option Nat
  /-- Whether the object can be given more properties. -/
  isOpen : Bool
  elements : Array Value
  properties : OrderedMap String Property

/-- The number that a name is if it can count the elements of an array. -/
def elementNumber? (name : String) : Option Nat :=
  match name.toList.head? with
  | some c =>
    if c.isDigit then
      match name.toNat? with
      | some n => if toString n = name ∧ n < 4294967295 then some n else none
      | none => none
    else none
  | none => none

/-- The property of a text that is the character of the given number, counted in units of sixteen
bits. -/
def unitOf? (s : String) (i : Nat) : Option Property :=
  ((Text.Utf16.units s.toList)[i]?).map fun u =>
    ⟨.value (.string (String.singleton (Char.ofNat u.toNat))) false, true, false⟩

/-- How many units of sixteen bits a text has. -/
def unitCount (s : String) : Nat := (Text.Utf16.units s.toList).length

namespace Object

/-- An object with the given properties. -/
def ofProperties (kind : Kind) (behind : Option Nat) (properties : List (String × Property)) :
    Object := ⟨kind, behind, true, #[], ⟨properties⟩⟩

/-- The length of an array as a property. -/
def lengthProperty (n : Nat) : Property := ⟨.value (.ofNat n) true, false, false⟩

/-- An array with the given elements. -/
def ofElements (behind : Nat) (elements : Array Value) : Object :=
  ⟨.array, some behind, true, elements, ⟨[("length", lengthProperty elements.size)]⟩⟩

/-- An object that stands for a value that is none. -/
def ofBoxed (v : Value) (behind : Nat) : Object :=
  .ofProperties (.boxed v) (some behind) (match v with
    | .string s => [("length", .fixed (.ofNat (unitCount s)))]
    | _ => [])

def isArray (o : Object) : Bool :=
  match o.kind with
  | .array => true
  | _ => false

/-- The characters or elements that an object has as properties. -/
def indexed? (o : Object) (name : String) : Option Property :=
  match o.kind with
  | .boxed (.string s) => (elementNumber? name).bind (unitOf? s)
  | _ =>
    if o.elements.isEmpty then none
    else (elementNumber? name).bind fun i => (o.elements[i]?).map .ofValue

/-- A property of an object itself. -/
def own? (o : Object) (name : String) : Option Property :=
  (o.indexed? name).or (o.properties.get? name)

/-- The names of the characters or elements that an object has as properties. -/
def indices (o : Object) : List String :=
  match o.kind with
  | .boxed (.string s) => (List.range (unitCount s)).map toString
  | _ => (List.range o.elements.size).map toString

/-- The names of the properties of an object, in the order in which they are listed: those that
count elements in ascending order, and then the others as they came. -/
def names (o : Object) : List String :=
  let counted := o.properties.keys.filterMap fun name =>
    (elementNumber? name).map fun n => (n, name)
  o.indices ++ (counted.mergeSort fun a b => a.1 ≤ b.1).map (·.2) ++
    o.properties.keys.filter fun name => (elementNumber? name).isNone

/-- The length that an array says it has. -/
def length (o : Object) : Nat :=
  match o.properties.get? "length" with
  | some ⟨.value (.number n) _, _, _⟩ => n.toInteger.toNat
  | _ => 0

/-- Whether the length of an array can be changed. -/
def canGrow (o : Object) : Bool :=
  match o.properties.get? "length" with
  | some ⟨.value _ writable, _, _⟩ => writable
  | _ => true

/-- The object with a property replaced. -/
def replace (o : Object) (name : String) (p : Property) : Object :=
  { o with properties := o.properties.insert name p }

/-- The object with its elements kept among its other properties. -/
def spread (o : Object) : Object :=
  let added := o.elements.toList.zipIdx.map fun (v, i) => (toString i, Property.ofValue v)
  { o with
    elements := #[]
    properties := ⟨o.properties.entries ++ added⟩ }

/-- The array with its length given another value. -/
def setLength (o : Object) (n : Nat) : Object :=
  match o.properties.get? "length" with
  | some p => o.replace "length" { p with content := .value (.ofNat n) o.canGrow }
  | none => o

/-- Gives a property that an object has another value. -/
def assign (o : Object) (name : String) (v : Value) : Object :=
  match (if o.elements.isEmpty then none else elementNumber? name) with
  | some i =>
    if i < o.elements.size then { o with elements := o.elements.setIfInBounds i v } else put o
  | none => put o
where
  put (o : Object) : Object :=
    match o.properties.get? name with
    | some p => o.replace name { p with content := .value v true }
    | none => o

/-- Gives an object a property that it does not have. An array grows to hold it. -/
def add (o : Object) (name : String) (p : Property) : Object :=
  match (if o.isArray then elementNumber? name else none) with
  | some i =>
    let o := if o.length ≤ i then o.setLength (i + 1) else o
    match p with
    | ⟨.value v true, true, true⟩ =>
      if i = o.elements.size then { o with elements := o.elements.push v } else o.replace name p
    | p => o.replace name p
  | none => o.replace name p

/-- Whether an array has to become longer to hold a property. -/
def mustGrow (o : Object) (name : String) : Bool :=
  o.isArray && (elementNumber? name).any (o.length ≤ ·)

/-- The object without a property. -/
def remove (o : Object) (name : String) : Object :=
  match (if o.elements.isEmpty then none else elementNumber? name) with
  | some i =>
    if i + 1 = o.elements.size then { o with elements := o.elements.pop }
    else if i < o.elements.size then
      let o := o.spread
      { o with properties := o.properties.erase name }
    else { o with properties := o.properties.erase name }
  | none => { o with properties := o.properties.erase name }

/-- The numbers of those elements from a number on that are kept among the other properties of an
array. -/
def numbersFrom (o : Object) (n : Nat) : List (Nat × Property) :=
  o.properties.entries.filterMap fun (name, p) =>
    (elementNumber? name).bind fun i => if n ≤ i then some (i, p) else none

/-- The array without the elements from a number on, or from behind the last of them that has to
stay. -/
def truncate (o : Object) (n : Nat) : Object :=
  let staying := (o.numbersFrom n).filter fun (_, p) => !p.changeable
  let length := staying.foldl (fun m (i, _) => max m (i + 1)) n
  let kept := o.properties.entries.filter fun (name, _) => (elementNumber? name).all (· < length)
  { o with
    elements := o.elements.extract 0 n
    properties := ⟨kept⟩ }.setLength length

end Object

end ScriptProxy.Script
