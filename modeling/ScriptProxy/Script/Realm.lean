import ScriptProxy.Script.Object

/-!
# The realm of a page

Everything that the scripts of one page share: the objects, of which one has the variables of the
page as its properties, and the lines that were printed. A value refers to an object by its place
among all objects, and objects are never taken away: `object?_add` and `object?_change` say what
adding and changing one does to the others.

An object has the properties of those behind it as well. `nearest?` finds a property, and says
whether it is one of the object itself. What lies behind the primitive values, the functions, the
arrays and the errors has a place that is known.
-/

namespace ScriptProxy.Script

structure Realm where
  objects : Array Object
  printed : Array Line

/-- The objects that the engine itself refers to. -/
inductive Base where
  /-- The object behind all others. -/
  | object
  | function
  | array
  | string
  | number
  | bool
  | error (k : ErrorKind)
  /-- The object of the variables. -/
  | globals

/-- The place of an object that the engine itself refers to. -/
def Base.place : Base → Nat
  | object => 0
  | function => 1
  | array => 2
  | string => 3
  | number => 4
  | bool => 5
  | globals => 6
  | error k => match k with
    | .general => 7
    | .evaluation => 8
    | .range => 9
    | .reference => 10
    | .reading => 11
    | .type => 12
    | .address => 13
    | .engine => 14

/-- The object of the variables. -/
def Value.globals : Value := .object Base.globals.place

namespace Realm

def object? (r : Realm) (place : Nat) : Option Object := r.objects[place]?

/-- Adds an object, and gives its place. -/
def add (r : Realm) (o : Object) : Nat × Realm :=
  (r.objects.size, { r with objects := r.objects.push o })

/-- Changes an object. -/
def change (r : Realm) (place : Nat) (f : Object → Object) : Realm :=
  { r with objects := r.objects.modify place f }

theorem object?_add (r : Realm) (o : Object) (place : Nat) :
    (r.add o).2.object? place = if place = r.objects.size then some o else r.object? place := by
  simp only [object?, add, Array.getElem?_push]

theorem object?_change (r : Realm) (place place' : Nat) (f : Object → Object) :
    (r.change place f).object? place' =
      if place = place' then (r.object? place').map f else r.object? place' := by
  simp only [object?, change, Array.getElem?_modify]

/-- Gives a function the object that is to lie behind those that it makes. -/
def withPrototype (r : Realm) (f : Value) : Realm :=
  match f with
  | .object place =>
    let (behind, r) := r.add (.ofProperties .plain (some Base.object.place)
      [("constructor", .unlisted f)])
    r.change place (·.replace "prototype" ⟨.value (.object behind) true, false, false⟩)
  | _ => r

/-- The object that a value is. -/
def objectOf? (r : Realm) : Value → Option Object
  | .object place => r.object? place
  | _ => none

/-- The kind of the object that a value is. -/
def kind? (r : Realm) (v : Value) : Option Kind := (r.objectOf? v).map (·.kind)

/-- Whether a value can be called. -/
def isFunction (r : Realm) (v : Value) : Bool := (r.kind? v).any Kind.isFunction

/-- Whether a value is an array. -/
def isArray (r : Realm) (v : Value) : Bool := (r.objectOf? v).any Object.isArray

/-- The place of the object behind a value. -/
def behind? (r : Realm) : Value → Option Nat
  | .undefined | .null => none
  | .bool _ => some Base.bool.place
  | .number _ => some Base.number.place
  | .string _ => some Base.string.place
  | .object place => (r.object? place).bind (·.behind)

/-- The places of an object and of those behind it, the nearest first. The fuel is more than the
number of objects. -/
def chainFrom (r : Realm) : (fuel : Nat) → Option Nat → List Nat
  | 0, _ | _, none => []
  | fuel + 1, some place => place :: chainFrom r fuel ((r.object? place).bind (·.behind))

/-- The places of the objects behind a value, the nearest first. -/
def allBehind (r : Realm) (v : Value) : List Nat := r.chainFrom r.objects.size (r.behind? v)

/-- A property of a value itself. -/
def own? (r : Realm) (v : Value) (name : String) : Option Property :=
  match v with
  | .string s =>
    if name = "length" then some (.fixed (.ofNat (unitCount s)))
    else (elementNumber? name).bind (unitOf? s)
  | .object place => (r.object? place).bind (·.own? name)
  | _ => none

/-- The property of a name in the nearest of some objects that has one. -/
def nearestFrom? (r : Realm) (name : String) : (fuel : Nat) → Option Nat → Option Property
  | 0, _ | _, none => none
  | fuel + 1, some place =>
    match r.object? place with
    | none => none
    | some o => (o.own? name).or (nearestFrom? r name fuel o.behind)

/-- A property of a value, or else of the nearest object behind it that has one. -/
def nearest? (r : Realm) (v : Value) (name : String) : Option Property :=
  (r.own? v name).or (r.nearestFrom? name r.objects.size (r.behind? v))

/-- A word by which the nearest object that has one says what it is. -/
def word? (r : Realm) (v : Value) : Option String :=
  let own := match v with
    | .object place => [place]
    | _ => []
  (own ++ r.allBehind v).findSome? fun place => (r.object? place).bind (·.kind.word?)

/-- The text of a value as an object of its kind. -/
def objectText (r : Realm) (v : Value) : String :=
  let name := match v with
    | .undefined => "Undefined"
    | .null => "Null"
    | .bool _ => "Boolean"
    | .number _ => "Number"
    | .string _ => "String"
    | .object _ => ((r.kind? v).map Kind.name).getD "Object"
  "[object " ++ (r.word? v).getD name ++ "]"

/-- The kind of a value, as a script names it. -/
def typeName (r : Realm) : Value → String
  | .undefined => "undefined"
  | .bool _ => "boolean"
  | .number _ => "number"
  | .string _ => "string"
  | .null => "object"
  | v => if r.isFunction v then "function" else "object"

end Realm

end ScriptProxy.Script
