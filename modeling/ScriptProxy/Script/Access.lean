import ScriptProxy.Script.Evaluation

/-!
# Reading and writing properties

Scripts do with a value what `read`, `write`, `define` and `erase` do with it. A property that is an
accessor has its functions called. What cannot be done throws an error of the wrong type.

`primitive` is the primitive value that an object stands for, and `text` and `number` are the text
and the number. They ask the methods of the object.
-/

namespace ScriptProxy.Script

/-- What is to become of a property. What is not said stays as it is, or is missing in a new
property. -/
structure Change where
  value : Option Value
  writable : Option Bool
  getter : Option Value
  setter : Option Value
  listed : Option Bool
  changeable : Option Bool

namespace Change

/-- The change that makes nothing of a property. -/
def none : Change := ⟨.none, .none, .none, .none, .none, .none⟩

/-- Whether a change makes a property an accessor, or says something about one. -/
def isAccessor (c : Change) : Bool := c.getter.isSome || c.setter.isSome

/-- Whether a change is about a value. -/
def isValue (c : Change) : Bool := c.value.isSome || c.writable.isSome

/-- The change that makes a property the given one. -/
def ofProperty (p : Property) : Change :=
  match p.content with
  | .value v writable => ⟨v, writable, .none, .none, p.listed, p.changeable⟩
  | .accessor getter setter => ⟨.none, .none, getter, setter, p.listed, p.changeable⟩

/-- What becomes of the content of a property. -/
def content (c : Change) (old : Content) : Content :=
  if c.isAccessor then
    match old with
    | .accessor getter setter => .accessor (c.getter.getD getter) (c.setter.getD setter)
    | .value _ _ => .accessor (c.getter.getD .undefined) (c.setter.getD .undefined)
  else if c.isValue then
    match old with
    | .value v writable => .value (c.value.getD v) (c.writable.getD writable)
    | .accessor _ _ => .value (c.value.getD .undefined) (c.writable.getD false)
  else old

/-- What becomes of a property. -/
def apply (c : Change) (p : Property) : Property :=
  ⟨c.content p.content, c.listed.getD p.listed, c.changeable.getD p.changeable⟩

/-- The new property that a change makes. -/
def fresh (c : Change) : Property := c.apply ⟨.value .undefined false, false, false⟩

/-- Whether a property can be changed so. One that is not changeable only allows for less. -/
def isAllowed (c : Change) (p : Property) : Bool :=
  p.changeable ||
    (c.changeable != some true && c.listed.all (· == p.listed) &&
      match p.content with
      | .accessor getter setter =>
        !c.isValue && c.getter.all (·.same getter) && c.setter.all (·.same setter)
      | .value v writable =>
        !c.isAccessor && (writable || (c.writable != some true && c.value.all (·.same v))))

end Change

/-- The object with a property that it has made another one. -/
def Object.redefine (o : Object) (name : String) (p : Property) : Object :=
  match o.indexed? name with
  | none => o.replace name p
  | some _ =>
    match o.kind, p with
    | .boxed _, _ => o
    | _, ⟨.value v true, true, true⟩ => o.assign name v
    | _, p => o.spread.replace name p

namespace Evaluation

/-- Gives an object a property that it does not have. -/
def extend (target : Value) (o : Object) (name : String) (p : Property) : Evaluation Unit := do
  if !o.isOpen then raiseType "object is not extensible"
  else if o.mustGrow name && !o.canGrow then raiseType "'length' is read-only"
  else change target (·.add name p)

/-- Takes a property from an object. -/
def erase (target : Value) (name : String) : Evaluation Unit := do
  match (← get).own? target name with
  | none => return
  | some p =>
    if p.changeable then change target (·.remove name)
    else raiseType "could not delete property"

/-- Whether a value has a property, be it one of an object behind it. -/
def has (v : Value) (name : String) : Evaluation Bool := do
  return ((← get).nearest? v name).isSome

/-- The object behind a value, or `null`. -/
def behindOf (v : Value) : Evaluation Value := do
  return match (← get).behind? v with
    | some place => .object place
    | none => .null

/-- Puts an object behind another, or nothing. -/
def putBehind (target : Value) (new : Value) : Evaluation Unit := do
  let r ← get
  let place? ← match new with
    | .object place => pure (some place)
    | .null => pure none
    | _ => raiseType "not an object"
  match target, r.objectOf? target with
  | .object place, some o =>
    if o.behind = place? then return
    else if place = Base.object.place then
      raiseType "'Immutable prototype object 'Object.prototype' cannot have their prototype set'"
    else if !o.isOpen then raiseType "object is not extensible"
    else if (new :: (r.allBehind new).map .object).contains target then
      raiseType "circular prototype chain"
    else change target ({ · with behind := place? })
  | .undefined, _ | .null, _ => raiseType "not an object"
  | _, _ => return

end Evaluation

namespace Evaluator

open Evaluation

variable (e : Evaluator)

/-- What a property gives that is read from a value. -/
def contentOf (self : Value) (p : Property) : Evaluation Value :=
  match p.content with
  | .value v _ => return v
  | .accessor .undefined _ => return .undefined
  | .accessor getter _ => e.call getter self []

/-- A property of a value, which is `undefined` if there is none. -/
def read (v : Value) (name : String) : Evaluation Value := do
  match v with
  | .undefined => raiseType s!"cannot read property '{name}' of undefined"
  | .null => raiseType s!"cannot read property '{name}' of null"
  | v =>
    match (← get).nearest? v name with
    | some p => e.contentOf v p
    | none => return .undefined

/-- Calls a method of a value. -/
def invoke (self : Value) (name : String) (vs : List Value) : Evaluation Value := do
  e.call (← e.read self name) self vs

/-- What the first of some methods gives that gives a primitive value. -/
def primitiveFrom (v : Value) : (methods : List String) → Evaluation Value
  | [] => raiseType "toPrimitive"
  | m :: ms => do
    let f ← e.read v m
    if !(← get).isFunction f then primitiveFrom v ms
    else
      let w ← e.call f v []
      if w.isObject then primitiveFrom v ms else return w

/-- The primitive value that a value stands for. -/
def primitive (asText : Bool) (v : Value) : Evaluation Value :=
  if !v.isObject then return v
  else e.primitiveFrom v (if asText then ["toString", "valueOf"] else ["valueOf", "toString"])

/-- The text that a value stands for. -/
def text (v : Value) : Evaluation String := Value.primitiveText <$> e.primitive true v

/-- The message of a thrown value. -/
def messageOf (v : Value) : Evaluation String := do
  match (← get).kind? v with
  | some .error =>
    try
      match ← e.read v "message" with
      | .undefined => return ""
      | m => e.text m
    catch _ => return ""
  | _ => return v.primitiveText

/-- The number that a value stands for. -/
def number (v : Value) : Evaluation Number := Value.primitiveNumber <$> e.primitive false v

/-- The integer that a value stands for, or the nearest one of 64 bits. -/
def integer (v : Value) : Evaluation Int := do
  return max (-9223372036854775808) (min 9223372036854775807 (← e.number v).toInteger)

/-- The length that a value stands for. -/
def arrayLength (v : Value) : Evaluation Nat := do
  let n ← e.number v
  let size := n.toInteger
  if 0 ≤ size ∧ size < 4294967296 ∧ (Number.ofInt size).same n then return size.toNat
  else raise .range "invalid array length"

/-- Gives an array another length. -/
def writeLength (target v : Value) : Evaluation Unit := do
  let n ← e.arrayLength v
  change target (·.truncate n)
  if ((← get).objectOf? target).any (n < ·.length) then raiseType "not configurable"

/-- Gives a property of a value another value. -/
def write (target : Value) (name : String) (v : Value) : Evaluation Unit := do
  match target with
  | .undefined => raiseType s!"cannot set property '{name}' of undefined"
  | .null => raiseType s!"cannot set property '{name}' of null"
  | target =>
    match (← get).nearest? target name with
    | some ⟨.accessor _ .undefined, _, _⟩ => raiseType "no setter for property"
    | some ⟨.accessor _ setter, _, _⟩ => let _ ← e.call setter target [v]
    | some ⟨.value _ false, _, _⟩ => raiseType s!"'{name}' is read-only"
    | _ =>
      match (← get).objectOf? target with
      | none => raiseType "not an object"
      | some o =>
        if (o.own? name).isNone then extend target o name (.ofValue v)
        else if o.isArray && name = "length" then e.writeLength target v
        else change target (·.assign name v)

/-- Changes a property of an object, or makes it. -/
def define (target : Value) (name : String) (c : Change) : Evaluation Unit := do
  match (← get).objectOf? target with
  | none => raiseType "not an object"
  | some o =>
    match o.own? name with
    | none => extend target o name c.fresh
    | some p =>
      if !c.isAllowed p then raiseType "property is not configurable"
      else if o.isArray && name = "length" then
        if let some v := c.value then e.writeLength target v
        if c.writable = some false then
          change target fun o => o.replace name (.fixed (.ofNat o.length))
      else change target (·.redefine name (c.apply p))

/-- How many elements a value says it has. -/
def lengthOf (v : Value) : Evaluation Nat := do
  let n ← e.integer (← e.read v "length")
  return (min n 9007199254740991).toNat

/-- An element of a value, which is `undefined` if there is none. -/
def element (v : Value) (i : Nat) : Evaluation Value := do
  match ((← get).objectOf? v).bind (·.elements[i]?) with
  | some w => return w
  | none => e.read v (toString i)

/-- The first elements of a value. -/
def elements (v : Value) (n : Nat) : Evaluation (List Value) :=
  (List.range n).mapM (e.element v)

/-- What is given of an element. -/
def partOf (v : Value) (i : Nat) : Part → Evaluation Value
  | .number => return .ofNat i
  | .element => e.element v i
  | .both => do makeArray [.ofNat i, ← e.element v i]

/-- The values that can be had from a value one by one: the characters of a text, the elements of
what is an array or has one behind it, and what a cursor has left. -/
def iterated (v : Value) : Evaluation (List Value) := do
  let characters (s : String) : List Value := s.toList.map fun c => .string (String.singleton c)
  let r ← get
  let isWithin (b : Base) : Bool := v = .object b.place || (r.allBehind v).contains b.place
  match v, r.kind? v with
  | .undefined, _ => raiseType "cannot read property 'Symbol.iterator' of undefined"
  | .null, _ => raiseType "cannot read property 'Symbol.iterator' of null"
  | .string s, _ => return characters s
  | v, some (.cursor (some o) next part) =>
    let n ← e.lengthOf o
    change v ({ · with kind := .cursor none n part })
    (List.range' next (n - next)).mapM fun i => e.partOf o i part
  | _, some (.cursor none _ _) => return []
  | v, k? =>
    if isWithin .array || k? matches some .arguments then e.elements v (← e.lengthOf v)
    else if isWithin .string then return characters (← e.text v)
    else raiseType "value is not iterable"

end Evaluator

end ScriptProxy.Script
