import ScriptProxy.Script.Access
import ScriptProxy.Script.Written

/-!
# The library: objects

The methods that all objects have, and the functions that look into objects and change them. Those
that take a name take any value that stands for a text.
-/

namespace ScriptProxy.Script

open Evaluation

/-- What a method of all objects does. -/
def ObjectMethod.run (e : Evaluator) (f : ObjectMethod) (self : Value) (vs : List Value) :
    Evaluation Value := do
  let first := vs.getD 0 .undefined
  match f with
  | text => return .string ((← get).objectText self)
  | localeText => e.invoke self "toString" []
  | itself => toObject self
  | owns =>
    let name ← e.text first
    let o ← toObject self
    return .bool ((← get).own? o name).isSome
  | lists =>
    let o ← toObject self
    let name ← e.text first
    return .bool (((← get).own? o name).any (·.listed))
  | liesBehind =>
    if !first.isObject then return .bool false
    let o ← toObject self
    return .bool ((((← get).allBehind first).map .object).contains o)
  | behind => behindOf (← toObject self)
  | putBehind =>
    if self.present?.isNone then raiseType "not an object"
    if first.isObject || first = .null then Evaluation.putBehind self first
    return .undefined
  | defineGetter => defined first { Change.none with getter := vs.getD 1 .undefined }
  | defineSetter => defined first { Change.none with setter := vs.getD 1 .undefined }
  | getterOf =>
    let o ← toObject self
    match (← get).nearest? o (← e.text first) with
    | some ⟨.accessor getter _, _, _⟩ => return getter
    | _ => return .undefined
  | setterOf =>
    let o ← toObject self
    match (← get).nearest? o (← e.text first) with
    | some ⟨.accessor _ setter, _, _⟩ => return setter
    | _ => return .undefined
where
  /-- Makes a property an accessor. -/
  defined (name : Value) (c : Change) : Evaluation Value := do
    let o ← toObject self
    let _ ← Evaluation.function (vs.getD 1 .undefined)
    e.define o (← e.text name) { c with listed := true, changeable := true }
    return .undefined

/-- The change that an object describes. -/
def Evaluator.readChange (e : Evaluator) (v : Value) : Evaluation Change := do
  if !v.isObject then raiseType "not an object"
  let said (name : String) : Evaluation (Option Value) := do
    if ← has v name then some <$> e.read v name else return none
  let function (name message : String) : Evaluation (Option Value) := do
    let f ← said name
    if f.all fun f => f = .undefined then return f
    else if ((← get).isFunction (f.getD .undefined)) then return f
    else raiseType message
  let listed ← said "enumerable"
  let changeable ← said "configurable"
  let value ← said "value"
  let writable ← said "writable"
  let getter ← function "get" "invalid getter"
  let setter ← function "set" "invalid setter"
  let c : Change := ⟨value, writable.map (·.holds), getter, setter, listed.map (·.holds),
    changeable.map (·.holds)⟩
  if c.isAccessor && c.isValue then
    raiseType "cannot have setter/getter and value or writable"
  return c

/-- Changes properties of an object as another object describes it. -/
def Evaluator.defineAll (e : Evaluator) (target described : Value) : Evaluation Unit := do
  let described ← toObject described
  for name in (← get).listedNames described do
    e.define target name (← e.readChange (← e.read described name))

/-- An object that describes a property. -/
def describe (p : Property) : Evaluation Value :=
  makeObject ((match p.content with
    | .value v writable => [("value", v), ("writable", .bool writable)]
    | .accessor getter setter => [("get", getter), ("set", setter)]) ++
    [("enumerable", .bool p.listed), ("configurable", .bool p.changeable)])

/-- The object whose properties all stay as they are, apart from the values of those that can be
given new ones, unless they are all to keep them. -/
def Object.sealed (o : Object) (frozen : Bool) : Object :=
  let o := o.spread
  { o with
    isOpen := false
    properties := ⟨o.properties.entries.map fun (name, p) => (name, match p.content with
      | .value v writable => ⟨.value v (writable && !frozen), p.listed, false⟩
      | .accessor _ _ => { p with changeable := false })⟩ }

/-- Whether an object can have no more properties, and none of its own changes. -/
def Object.isSealed (o : Object) (frozen : Bool) : Bool :=
  !o.isOpen && o.elements.isEmpty && o.properties.values.all fun p => !p.changeable &&
    match p.content with
    | .value _ writable => !(writable && frozen)
    | .accessor _ _ => true

/-- What a function that is about objects does. -/
def ObjectFunction.run (e : Evaluator) (f : ObjectFunction) (vs : List Value) :
    Evaluation Value := do
  let first := vs.getD 0 .undefined
  let second := vs.getD 1 .undefined
  match f with
  | assign =>
    let o ← toObject first
    for source in vs.tail.filterMap Value.present? do
      let source ← toObject source
      for name in (← get).listedNames source do
        e.write o name (← e.read source name)
    return o
  | create =>
    if !first.isObject && first != .null then raiseType "not a prototype"
    let o ← makeObject []
    Evaluation.putBehind o first
    if second != .undefined then e.defineAll o second
    return o
  | define =>
    if !first.isObject then raiseType "not an object"
    let name ← e.text second
    e.define first name (← e.readChange (vs.getD 2 .undefined))
    return first
  | defineAll =>
    if !first.isObject then raiseType "not an object"
    e.defineAll first second
    return first
  | entries =>
    let o ← toObject first
    makeArray (← ((← get).listedNames o).mapM fun name => do
      makeArray [.string name, ← e.read o name])
  | freeze => do change first (·.sealed true); return first
  | ofEntries =>
    let o ← makeObject []
    for entry in ← e.iterated first do
      if !entry.isObject then raiseType "not an object"
      let name ← e.text (← e.element entry 0)
      e.define o name (.ofProperty (.ofValue (← e.element entry 1)))
    return o
  | group =>
    let f ← Evaluation.function second
    let o ← makeObject []
    Evaluation.putBehind o .null
    for (v, i) in (← e.iterated first).zipIdx do
      let name ← e.text (← e.call f .undefined [v, .ofNat i])
      match (← get).own? o name with
      | some ⟨.value among _, _, _⟩ => e.write among (toString (← e.lengthOf among)) v
      | _ => e.define o name (.ofProperty (.ofValue (← makeArray [v])))
    return o
  | describe =>
    let o ← toObject first
    match (← get).own? o (← e.text second) with
    | some p => Script.describe p
    | none => return .undefined
  | describeAll =>
    let o ← toObject first
    let names := (((← get).objectOf? o).map (·.names)).getD []
    makeObject (← names.filterMapM fun name => do
      match (← get).own? o name with
      | some p => return some (name, ← Script.describe p)
      | none => return none)
  | names =>
    let o ← toObject first
    makeTexts ((((← get).objectOf? o).map (·.names)).getD [])
  | symbols => do let _ ← toObject first; makeArray []
  | behind =>
    if first.present?.isNone then raiseType "not an object"
    behindOf first
  | owns =>
    let o ← toObject first
    let name ← e.text second
    return .bool ((← get).own? o name).isSome
  | same => return .bool (first.same second)
  | isOpen => return .bool (((← get).objectOf? first).any (·.isOpen))
  | isFrozen => return .bool (((← get).objectOf? first).all (·.isSealed true))
  | isSealed => return .bool (((← get).objectOf? first).all (·.isSealed false))
  | keys => do
    let o ← toObject first
    makeTexts ((← get).listedNames o)
  | close => do change first ({ · with isOpen := false }); return first
  | sealUp => do change first (·.sealed false); return first
  | putBehind => do Evaluation.putBehind first second; return first
  | values =>
    let o ← toObject first
    makeArray (← ((← get).listedNames o).mapM fun name => e.read o name)

end ScriptProxy.Script
