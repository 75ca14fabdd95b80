import ScriptProxy.Script.Realm

/-!
# Evaluation

An evaluation goes on in a realm, and ends with a value or throws one. The realm is what has been
made of it in both cases. Here are the small evaluations that make objects and throw errors, and
`Evaluator`, which is what the functions of the engine need to know of the evaluation of scripts.
-/

namespace ScriptProxy.Script

/-- A computation in a realm that may throw a value. -/
abbrev Evaluation := EStateM Value Realm

/-- How functions are called and texts are run. -/
structure Evaluator where
  call : (f self : Value) → List Value → Evaluation Value
  /-- The value of the last expression of a text. -/
  run : (text : String) → Evaluation Value

namespace Evaluation

/-- Adds an object to the realm. -/
def add (o : Object) : Evaluation Value := fun r =>
  let (place, r) := r.add o
  .ok (.object place) r

/-- Makes an object with the given properties. -/
def makeObject (properties : List (String × Value)) : Evaluation Value :=
  add (.ofProperties .plain (some Base.object.place)
    (properties.map fun (name, v) => (name, .ofValue v)))

/-- Makes an array. -/
def makeArray (elements : List Value) : Evaluation Value :=
  add (.ofElements Base.array.place elements.toArray)

/-- Makes an array of texts. -/
def makeTexts (texts : List String) : Evaluation Value := makeArray (texts.map .string)

/-- Makes an array in which some elements may be missing. -/
def makeSparse (elements : List (Option Value)) : Evaluation Value :=
  let o := elements.zipIdx.foldl (fun o (v, i) => match v with
    | some v => o.add (toString i) (.ofValue v)
    | none => o) (Object.ofElements Base.array.place #[])
  add (o.setLength elements.length)

/-- Makes an error. -/
def makeError (kind : ErrorKind) (message : Option String) : Evaluation Value :=
  add (.ofProperties .error (some (Base.error kind).place)
    (match message with
      | some m => [("message", .unlisted (.string m))]
      | none => []))

/-- Throws an error that is made for the purpose. -/
def raise {α : Type} (kind : ErrorKind) (message : String) : Evaluation α := do
  throw (← makeError kind (some message))

/-- Throws the error that says that a value is of the wrong type. -/
def raiseType {α : Type} (message : String) : Evaluation α := raise .type message

/-- The kind of a value, in the words of a failed conversion. -/
def conversionName (r : Realm) : Value → String
  | .undefined => "undefined"
  | .null => "null"
  | .bool _ => "bool"
  | .number (.int _) => "int"
  | .number (.double _) => "float"
  | .string _ => "string"
  | v => if r.isArray v then "array" else if r.isFunction v then "function" else "object"

/-- Throws the error that says that a value is not what is wanted. -/
def raiseConversion {α : Type} (v : Value) (wanted : String) : Evaluation α := do
  let name := conversionName (← get) v
  raiseType s!"Error converting from js '{name}' into type '{wanted}'"

/-- Throws the error that ends an evaluation that goes too deep. -/
def tooDeep {α : Type} : Evaluation α := raise .range "Maximum call stack size exceeded"

/-- The value itself, if it can be called. -/
def function (v : Value) : Evaluation Value := do
  if (← get).isFunction v then return v else raiseType "not a function"

/-- A value as an object: one that is none becomes an object that stands for it. -/
def toObject (v : Value) : Evaluation Value := do
  match v with
  | .undefined | .null => raiseType "Cannot convert undefined or null to object"
  | .object _ => return v
  | v => add (.ofBoxed v (((← get).behind? v).getD Base.object.place))

/-- Changes an object. -/
def change (v : Value) (f : Object → Object) : Evaluation Unit :=
  match v with
  | .object place => modify (·.change place f)
  | _ => return

end Evaluation

end ScriptProxy.Script
