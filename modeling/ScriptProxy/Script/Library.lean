import ScriptProxy.Script.Mathematics
import ScriptProxy.Script.Realm

/-!
# The realm that a page begins with

The functions of the engine, under the names by which scripts find them and with the number of
arguments that they say they take. `Realm.start` puts them where they belong.
-/

namespace ScriptProxy.Script

/-- A function of the engine, with its name and the number of arguments that it says it takes. -/
structure Provided where
  name : String
  arity : Nat
  native : Native

namespace Library

def objectMethods : List Provided :=
  let f (name : String) (arity : Nat) (f : ObjectMethod) : Provided :=
    ⟨name, arity, .objectMethod f⟩
  [f "toString" 0 .text, f "toLocaleString" 0 .localeText, f "valueOf" 0 .itself,
    f "hasOwnProperty" 1 .owns, f "isPrototypeOf" 1 .liesBehind, f "propertyIsEnumerable" 1 .lists,
    f "__defineGetter__" 2 .defineGetter, f "__defineSetter__" 2 .defineSetter,
    f "__lookupGetter__" 1 .getterOf, f "__lookupSetter__" 1 .setterOf]

def objectFunctions : List Provided :=
  let f (name : String) (arity : Nat) (f : ObjectFunction) : Provided := ⟨name, arity, .object f⟩
  [f "create" 2 .create, f "getPrototypeOf" 1 .behind, f "setPrototypeOf" 2 .putBehind,
    f "defineProperty" 3 .define, f "defineProperties" 2 .defineAll,
    f "getOwnPropertyNames" 1 .names, f "getOwnPropertySymbols" 1 .symbols,
    f "groupBy" 2 .group, f "keys" 1 .keys, f "values" 1 .values, f "entries" 1 .entries,
    f "isExtensible" 1 .isOpen, f "preventExtensions" 1 .close,
    f "getOwnPropertyDescriptor" 2 .describe, f "getOwnPropertyDescriptors" 1 .describeAll,
    f "is" 2 .same, f "assign" 2 .assign, f "seal" 1 .sealUp, f "freeze" 1 .freeze,
    f "isSealed" 1 .isSealed, f "isFrozen" 1 .isFrozen, f "fromEntries" 1 .ofEntries,
    f "hasOwn" 2 .owns]

def functionMethods : List Provided :=
  let f (name : String) (arity : Nat) (f : FunctionMethod) : Provided :=
    ⟨name, arity, .functionMethod f⟩
  [f "call" 1 .call, f "apply" 2 .spread, f "bind" 1 .bind, f "toString" 0 .text]

def arrayMethods : List Provided :=
  let f (name : String) (arity : Nat) (f : ArrayMethod) : Provided := ⟨name, arity, .arrayMethod f⟩
  [f "at" 1 .element, f "with" 2 .replaced, f "concat" 1 .concat, f "every" 1 .every,
    f "some" 1 .any, f "forEach" 1 .forEach, f "map" 1 .map, f "filter" 1 .filter,
    f "reduce" 1 .fold, f "reduceRight" 1 .foldBack, f "fill" 1 .fill, f "find" 1 .find,
    f "findIndex" 1 .findIndex, f "findLast" 1 .findLast, f "findLastIndex" 1 .findLastIndex,
    f "indexOf" 1 .indexOf, f "lastIndexOf" 1 .lastIndexOf, f "includes" 1 .includes,
    f "join" 1 .join, f "toString" 0 .text, f "toLocaleString" 0 .localeText, f "pop" 0 .pop,
    f "push" 1 .push, f "shift" 0 .shift, f "unshift" 1 .unshift, f "reverse" 0 .reverse,
    f "toReversed" 0 .reversed, f "sort" 1 .sort, f "toSorted" 1 .sorted, f "slice" 2 .slice,
    f "splice" 2 .splice, f "toSpliced" 2 .spliced, f "copyWithin" 2 .copyWithin,
    f "flatMap" 1 .flatMap, f "flat" 0 .flat, f "values" 0 (.iterate .element),
    f "keys" 0 (.iterate .number), f "entries" 0 (.iterate .both)]

def mathematicalFunctions : List Provided :=
  let f (name : String) (f : Float → Float) : Provided := ⟨name, 1, .mathematical (.unary f)⟩
  let g (name : String) (f : Mathematical) : Provided := ⟨name, 2, .mathematical f⟩
  [g "min" .min, g "max" .max, f "abs" .abs, f "floor" .floor, f "ceil" .ceil,
    f "round" Number.rounded, f "sqrt" .sqrt, f "acos" .acos, f "asin" .asin, f "atan" .atan,
    g "atan2" (.binary .atan2), f "cos" .cos, f "exp" .exp, f "log" .log,
    g "pow" (.binary Number.power), f "sin" .sin, f "tan" .tan, f "trunc" Number.truncated,
    f "sign" Number.signOf, f "cosh" .cosh, f "sinh" .sinh, f "tanh" .tanh, f "acosh" .acosh,
    f "asinh" .asinh, f "atanh" .atanh, f "expm1" Number.exponentialLessOne,
    f "log1p" Number.logarithmOfOneMore, f "log2" .log2, f "log10" .log10, f "cbrt" .cbrt,
    g "hypot" .hypotenuse, f "fround" fun x => x.toFloat32.toFloat, g "imul" .imul,
    ⟨"clz32", 1, .mathematical .clz⟩]

/-- The numbers of mathematics that have a name. -/
def mathematicalConstants : List (String × Double) :=
  [("E", ⟨0x4005BF0A8B145769⟩), ("LN10", ⟨0x40026BB1BBB55516⟩), ("LN2", ⟨0x3FE62E42FEFA39EF⟩),
    ("LOG2E", ⟨0x3FF71547652B82FE⟩), ("LOG10E", ⟨0x3FDBCB7B1526E50E⟩),
    ("PI", ⟨0x400921FB54442D18⟩), ("SQRT1_2", ⟨0x3FE6A09E667F3BCD⟩),
    ("SQRT2", ⟨0x3FF6A09E667F3BCD⟩)]

def globalFunctions : List Provided :=
  let f (name : String) (arity : Nat) (f : GlobalFunction) : Provided := ⟨name, arity, .global f⟩
  [f "parseInt" 2 .parseInt, f "parseFloat" 1 .parseFloat, f "isNaN" 1 .isNaN,
    f "isFinite" 1 .isFinite, f "eval" 1 .evaluate]

/-- The variables that keep their value. -/
def constants : List (String × Value) :=
  [("Infinity", .number (.double .infinity)), ("NaN", .number (.double .nan)),
    ("undefined", .undefined)]

/-- The functions that make objects of other sorts, and the number of arguments that they say they
take. -/
def otherConstructors : List (String × Nat) :=
  [("AggregateError", 2), ("ArrayBuffer", 1), ("BigInt", 1), ("DataView", 1), ("Date", 7),
    ("FinalizationRegistry", 1), ("Float32Array", 3), ("Float64Array", 3), ("Int16Array", 3),
    ("Int32Array", 3), ("Int8Array", 3), ("Iterator", 0), ("Map", 0), ("Promise", 1), ("Proxy", 2),
    ("RegExp", 2), ("Set", 0), ("SharedArrayBuffer", 1), ("Symbol", 0), ("Uint16Array", 3),
    ("Uint32Array", 3), ("Uint8Array", 3), ("Uint8ClampedArray", 3), ("WeakMap", 0), ("WeakRef", 1),
    ("WeakSet", 0)]

/-- The functions that print. -/
def printers (wanted : Bool) : List Provided :=
  let f (name : String) (level : Level) : Provided := ⟨name, 0, .print level wanted⟩
  [f "debug" .debug, f "trace" .debug, f "log" .info, f "info" .info, f "warn" .warning,
    f "error" .error]

end Library

namespace Realm

/-- Gives an object a property. -/
def equip (r : Realm) (place : Nat) (name : String) (p : Property) : Realm :=
  r.change place (·.replace name p)

/-- Adds a function of the engine. -/
def provide (r : Realm) (name : String) (f : Provided) : Value × Realm :=
  let (place, r) := r.add (.ofProperties (.native f.native) (some Base.function.place)
    [("length", .constant (.ofNat f.arity)), ("name", .constant (.string name))])
  (.object place, r)

/-- Gives an object functions of the engine, each under its name. -/
def equipAll (r : Realm) (place : Nat) (fs : List Provided) : Realm :=
  fs.foldl (fun r f =>
    let (v, r) := r.provide f.name f
    r.equip place f.name (.unlisted v)) r

/-- Gives an object a property that is read by one function of the engine and written by another. -/
def equipAccessor (r : Realm) (place : Nat) (name : String) (getter setter : Native) : Realm :=
  let (getter, r) := r.provide ("get " ++ name) ⟨name, 0, getter⟩
  let (setter, r) := r.provide ("set " ++ name) ⟨name, 1, setter⟩
  r.equip place name ⟨.accessor getter setter, false, true⟩

/-- Adds a variable with a function that makes values, and the object that lies behind them. -/
def construct (r : Realm) (f : Provided) (behind : Nat) : Nat × Realm :=
  let place := r.objects.size
  let (v, r) := r.provide f.name f
  let r := r.equip place "prototype" (.fixed (.object behind))
  let r := r.equip behind "constructor" (.unlisted v)
  (place, r.equip Base.globals.place f.name (.unlisted v))

/-- Adds a variable with an object of the engine. -/
def define (r : Realm) (name : String) (properties : List (String × Property)) : Nat × Realm :=
  let (place, r) := r.add (.ofProperties (.library name) (some Base.object.place) properties)
  (place, r.equip Base.globals.place name (.unlisted (.object place)))

/-- The objects that the engine itself refers to, without their functions. -/
def bases : Array Object :=
  let root := Base.object.place
  let plain (behind : Option Nat) : Object := .ofProperties .plain behind []
  #[plain none,
    .ofProperties (.native (.functionMethod .nothing)) (some root)
      [("length", .constant (.ofNat 0)), ("name", .constant (.string ""))],
    .ofElements root #[], .ofBoxed (.string "") root, .ofBoxed (.ofNat 0) root,
    .ofBoxed (.bool false) root, .ofProperties (.library "global") (some root) [],
    plain (some root)] ++
  (ErrorKind.special.map fun _ => plain (some (Base.error .general).place)).toArray

/-- Adds the functions that make errors. -/
def equipErrors (r : Realm) : Realm :=
  let named (r : Realm) (k : ErrorKind) (arity : Nat) : Nat × Realm :=
    let behind := (Base.error k).place
    let (place, r) := r.construct ⟨k.name, arity, .constructor (.error k)⟩ behind
    let r := r.equip behind "name" (.unlisted (.string k.name))
    (place, r.equip behind "message" (.unlisted (.string "")))
  let (general, r) := named r .general 1
  let r := r.equipAll (Base.error .general).place [⟨"toString", 0, .errorMethod .text⟩]
  ErrorKind.special.foldl (fun r k =>
    let (place, r) := named r k 1
    r.change place ({ · with behind := some general })) r

/-- Adds the functions that make the objects of other sorts. -/
def equipOthers (r : Realm) : Realm :=
  Library.otherConstructors.foldl (fun r (name, arity) =>
    let (behind, r) := r.add (.ofProperties (.library name) (some Base.object.place) [])
    (r.construct ⟨name, arity, .constructor .other⟩ behind).2) r

/-- The realm that a page begins with. The lines that its scripts print are kept if they are
wanted. -/
def start (wanted : Bool) : Realm :=
  let r : Realm := ⟨bases, #[]⟩
  let globals := Base.globals.place
  let (place, r) := r.construct ⟨"Object", 1, .constructor .object⟩ Base.object.place
  let r := r.equipAll place Library.objectFunctions
  let r := r.equipAll Base.object.place Library.objectMethods
  let r := r.equipAccessor Base.object.place "__proto__" (.objectMethod .behind)
    (.objectMethod .putBehind)
  let (_, r) := r.construct ⟨"Function", 1, .constructor .function⟩ Base.function.place
  let r := r.equipAll Base.function.place Library.functionMethods
  let (refusing, r) := r.provide "" ⟨"", 0, .functionMethod .refuse⟩
  let r := ["caller", "arguments"].foldl (fun r name =>
    r.equip Base.function.place name ⟨.accessor refusing refusing, false, true⟩) r
  let r := r.equipErrors
  let (place, r) := r.construct ⟨"Array", 1, .constructor .array⟩ Base.array.place
  let r := r.equipAll place [⟨"isArray", 1, .array .isArray⟩, ⟨"of", 0, .array .ofElements⟩]
  let r := r.equipAll Base.array.place Library.arrayMethods
  let r := r.equipAll globals Library.globalFunctions
  let r := Library.constants.foldl (fun r (name, v) => r.equip globals name (.fixed v)) r
  let (_, r) := r.construct ⟨"Number", 1, .constructor .number⟩ Base.number.place
  let r := r.equipAll Base.number.place [⟨"toString", 1, .boxMethod .numberText⟩,
    ⟨"toLocaleString", 0, .boxMethod .numberText⟩, ⟨"valueOf", 0, .boxMethod .numberValue⟩]
  let (_, r) := r.construct ⟨"Boolean", 1, .constructor .bool⟩ Base.bool.place
  let r := r.equipAll Base.bool.place [⟨"toString", 0, .boxMethod .boolText⟩,
    ⟨"valueOf", 0, .boxMethod .boolValue⟩]
  let (_, r) := r.construct ⟨"String", 1, .constructor .string⟩ Base.string.place
  let r := r.equipAll Base.string.place [⟨"toString", 0, .boxMethod .stringText⟩,
    ⟨"valueOf", 0, .boxMethod .stringValue⟩]
  let (place, r) := r.define "Math" []
  let r := r.equipAll place Library.mathematicalFunctions
  let r := Library.mathematicalConstants.foldl (fun r (name, d) =>
    r.equip place name (.fixed (.number (.double d)))) r
  let (_, r) := r.define "Reflect" []
  let r := r.equip globals "globalThis" (.unlisted .globals)
  let r := r.equipOthers
  let (place, r) := r.define "JSON" []
  let r := r.equipAll place [⟨"stringify", 3, .write⟩]
  let (place, r) := r.add (.ofProperties .plain (some Base.object.place) [])
  let r := (Library.printers wanted).foldl (fun r f =>
    let (v, r) := r.provide "" f
    (r.withPrototype v).equip place f.name (.ofValue v)) r
  r.equip globals "console" (.ofValue (.object place))

end Realm

end ScriptProxy.Script
