import ScriptProxy.Script.Library
import ScriptProxy.Script.Library.Array
import ScriptProxy.Script.Library.Constructor
import ScriptProxy.Script.Library.Function
import ScriptProxy.Script.Library.Number
import ScriptProxy.Script.Library.Object
import ScriptProxy.Script.Reading

/-!
# Running scripts

`Evaluation.script` evaluates the text of a script in a realm, and `Evaluation.call` calls a
function. A bound on the depth of evaluation takes the place of the engine's stack: where it is
reached, an error is thrown. `engine` has both with the bound that is in force.

The variables of the page are the properties of an object of their own. A script declares all of its
variables before it does anything else.
-/

namespace ScriptProxy.Script

namespace Evaluation

/-- How a list of statements has ended so far. -/
inductive Progress where
  /-- It goes on in a scope, and the last expression had this value. -/
  | reached (scope : Scope) (last : Value)
  | returned (v : Value)

/-- The value of a literal. -/
def literal : Literal → Value
  | .null => .null
  | .bool b => .bool b
  | .number n => .number n
  | .string s => .string s

/-- Pairs the names of parameters with arguments. A parameter without one is `undefined`. -/
def paired : List String → List Value → List (String × Value)
  | [], _ => []
  | n :: ns, vs => (n, vs.headD .undefined) :: paired ns vs.tail

/-- What an operator makes of two values that are no objects, or are only compared. -/
def operate : Operator → Value → Value → Value
  | .add, a, b =>
    match a, b with
    | .string _, _ | _, .string _ => .string (a.primitiveText ++ b.primitiveText)
    | _, _ => .number (a.primitiveNumber.add b.primitiveNumber)
  | .subtract, a, b => .number (a.primitiveNumber.subtract b.primitiveNumber)
  | .multiply, a, b => .number (a.primitiveNumber.multiply b.primitiveNumber)
  | .identical, a, b => .bool (a.identical b)

/-- Makes the object that has the arguments of a function. -/
def makeArguments (vs : List Value) : Evaluation Value :=
  add ⟨.arguments, some Base.object.place, true, vs.toArray,
    ⟨[("length", .unlisted (.ofNat vs.length))]⟩⟩

/-- Makes a function. -/
def makeFunction (name : String) (f : Closure) : Evaluation Value := do
  let v ← add (.ofProperties (.closure f) (some Base.function.place)
    [("length", .constant (.ofNat f.parameters.names.length)), ("name", .constant (.string name))])
  unless f.bound do modify (·.withPrototype v)
  return v

/-- Declares a variable of the page, which is `undefined` if it is new. -/
def declareVariable (name : String) : Evaluation Unit := do
  if ((← get).own? .globals name).isNone then
    change .globals (·.add name ⟨.value .undefined true, true, false⟩)

/-- The scope of the page. -/
def pageScope : Scope := ⟨true, .globals, none, []⟩

/-- Prints the texts of values as a line. -/
def print (e : Evaluator) (level : Level) (vs : List Value) : Evaluation Unit := do
  let texts ← makeTexts (← vs.mapM e.printed)
  match ← e.invoke texts "join" [.string " "] with
  | .string line => modify fun r => { r with printed := r.printed.push ⟨level, line⟩ }
  | v => raiseConversion v "string"

/-- Calls a function of the engine. -/
def native (e : Evaluator) (f : Native) (self : Value) (vs : List Value) : Evaluation Value := do
  match f with
  | .constructor c => c.run e vs
  | .objectMethod f => f.run e self vs
  | .object f => f.run e vs
  | .functionMethod f => f.run e self vs
  | .errorMethod f => f.run e self
  | .array f => f.run vs
  | .arrayMethod f => f.run e self vs
  | .boxMethod f => f.run self
  | .mathematical f => f.run e vs
  | .global f => f.run e vs
  | .write =>
    match ← e.written? (vs.getD 0 .undefined) with
    | some s => return .string s
    | none => return .undefined
  | .print level wanted =>
    if wanted then print e level vs
    return .undefined

mutual
/-- The value of an expression. -/
def value : (depth : Nat) → Scope → Expression → Evaluation Value
  | 0, _, _ => tooDeep
  | depth + 1, scope, e => do
    let engine : Evaluator := ⟨call depth, script depth⟩
    match e with
    | .literal l => return literal l
    | .name n =>
      match ← lookup? depth scope n with
      | some v => return v
      | none => raise .reference s!"{n} is not defined"
    | .self => return scope.self
    | .array es => makeArray (← es.mapM (value depth scope))
    | .object ps =>
      let o ← makeObject []
      ps.forM fun (n, e) => do
        let v ← value depth scope e
        if n = "__proto__" then if v.isObject || v = .null then putBehind o v else return
        else engine.define o n (.ofProperty (.ofValue v))
      return o
    | .function n ps bound body source => makeFunction n ⟨ps, bound, body, source, scope⟩
    | .member o n => engine.read (← value depth scope o) n
    | .call f args =>
      let (self, f) ← match f with
        | .member o n => do
          let self ← value depth scope o
          pure (self, ← engine.read self n)
        | f => do pure (Value.undefined, ← value depth scope f)
      engine.call f self (← args.mapM (value depth scope))
    | .construct f args =>
      let f ← value depth scope f
      construct depth f (← args.mapM (value depth scope))
    | .negate e => return .number (← engine.number (← value depth scope e)).negate
    | .typeof (.name n) =>
      let v := (← lookup? depth scope n).getD .undefined
      return .string ((← get).typeName v)
    | .typeof e =>
      let v ← value depth scope e
      return .string ((← get).typeName v)
    | .binary .identical a b =>
      let a ← value depth scope a
      return operate .identical a (← value depth scope b)
    | .binary o a b =>
      let a ← value depth scope a
      let b ← value depth scope b
      let a ← engine.primitive false a
      return operate o a (← engine.primitive false b)
    | .assign n e =>
      let v ← value depth scope e
      setVariable depth scope n v
      return v
    | .assignMember o n e =>
      let o ← value depth scope o
      let v ← value depth scope e
      engine.write o n v
      return v

/-- What a name stands for: a parameter, or a variable of the page. -/
def lookup? : (depth : Nat) → Scope → (name : String) → Evaluation (Option Value)
  | 0, _, _ => tooDeep
  | depth + 1, scope, name => do
    match scope.names.lookup name, scope.arguments with
    | some v, _ => return v
    | none, arguments =>
      match arguments, name with
      | some vs, "arguments" => some <$> makeArguments vs
      | _, name =>
        match (← get).nearest? .globals name with
        | some p => some <$> Evaluator.contentOf ⟨call depth, script depth⟩ .globals p
        | none => return none

/-- Gives a variable a new value. -/
def setVariable : (depth : Nat) → Scope → (name : String) → Value → Evaluation Unit
  | 0, _, _, _ => tooDeep
  | depth + 1, scope, name, v => do
    if (scope.names.lookup name).isSome then raiseType s!"'{name}' is read-only"
    else if !(← has .globals name) then raise .reference s!"{name} is not defined"
    else Evaluator.write ⟨call depth, script depth⟩ .globals name v

/-- Calls a function. -/
def call : (depth : Nat) → (f self : Value) → List Value → Evaluation Value
  | 0, _, _, _ => tooDeep
  | depth + 1, f, self, vs => do
    match (← get).kind? f with
    | some (.native f) => native ⟨call depth, script depth⟩ f self vs
    | some (.bound f self first) => call depth f self (first ++ vs)
    | some (.closure c) =>
      let named := paired c.parameters.names vs
      let rest ← match c.parameters.rest with
        | some n => do pure [(n, ← makeArray (vs.drop c.parameters.names.length))]
        | none => pure []
      let names := named ++ rest ++ c.scope.names
      let scope : Scope :=
        if c.bound then { c.scope with ofPage := false, names := names }
        else ⟨false, self, some vs, names⟩
      match ← c.body.foldlM (step depth) (.reached scope .undefined) with
      | .returned v => return v
      | .reached _ _ => return .undefined
    | _ => raiseType "not a function"

/-- Makes an object with a function. -/
def construct : (depth : Nat) → (f : Value) → List Value → Evaluation Value
  | 0, _, _ => tooDeep
  | depth + 1, f, vs => do
    match (← get).kind? f with
    | some (.native (.constructor c)) => toObject (← c.run ⟨call depth, script depth⟩ vs)
    | some (.closure c) =>
      if c.bound then raiseType "not a constructor"
      let behind ← Evaluator.read ⟨call depth, script depth⟩ f "prototype"
      let o ← makeObject []
      if behind.isObject then putBehind o behind
      let v ← call depth f o vs
      return if v.isObject then v else o
    | some (.bound f _ first) => construct depth f (first ++ vs)
    | _ => raiseType "not a constructor"

/-- Executes a statement, unless those before it have returned. -/
def step : (depth : Nat) → Progress → Statement → Evaluation Progress
  | 0, _, _ => tooDeep
  | _ + 1, .returned v, _ => return .returned v
  | depth + 1, .reached scope last, s => do
    match s with
    | .declare n none =>
      if scope.ofPage then return .reached scope last
      else return .reached { scope with names := (n, .undefined) :: scope.names } last
    | .declare n (some e) =>
      let v ← value depth scope e
      if scope.ofPage then
        setVariable depth scope n v
        return .reached scope last
      else return .reached { scope with names := (n, v) :: scope.names } last
    | .evaluate e => return .reached scope (← value depth scope e)
    | .throw e => throw (← value depth scope e)
    | .giveBack none => return .returned .undefined
    | .giveBack (some e) => return .returned (← value depth scope e)

/-- The value of the last expression of a script. -/
def script : (depth : Nat) → (text : String) → Evaluation Value
  | 0, _ => tooDeep
  | depth + 1, text => do
    match program text with
    | .error message => raise .reading message
    | .ok ss =>
      ss.forM fun s => match s with
        | .declare n _ => declareVariable n
        | _ => return
      match ← ss.foldlM (step depth) (.reached pageScope .undefined) with
      | .reached _ v | .returned v => return v
end

end Evaluation

/-- How deep an evaluation can go. -/
def stackDepth : Nat := 5000

/-- How scripts are evaluated. -/
def engine : Evaluator := ⟨Evaluation.call stackDepth, Evaluation.script stackDepth⟩

end ScriptProxy.Script
