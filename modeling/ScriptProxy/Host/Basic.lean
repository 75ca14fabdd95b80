import ScriptProxy.Host.Conversion
import ScriptProxy.Import.Binding
import ScriptProxy.Import.Config
import ScriptProxy.Page.Script
import ScriptProxy.Platform
import ScriptProxy.Text.Identifier

/-!
# Script hosts

A host runs the scripts of one page at a time. `load` replaces the page, `register` installs a
function in a module of it, and `invoke` calls one. The modules are properties of one object, the
namespace, which the page may define and which is made if it does not.

Scripts are evaluated by the engine of the host's platform, whatever that is. A value of the engine
comes out by `leave`: arrays are copied element by element, and any other object leaves as a new handle.

A page that cannot be loaded leaves the host without one, and a new page makes the handles of
the objects before it point nowhere.
-/

namespace ScriptProxy

open Exchange (Handle HandleTable)
open Import (Binding Config)
open Script (Evaluation Evaluator Line Realm)

structure Host where
  config : Config
  platform : Platform
  page : Option Realm
  handles : HandleTable Nat
  printed : List Line

namespace Host

/-- A host without a page. Its number tells its handles from those of other hosts. -/
def start (config : Config) (platform : Platform) (number : Nat) : Host :=
  ⟨config, platform, none, .start number, []⟩

def isLoaded (h : Host) : Bool := h.page.isSome

/-- How many pages have been loaded, or failed to load. -/
def generation (h : Host) : Nat := h.handles.generation

def describe (h : Host) : String :=
  let loaded := if h.isLoaded then "true" else "false"
  s!"ScriptHost \x7b loaded: {loaded}, generation: {h.generation}, namespace: " ++
    Text.quoted h.config.namespaceName ++ " \x7d"

/-- The host with what has become of its page. The lines that were printed go to the host. -/
def withRealm (h : Host) (r : Realm) : Host :=
  { h with page := some { r with printed := #[] }, printed := h.printed ++ r.printed.toList }

/-- Reports that handles are held no more. -/
def release (h : Host) (held : List Handle) : Host :=
  { h with handles := held.foldl HandleTable.release h.handles }

/-- The failure that a thrown value stands for. -/
def failureOf (e : Evaluator) (v : Script.Value) (r : Realm) : Failure × Realm :=
  match e.messageOf v r with
  | .ok message r => (.script message, r)
  | .error _ r => (.script "", r)

/-- Evaluates something on the page. -/
def evaluating {α : Type} (m : Evaluator → Evaluation α) : EStateM Failure Host α := fun h =>
  match h.page with
  | none => .error (.boot .noPage) h
  | some r =>
    match m h.platform.engine r with
    | .ok a r => .ok a (h.withRealm r)
    | .error v r =>
      let (f, r) := failureOf h.platform.engine v r
      .error f (h.withRealm r)

/-- A new handle for an object. -/
def handOut (place : Nat) : EStateM Failure Host Exchange.Value := fun h =>
  match h.handles.insert place with
  | .ok (handle, t) => .ok (.object handle) { h with handles := t }
  | .error f => .error f h

/-- The elements of an array as values outside. If one of them cannot leave, the handles of the
others are released. -/
def leaveElements (leave : Script.Value → EStateM Failure Host Exchange.Value) (v : Script.Value) :
    (numbers : List Nat) → EStateM Failure Host (List Exchange.Value)
  | [] => return []
  | i :: rest => do
    let w ← leave (← evaluating (·.element v i))
    fun h =>
      match leaveElements leave v rest h with
      | .ok ws h => .ok (w :: ws) h
      | .error f h => .error f (h.release w.handles)

/-- Whether an object is an array of the page. -/
def hasArray (h : Host) (place : Nat) : Bool := h.page.any (·.isArray (.object place))

/-- A value of the engine as a value outside. The depth bounds how deep arrays stand in each other:
behind it, the stack overflows. -/
def leaveWithin : (depth : Nat) → Script.Value → EStateM Failure Host Exchange.Value
  | _, .undefined => return .undefined
  | _, .null => return .null
  | _, .bool b => return .bool b
  | _, .number n => return leaveNumber n
  | _, .string s => return .string s
  | 0, .object place => do
    if (← get).hasArray place then throw .stackOverflow else handOut place
  | depth + 1, .object place => do
    if (← get).hasArray place then
      let n ← evaluating (·.lengthOf (.object place))
      return .array (← leaveElements (leaveWithin depth) (.object place) (List.range n))
    else handOut place

/-- Takes a value out of the engine. Arrays that are there stand in each other no deeper than there
are objects, unless one stands in itself. The rest of the depth is for those that are only made when
an element is read. -/
def leave (v : Script.Value) : EStateM Failure Host Exchange.Value := do
  leaveWithin (((← get).page.map (·.objects.size)).getD 0 + Script.stackDepth) v

/-- Takes values into the engine. -/
def entering (vs : List Exchange.Value) : EStateM Failure Host (List Script.Value) := do
  let t := (← get).handles
  evaluating fun _ => enterAll t vs

section Evaluations

variable (e : Evaluator) (namespaceName : String)

/-- The variable of a name. -/
def pageVariable (name : String) : Evaluation Script.Value := e.read .globals name

/-- Runs the scripts of a page in order, and makes the namespace object unless they have made
one. -/
def opening (scripts : List Page.Script) : Evaluation Unit := do
  for s in scripts do
    let _ ← e.run s.source
  unless (← pageVariable e namespaceName).isObject do
    let _ ← e.run ("var " ++ namespaceName ++ " = \x7b\x7d;")

/-- The object of a module in the namespace. It is made if there is none. A module whose functions
come without a script is the variable of its name, if that is an object. -/
def module (b : Binding) : Evaluation Script.Value := do
  let space ← pageVariable e namespaceName
  if !space.isObject then Evaluation.raiseConversion space "object"
  let found ← e.read space b.module
  if found.isObject then return found
  let global ← pageVariable e b.module
  let m ← if global.isObject && b.script.isNone then pure global else Evaluation.makeObject []
  e.write space b.module m
  return m

/-- Puts the function of a binding into its module. Its script is an expression, and the function
replaces the one before it. -/
def installing (b : Binding) : Evaluation Unit := do
  let m ← module e namespaceName b
  match b.script with
  | none => return
  | some script =>
    let f ← e.run ("(" ++ script ++ "\n)")
    e.write m b.name f

/-- The function of a module, with the object of the module. The module is that of the namespace, or
the variable of its name. -/
def function? (module name : String) : Evaluation (Option (Script.Value × Script.Value)) := do
  let space ← pageVariable e namespaceName
  let found ← if space.isObject then e.read space module else pure .undefined
  let m ← if found.isObject then pure found else pageVariable e module
  if !m.isObject then return none
  let f ← e.read m name
  return if (← get).isFunction f then some (m, f) else none

end Evaluations

/-- Replaces the page. The host is without a page if this fails, unless it is for the name of the
namespace: then nothing is changed. -/
def load (page : Page.Source) : EStateM Failure Host Unit := do
  let h ← get
  let namespaceName := h.config.namespaceName
  if !Text.isIdentifier namespaceName then throw (.boot (.badNamespace namespaceName))
  set { h with page := none, handles := h.handles.reset }
  match page.scripts h.platform.files with
  | .error f => throw f
  | .ok scripts =>
    set { h with page := some (.start h.config.forwardConsole), handles := h.handles.reset }
    try evaluating (opening · namespaceName scripts)
    catch f =>
      modify fun h => { h with page := none }
      throw f

/-- Installs the function of a binding. -/
def register (b : Binding) : EStateM Failure Host Unit := do
  let namespaceName := (← get).config.namespaceName
  evaluating (installing · namespaceName b)

/-- Calls a function with the object of its module as `this`. -/
def invoke (module name : String) (args : List Exchange.Value) :
    EStateM Failure Host Exchange.Value := do
  let namespaceName := (← get).config.namespaceName
  match ← evaluating (function? · namespaceName module name) with
  | none => throw (.unknownFunction module name)
  | some (m, f) =>
    let vs ← entering args
    leave (← evaluating (·.call f m vs))

/-- Evaluates a text on the page. -/
def evaluate (text : String) : EStateM Failure Host Exchange.Value := do
  leave (← evaluating (·.run text))

/-- How many objects are kept for handles. -/
def liveHandles : EStateM Failure Host Nat := do
  modify fun h => { h with handles := h.handles.sweep }
  return (← get).handles.occupied

end Host

end ScriptProxy
