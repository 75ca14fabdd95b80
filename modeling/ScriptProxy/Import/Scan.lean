import ScriptProxy.ClassFile.Annotation
import ScriptProxy.ClassFile.Basic
import ScriptProxy.Import.Binding
import ScriptProxy.Text.Identifier

/-!
# Finding imports

A native method is an import if an annotation of the marked type is among its annotations, those
that are not kept at run time first. The annotation may name the module, the function and its
script. A method whose annotation cannot be understood is reported and left out.
-/

namespace ScriptProxy.Import

open ClassFile

/-- Why the annotation of a method cannot be understood. -/
inductive Problem where
  | unreadableAnnotations (place : String) (failure : Failure)
  | unreadableType (failure : Failure)
  | unreadableElementName (failure : Failure)
  | notString (element : String) (failure : Failure)
  | badModule (module : String)
  | badName (name : String)

open Text (quoted) in
def Problem.message : Problem → String
  | unreadableAnnotations place f => s!"unreadable {place}: {f.describe none}"
  | unreadableType f => s!"unreadable annotation type: {f.describe none}"
  | unreadableElementName f => s!"unreadable element name: {f.describe none}"
  | notString element f => "element \x27" ++ element ++ "\x27 is not a string: " ++ f.describe none
  | badModule module => s!"module {quoted module} is not a valid script identifier"
  | badName name => s!"name {quoted name} is not a valid script identifier"

/-- A method that is left out, and why. -/
structure Diagnostic where
  className : String
  method : MethodKey
  problem : Problem

def Diagnostic.describe (d : Diagnostic) : String :=
  d.className ++ "." ++ d.method.describe ++ ": " ++ d.problem.message

/-- What is found in a class. -/
structure Findings where
  registry : Registry
  diagnostics : List Diagnostic

/-- The attributes that are searched, in order. -/
def searchedAttributes : List String :=
  ["RuntimeInvisibleAnnotations", "RuntimeVisibleAnnotations"]

/-- Names a failure as a problem. -/
def blame {α : Type} (problem : Failure → Problem) : Except Failure α → Except Problem α
  | .ok a => .ok a
  | .error f => .error (problem f)

/-- The first annotation of the marked type. Types behind it are not looked at. -/
def findMarked (pool : Pool) (marker : String) :
    List Annotation → Except Problem (Option Annotation)
  | [] => .ok none
  | a :: rest => do
    if (← blame .unreadableType (a.typeDescriptor pool)) = marker then return some a
    else findMarked pool marker rest

/-- The first annotation of the marked type in the attributes of the given names. -/
def findIn (pool : Pool) (marker : String) (m : Member) :
    List String → Except Problem (Option Annotation)
  | [] => .ok none
  | name :: names =>
    match m.attribute? pool name with
    | none => findIn pool marker m names
    | some listing => do
      let listed ← blame (.unreadableAnnotations name) ( Annotation.listOfBytes listing.body)
      match ← findMarked pool marker listed with
      | some a => return some a
      | none => findIn pool marker m names

/-- What the elements of an annotation say, where they say something. -/
structure Declared where
  module : String
  name : String
  script : Option String

/-- Takes note of one element. Elements of other names are passed over. -/
def Declared.note (pool : Pool) (d : Declared) (element : UInt16 × ElementValue) :
    Except Problem Declared := do
  let name ← blame .unreadableElementName (pool.text element.1)
  let text := blame (.notString name) (element.2.asString pool)
  if name = "module" then return { d with module := ← text }
  else if name = "name" then return { d with name := ← text }
  else if name = "js" ∨ name = "script" then return { d with script := some (← text) }
  else return d

/-- The binding that a method's annotation declares, if it has one of the marked type. What it does
not say is taken from the names of the class and of the method. -/
def declaredBinding (pool : Pool) (marker defaultModule methodName : String) (m : Member) :
    Except Problem (Option Binding) := do
  match ← findIn pool marker m searchedAttributes with
  | none => return none
  | some a =>
    let d ← a.elements.foldlM (Declared.note pool) ⟨defaultModule, methodName, none⟩
    if !Text.isIdentifier d.module then throw (.badModule d.module)
    else if !Text.isIdentifier d.name then throw (.badName d.name)
    else return some (.of d.module d.name d.script)

/-- Adds what is found at one method. -/
def scanMethod (c : ClassFile) (className marker : String) (found : Findings) (m : Member) :
    Except Failure Findings := do
  let name ← c.methodName m
  let key : MethodKey := ⟨name, ← c.methodDescriptor m⟩
  match declaredBinding c.pool marker (simpleNameOf className) name m with
  | .ok (some b) => return { found with registry := found.registry.insert key b }
  | .ok none => return found
  | .error problem =>
    return { found with diagnostics := found.diagnostics ++ [⟨className, key, problem⟩] }

/-- The imports of a class. The names of its native methods have to be readable. -/
def scan (c : ClassFile) (marker : String) : Except Failure Findings := do
  let className ← c.className
  (c.methods.filter (·.access.isNative)).foldlM (scanMethod c className marker)
    ⟨.empty, []⟩

end ScriptProxy.Import
