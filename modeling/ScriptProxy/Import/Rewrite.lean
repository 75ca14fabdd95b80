import ScriptProxy.ClassFile.Basic
import ScriptProxy.Import.Proxy

/-!
# Replacing native methods

`rewrite` gives every method of a class that a registry binds a proxy body in place of a native one.
All bodies are made before any method is touched. Then method by method, in the order of the class,
a registrar is told of the binding and the body is put in.
-/

namespace ScriptProxy.Import

open ClassFile

/-- Takes note of a binding, so that its function exists before the first call. It may refuse. -/
abbrev Registrar (σ : Type) := Binding → EStateM Failure σ Unit

/-- A method that has got a proxy body. -/
structure Patched where
  method : MethodKey
  binding : Binding
  deriving DecidableEq, Repr

/-- A method to be given a proxy body, by its position in the class. -/
structure Site where
  index : Nat
  method : MethodKey
  binding : Binding
  isStatic : Bool

/-- The methods of a class that a registry binds. Every method's name has to be readable. -/
def sites (c : ClassFile) (registry : Registry) : Except Failure (List Site) :=
  c.methods.zipIdx.filterMapM fun (m, index) => do
    let name ← c.methodName m
    let method : MethodKey := ⟨name, ← c.methodDescriptor m⟩
    return (registry.get? method).map fun binding => ⟨index, method, binding, m.access.isStatic⟩

/-- Makes the bodies of all sites, and adds the name of the attribute that holds a body. -/
def prepare (config : Config) (ss : List Site) : Pool.Edit (List (Site × Code) × UInt16) := do
  let prepared ← ss.mapM fun s => return (s, ← Proxy.body config s.method s.binding s.isStatic)
  return (prepared, ← Pool.addText Code.attributeName)

/-- The method with the body in place of what it had before. -/
def withBody (pool : Pool) (codeName : UInt16) (body : Bytes) (m : Member) : Member :=
  { m with
    access := m.access.without .native
    attributes := ⟨codeName, body⟩ :: m.attributes.filter (!·.isNamed pool Code.attributeName) }

/-- A class that is being rewritten, and the state of the registrar. -/
structure Rewriting (σ : Type) where
  classFile : ClassFile
  registrar : σ

/-- Registers the binding of a site. -/
def tell {σ : Type} (register : Registrar σ) (b : Binding) : EStateM Failure (Rewriting σ) Unit :=
  fun r =>
    match register b r.registrar with
    | .ok _ s => .ok () { r with registrar := s }
    | .error f s => .error f { r with registrar := s }

/-- Registers the binding of a site and puts its body in. -/
def install {σ : Type} (register : Registrar σ) (codeName : UInt16) (s : Site) (code : Code) :
    EStateM Failure (Rewriting σ) Patched := do
  tell register s.binding
  match code.toBytes with
  | .error f => throw f
  | .ok body =>
    modify fun r =>
      let c := r.classFile
      { r with classFile :=
          { c with methods := c.methods.modify s.index (withBody c.pool codeName body) } }
    return ⟨s.method, s.binding⟩

/-- Replaces the methods that a registry binds. A failure leaves the class as it was, but for
constants added to its pool, until the first binding is registered. -/
def rewrite {σ : Type} (config : Config) (register : Registrar σ) (registry : Registry) :
    EStateM Failure (Rewriting σ) (List Patched) := fun r =>
  match sites r.classFile registry with
  | .error f => .error f r
  | .ok ss =>
    match prepare config ss r.classFile.pool with
    | .error f pool => .error f { r with classFile := { r.classFile with pool } }
    | .ok (prepared, codeName) pool =>
      let installed : EStateM Failure (Rewriting σ) (List Patched) :=
        prepared.mapM fun (s, code) => install register codeName s code
      installed { r with classFile := { r.classFile with pool } }

end ScriptProxy.Import
