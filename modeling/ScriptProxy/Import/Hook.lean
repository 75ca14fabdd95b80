import ScriptProxy.Import.Rewrite
import ScriptProxy.Import.Scan

/-!
# The class load hook

A hook is shown every class before it is defined. It gives proxy bodies to the imports of the class
and notes in its ledger what it replaced. A class without imports goes through untouched.
-/

namespace ScriptProxy.Import

open ClassFile

/-- The methods replaced in each class, by the name under which the class was shown. -/
abbrev Ledger := OrderedMap String (List Patched)

/-- A hook, with the state of the registrar that it tells of bindings. -/
structure Hook (σ : Type) where
  config : Config
  registrar : σ
  ledger : Ledger

/-- What becomes of a class. -/
inductive Transformed where
  | unchanged (bytes : Bytes)
  | rewritten (bytes : Bytes)
  deriving DecidableEq, Repr

/-- The bytes to define the class with. -/
def Transformed.bytes : Transformed → Bytes
  | unchanged bs => bs
  | rewritten bs => bs

namespace Hook

variable {σ : Type}

def new (config : Config) (registrar : σ) : Hook σ := ⟨config, registrar, OrderedMap.empty⟩

/-- What was replaced in a class, if anything was. -/
def patched? (h : Hook σ) (name : String) : Option (List Patched) := h.ledger.get? name

/-- The names of the classes in the ledger, in ascending order. -/
def patchedClasses (h : Hook σ) : List String := h.ledger.keys.mergeSort fun a b => !(b < a)

/-- Transforms a class that was shown under a name. -/
def transform (register : Registrar σ) (name : String) (bytes : Bytes) :
    EStateM Failure (Hook σ) Transformed := fun h =>
  match (do
    let c ← ClassFile.ofBytes bytes
    return (c, ← scan c h.config.marker) : Except Failure (ClassFile × Findings)) with
  | .error f => .error f h
  | .ok (c, found) =>
    if found.registry.isEmpty then .ok (.unchanged bytes) h
    else
      match rewrite h.config register found.registry ⟨c, h.registrar⟩ with
      | .error f r => .error f { h with registrar := r.registrar }
      | .ok patched r =>
        let h := { h with registrar := r.registrar }
        match r.classFile.toBytes with
        | .error f => .error f h
        | .ok out => .ok (.rewritten out) { h with ledger := h.ledger.insert name patched }

/-- Transforms classes one after the other. A class that fails does not stop the ones after it. -/
def transformAll (register : Registrar σ) :
    List (String × Bytes) → Hook σ → List (Except Failure Transformed) × Hook σ
  | [], h => ([], h)
  | (name, bytes) :: rest, h =>
    let (first, h) := match transform register name bytes h with
      | .ok t h => (.ok t, h)
      | .error f h => (.error f, h)
    let (later, h) := transformAll register rest h
    (first :: later, h)

def describe (h : Hook σ) : String :=
  "ClassLoadHook \x7b import_annotation: " ++ Text.quoted h.config.marker ++ ", patched_classes: "
    ++ toString h.ledger.size ++ " \x7d"

end Hook

end ScriptProxy.Import
