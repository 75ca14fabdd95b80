import Mathlib.Algebra.GroupWithZero.Nat
import ScriptProxy.Import.Proxy
import ScriptProxy.Proofs.Bytecode.Emission

/-!
# What proxy bodies consist of

`bodyActions` lists what the instructions of a proxy do, one after the other. `body_eq_ok` says that a
body that is made consists of instructions for just these actions, with their constants in the pool.
-/

namespace ScriptProxy.Import.Proxy

open ClassFile Bytecode Outcome

def marshalActions (c : Config) : ValueKind → List Action
  | .primitive p => [.call false (boxing p)]
  | .object name => if c.isStringWrapper name then [.null, .call false toText] else []
  | .array _ => []

/-- The actions for one parameter. -/
def passActions (c : Config) (k : ValueKind) (position slot : Nat) : List Action :=
  .duplicate :: .int (Int32.ofNat position) :: .load (category k) slot ::
    (marshalActions c k ++ [.store])

def passAllActions (c : Config) : List ValueKind → (position slot : Nat) → List Action
  | [], _, _ => []
  | k :: ks, position, slot =>
    passActions c k position slot ++ passAllActions c ks (position + 1) (slot + k.slots)

def unmarshalActions : ValueKind → List Action
  | .primitive p =>
    .cast (unboxing p).owner :: .call true (unboxing p) :: Emitter.narrowing (.primitive p)
  | .object name => if name = objectClass then [] else [.cast name]
  | .array component => [.cast (ValueKind.array component).descriptor]

def resultActions : ReturnKind → List Action
  | .void => [.drop 1, .giveBack none]
  | .value k => unmarshalActions k ++ [.giveBack (some (category k))]

def bodyActions (c : Config) (b : Binding) (t : MethodType) (firstSlot : Nat) : List Action :=
  .text b.module :: .text b.name :: .int (Int32.ofNat t.parameters.length) ::
    .newArray objectClass ::
      (passAllActions c t.parameters 0 firstSlot ++ .call false (bridge c) :: resultActions t.result)

/-! ### Emission -/

open Emitter

theorem emits_marshal (c : Config) (k : ValueKind) : Emits (marshal c k) (marshalActions c k) := by
  cases k with
  | primitive p => exact emits_invokestatic _
  | object name =>
    rw [marshal, marshalActions]
    split
    · exact emits_aconstNull.bind (emits_invokestatic _)
    · exact Emits.pure
  | array component => exact Emits.pure

/-- The number of slots that values of the kinds take up together. -/
def slotSum (ks : List ValueKind) : Nat := (ks.map ValueKind.slots).sum

@[simp] theorem slotSum_cons (k : ValueKind) (ks : List ValueKind) :
    slotSum (k :: ks) = k.slots + slotSum ks := by
  simp [slotSum]

theorem parameterSlots_eq (t : MethodType) : t.parameterSlots = slotSum t.parameters := by
  unfold MethodType.parameterSlots slotSum
  rw [← List.foldl_map, ← List.sum_eq_foldl]

theorem emits_passArguments (c : Config) (ks : List ValueKind) (position slot : Nat)
    (h : slot + slotSum ks ≤ 65535) :
    Emits (passArguments c ks position slot) (passAllActions c ks position slot) := by
  induction ks generalizing position slot with
  | nil => exact Emits.pure
  | cons k ks ih =>
    rw [slotSum_cons] at h
    have hload := emits_load k (UInt16.ofNat slot)
    rw [UInt16.toNat_ofNat', Nat.mod_eq_of_lt (by omega)] at hload
    have hall := emits_dup.bind ((emits_pushInt (Int32.ofNat position)).bind (hload.bind
      ((emits_marshal c k).bind (emits_aastore.bind (ih (position + 1) (slot + k.slots) (by omega))))))
    rw [passArguments, passAllActions, passActions]
    simpa using hall

theorem emits_unmarshal (k : ValueKind) : Emits (unmarshal k) (unmarshalActions k) := by
  cases k with
  | primitive p =>
    exact (emits_checkcast _).bind ((emits_invokevirtual _).bind (emits_narrow _))
  | object name =>
    rw [unmarshal, unmarshalActions]
    split
    · exact Emits.pure
    · exact emits_checkcast name
  | array component => exact emits_checkcast _

theorem emits_giveBack (r : ReturnKind) : Emits (giveBack r) (resultActions r) := by
  cases r with
  | void => exact (emits_pop 1).bind (emits_returnValue .void)
  | value k => exact (emits_unmarshal k).bind (emits_returnValue (.value k))

theorem emits_body (c : Config) (b : Binding) (t : MethodType) (firstSlot : Nat)
    (h : firstSlot + slotSum t.parameters ≤ 65535) :
    Emits (emitBody c b t firstSlot) (bodyActions c b t firstSlot) := by
  have hall := (emits_ldcString b.module).bind ((emits_ldcString b.name).bind
    ((emits_pushInt (Int32.ofNat t.parameters.length)).bind ((emits_anewarray objectClass).bind
      ((emits_passArguments c t.parameters 0 firstSlot h).bind
        ((emits_invokestatic (bridge c)).bind (emits_giveBack t.result))))))
  rw [emitBody, bodyActions]
  simpa using hall

/-- What a body is when it is made. -/
structure IsBody (c : Config) (b : Binding) (isStatic : Bool) (t : MethodType) (pool : Pool)
    (code : Code) (us : List Unplaced) : Prop where
  slots_le : receiverSlots isStatic + slotSum t.parameters ≤ maxSlots
  maxLocals : code.maxLocals.toNat = receiverSlots isStatic + slotSum t.parameters
  instructions : code.instructions = assemble us
  sized : ∀ u ∈ us, u.Sized
  actions : List.Forall₂ (fun u a => u.action? pool = some a) us
    (bodyActions c b t (receiverSlots isStatic))

theorem body_eq_ok {c : Config} {method : MethodKey} {b : Binding} {isStatic : Bool}
    {pool pool' : Pool} {code : Code} (hp : pool.WellFormed)
    (h : body c method b isStatic pool = .ok code pool') :
    pool'.WellFormed ∧ pool.Extends pool' ∧ ∃ t us,
      MethodType.ofDescriptor method.descriptor = .ok t ∧ IsBody c b isStatic t pool' code us := by
  unfold body at h
  cases ht : MethodType.ofDescriptor method.descriptor with
  | error d =>
    rw [ht] at h
    cases h
  | ok t =>
    rw [ht] at h
    dsimp only at h
    rw [parameterSlots_eq] at h
    split at h
    · cases h
    next hslots =>
    have hslots : receiverSlots isStatic + slotSum t.parameters ≤ 255 := Nat.not_lt.1 hslots
    split at h
    · cases h
    next e he =>
    have hemit := emits_body c b t (receiverSlots isStatic) (by omega) _ e hp he
    obtain ⟨us, hus, hcode, hact⟩ := hemit.code
    split at h
    · next code' hfinish =>
      unfold finish at hfinish
      split at hfinish
      · cases hfinish
      · cases hfinish
        cases h
        refine ⟨hemit.wellFormed, hemit.grown, t, us, rfl, hslots, ?_, hcode, hus, hact⟩
        exact Nat.mod_eq_of_lt (by omega)
    · cases h

end ScriptProxy.Import.Proxy
