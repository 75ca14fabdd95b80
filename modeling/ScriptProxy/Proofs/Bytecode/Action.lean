import ScriptProxy.Bytecode.Emitter
import ScriptProxy.Proofs.Bytecode.Assembly
import ScriptProxy.Proofs.ClassFile.PoolShape

/-!
# What instructions do

`Unplaced.action?` tells what an instruction of a straight-line method body does, with its constants
looked up in a pool. It goes by the bytes of the instruction set, not by the emitters of this library.
An instruction that does something keeps doing it when the pool grows.
-/

namespace ScriptProxy.Bytecode

open ClassFile Outcome

/-- The effect of an instruction, in terms of texts and names. -/
inductive Action where
  | null
  | int (v : Int32)
  | text (s : String)
  /-- Pushes the local variable of a category that begins at a slot. -/
  | load (category : Category) (slot : Nat)
  /-- Stores an object into an array. -/
  | store
  | duplicate
  | drop (slots : Nat)
  /-- Cuts an integer down to the kind. -/
  | cut (kind : Primitive)
  | newArray (component : String)
  | cast (name : String)
  | call (onReceiver : Bool) (method : MethodSymbol)
  | giveBack (category : Option Category)
  deriving DecidableEq, Repr

/-- What the bytes of an instruction say, before constants are looked up. -/
inductive Meaning where
  | plain (action : Action)
  | constant (index : UInt16)
  | newArray (index : UInt16)
  | cast (index : UInt16)
  | call (onReceiver : Bool) (index : UInt16)
  deriving DecidableEq, Repr

namespace Meaning

/-- The action with its constant looked up, if that is of the kind that is asked for. -/
def resolve? (p : Pool) : Meaning → Option Action
  | plain a => some a
  | constant i =>
    match p.get i with
    | .ok (.string text) => (p.text text).toOption.map .text
    | .ok (.integer v) => some (.int v)
    | _ => none
  | newArray i => (p.className i).toOption.map .newArray
  | cast i => (p.className i).toOption.map .cast
  | call onReceiver i => (p.method i).toOption.map (.call onReceiver)

variable {p q : Pool} {a : Action}

/-- A constant that is found is still found when the pool has grown. -/
theorem resolve?_of_extends (h : p.Extends q) {m : Meaning} (hm : m.resolve? p = some a) :
    m.resolve? q = some a := by
  cases m with
  | plain a => exact hm
  | constant i =>
    simp only [resolve?] at hm ⊢
    split at hm
    · next text hget =>
      rw [h.get hget]
      obtain ⟨s, hs, rfl⟩ := toOption_map_eq_some.1 hm
      exact toOption_map_eq_some.2 ⟨s, h.text hs, rfl⟩
    · next v hget =>
      rw [h.get hget]
      exact hm
    · cases hm
  | newArray i =>
    obtain ⟨s, hs, rfl⟩ := toOption_map_eq_some.1 hm
    exact toOption_map_eq_some.2 ⟨s, h.className hs, rfl⟩
  | cast i =>
    obtain ⟨s, hs, rfl⟩ := toOption_map_eq_some.1 hm
    exact toOption_map_eq_some.2 ⟨s, h.className hs, rfl⟩
  | call onReceiver i =>
    obtain ⟨m, hs, rfl⟩ := toOption_map_eq_some.1 hm
    exact toOption_map_eq_some.2 ⟨m, h.method hs, rfl⟩

end Meaning

/-- The categories in the order in which families of instructions go through them. -/
def categories : List Category := [.int, .long, .float, .double, .reference]

namespace Unplaced

/-- What the instruction says: `aconst_null`, `iconst`, `bipush`, `sipush`, `ldc`, loads in their
three lengths, `aastore`, `pop`, `dup`, narrowings, returns, calls, `anewarray`, `checkcast`. -/
def meaning? (u : Unplaced) : Option Meaning :=
  let code := u.opcode.index.val
  let operand := BigEndian.value u.operands
  if code = 0x01 then some (.plain .null)
  else if 0x02 ≤ code ∧ code ≤ 0x08 then some (.plain (.int (Int32.ofInt (code - 3))))
  else if code = 0x10 then some (.plain (.int (UInt8.ofNat operand).toInt8.toInt32))
  else if code = 0x11 then some (.plain (.int (UInt16.ofNat operand).toInt16.toInt32))
  else if code = 0x12 ∨ code = 0x13 then some (.constant (UInt16.ofNat operand))
  else if 0x15 ≤ code ∧ code ≤ 0x19 then
    categories[code - 0x15]?.map fun c => .plain (.load c operand)
  else if 0x1A ≤ code ∧ code ≤ 0x2D then
    categories[(code - 0x1A) / 4]?.map fun c => .plain (.load c ((code - 0x1A) % 4))
  else if code = 0x53 then some (.plain .store)
  else if code = 0x57 then some (.plain (.drop 1))
  else if code = 0x58 then some (.plain (.drop 2))
  else if code = 0x59 then some (.plain .duplicate)
  else if code = 0x91 then some (.plain (.cut .byte))
  else if code = 0x92 then some (.plain (.cut .char))
  else if code = 0x93 then some (.plain (.cut .short))
  else if 0xAC ≤ code ∧ code ≤ 0xB0 then
    categories[code - 0xAC]?.map fun c => .plain (.giveBack (some c))
  else if code = 0xB1 then some (.plain (.giveBack none))
  else if code = 0xB6 then some (.call true (UInt16.ofNat operand))
  else if code = 0xB8 then some (.call false (UInt16.ofNat operand))
  else if code = 0xBD then some (.newArray (UInt16.ofNat operand))
  else if code = 0xC0 then some (.cast (UInt16.ofNat operand))
  else if code = 0xC4 then
    match u.operands with
    | widened :: slot =>
      if 0x15 ≤ widened.toNat ∧ widened.toNat ≤ 0x19 then
        categories[widened.toNat - 0x15]?.map fun c => .plain (.load c (BigEndian.value slot))
      else none
    | [] => none
  else none

/-- What the instruction does, with its constants looked up in a pool. -/
def action? (p : Pool) (u : Unplaced) : Option Action := u.meaning?.bind (Meaning.resolve? p)

theorem action?_of_extends {p q : Pool} (h : p.Extends q) {u : Unplaced} {a : Action}
    (hu : u.action? p = some a) : u.action? q = some a := by
  obtain ⟨m, hm, ha⟩ := Option.bind_eq_some_iff.1 hu
  exact Option.bind_eq_some_iff.2 ⟨m, hm, Meaning.resolve?_of_extends h ha⟩

theorem action?_of_meaning? {p : Pool} {u : Unplaced} {m : Meaning} {a : Action}
    (hm : u.meaning? = some m) (ha : m.resolve? p = some a) : u.action? p = some a :=
  Option.bind_eq_some_iff.2 ⟨m, hm, ha⟩

/-- A call that is not made by a constant. -/
def isPlainCall : Option Meaning → Bool
  | some (.plain (.call ..)) => true
  | _ => false

theorem isPlainCall_meaning? (u : Unplaced) : isPlainCall u.meaning? = false := by
  unfold meaning?
  simp only [apply_ite isPlainCall]
  cases u.operands with
  | nil => simp [isPlainCall]
  | cons b bs =>
    simp only [apply_ite isPlainCall]
    simp [isPlainCall]

/-- An instruction that calls a method has a constant for it. -/
theorem exists_method_of_call {p : Pool} {u : Unplaced} {onReceiver : Bool} {m : MethodSymbol}
    (h : u.action? p = some (.call onReceiver m)) : ∃ i, p.method i = .ok m := by
  obtain ⟨meaning, hmeaning, h⟩ := Option.bind_eq_some_iff.1 h
  cases meaning with
  | plain a =>
    cases h
    have hplain := u.isPlainCall_meaning?
    rw [hmeaning] at hplain
    cases hplain
  | constant i =>
    rw [Meaning.resolve?] at h
    split at h
    · simp at h
    · cases h
    · cases h
  | newArray i => simp [Meaning.resolve?] at h
  | cast i => simp [Meaning.resolve?] at h
  | call r i =>
    obtain ⟨m, hm, h⟩ := toOption_map_eq_some.1 h
    cases h
    exact ⟨i, hm⟩

end Unplaced

end ScriptProxy.Bytecode
