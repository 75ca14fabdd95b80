import Mathlib.Data.List.Forall2
import ScriptProxy.Proofs.Bytecode.Action
import ScriptProxy.Proofs.ClassFile.PoolGrowth

/-!
# What emitters emit

`Emits step actions`: whenever the step succeeds, it emits one instruction for each of the actions, and
constants so that the instruction does just that, in the pool as it is then and however it grows.
There is one lemma for each emitter, and `Emits.bind` puts them together.
-/

namespace ScriptProxy.Bytecode

open ClassFile Outcome
open ClassFile.Pool (Grows Extends)

/-- Between the two emitters, instructions were emitted that do the actions. -/
structure Emitted (e e' : Emitter) (actions : List Action) : Prop where
  wellFormed : e'.pool.WellFormed
  grown : e.pool.Extends e'.pool
  code : ∃ us : List Unplaced, (∀ u ∈ us, u.Sized) ∧ e'.code.toList = e.code.toList ++ assemble us ∧
    List.Forall₂ (fun u a => u.action? e'.pool = some a) us actions

namespace Emitted
variable {e e' e'' : Emitter} {as bs : List Action}

theorem none (he : e.pool.WellFormed) : Emitted e e [] :=
  ⟨he, .refl _, [], by simp, by simp [assemble], .nil⟩

theorem append (h : Emitted e e' as) (h' : Emitted e' e'' bs) : Emitted e e'' (as ++ bs) := by
  obtain ⟨us, hus, hcode, hact⟩ := h.code
  obtain ⟨vs, hvs, hcode', hact'⟩ := h'.code
  refine ⟨h'.wellFormed, h.grown.trans h'.grown, us ++ vs, ?_, ?_, ?_⟩
  · intro u hu
    exact (List.mem_append.1 hu).elim (hus u) (hvs u)
  · rw [hcode', hcode, assemble, assemble, assemble, List.flatMap_append, List.append_assoc]
  · exact List.rel_append (hact.imp fun u a hu => Unplaced.action?_of_extends h'.grown hu) hact'

/-- Adding constants first does not matter. -/
theorem of_grown {pool : Pool} (hg : e.pool.Extends pool) (h : Emitted { e with pool } e' as) :
    Emitted e e' as :=
  ⟨h.wellFormed, hg.trans h.grown, h.code⟩

end Emitted

/-- Whenever the step succeeds, the actions are what it has emitted. -/
def Emits (step : Emit Unit) (actions : List Action) : Prop :=
  ∀ e e', e.pool.WellFormed → step e = .ok () e' → Emitted e e' actions

namespace Emits
variable {x y : Emit Unit} {as bs : List Action}

theorem pure : Emits (Pure.pure ()) [] := by
  rintro e _ he ⟨⟩
  exact .none he

theorem bind (hx : Emits x as) (hy : Emits y bs) : Emits (x >>= fun _ => y) (as ++ bs) := by
  intro e e'' he h
  obtain ⟨_, e', hxe, hye⟩ := step_bind_eq_ok.1 h
  have h1 := hx e e' he hxe
  exact h1.append (hy e' e'' h1.wellFormed hye)

/-- A step that adds a constant and uses its index. -/
theorem pooled {edit : Pool.Edit UInt16} {Q : UInt16 → Pool → Prop} {f : UInt16 → Emit Unit}
    (hedit : ∀ p, p.WellFormed → Grows p (edit p) Q)
    (hf : ∀ i e e', e.pool.WellFormed → Q i e.pool → f i e = .ok () e' → Emitted e e' as) :
    Emits (Emitter.pooled edit >>= f) as := by
  intro e e' he h
  obtain ⟨i, e₁, hi, h⟩ := step_bind_eq_ok.1 h
  have hg := hedit e.pool he
  unfold Emitter.pooled at hi
  split at hi
  · next j pool hj =>
    cases hi
    rw [hj] at hg
    exact (hf i _ e' hg.wellFormed (hg.found i pool rfl) h).of_grown hg.extends_left
  · cases hi

end Emits

/-! ### Single instructions -/

section
variable {op : Opcode} {operands : Bytes} {pops pushes : UInt16} {a : Action}

theorem sized_of_fixed {n : Nat} (ho : op.operands = .fixed n) (hl : operands.length = n) :
    (Unplaced.mk op operands).Sized := by
  unfold Unplaced.Sized
  rw [ho]
  exact hl

theorem emitted_emit {e e' : Emitter} (he : e.pool.WellFormed)
    (hs : (Unplaced.mk op operands).Sized)
    (ha : (Unplaced.mk op operands).action? e.pool = some a)
    (h : Emitter.emit op operands pops pushes e = .ok () e') : Emitted e e' [a] := by
  unfold Emitter.emit at h
  split at h
  · cases h
  split at h
  · cases h
  · cases h
    refine ⟨he, .refl _, [⟨op, operands⟩], by simpa using hs, ?_, .cons ha .nil⟩
    simp [assemble, Unplaced.bytes]

/-- An instruction without a constant. -/
theorem emits_plain {n : Nat} (ho : op.operands = .fixed n) (hl : operands.length = n)
    (hm : (Unplaced.mk op operands).meaning? = some (.plain a)) :
    Emits (Emitter.emit op operands pops pushes) [a] :=
  fun _ _ he h => emitted_emit he (sized_of_fixed ho hl) (Unplaced.action?_of_meaning? hm rfl) h

end

namespace Emitter

theorem emits_aconstNull : Emits aconstNull [.null] :=
  emits_plain (n := 0) rfl rfl rfl

theorem emits_dup : Emits dup [.duplicate] :=
  emits_plain (n := 0) rfl rfl rfl

theorem emits_aastore : Emits aastore [.store] :=
  emits_plain (n := 0) rfl rfl rfl

/-! Constants -/

theorem value_singleton (b : UInt8) : BigEndian.value [b] = b.toNat := by simp [BigEndian.value]

theorem value_word16 (w : UInt16) : BigEndian.value (Written.word16 w) = w.toNat := by
  rw [Written.word16, BigEndian.value_digits]
  exact Nat.mod_eq_of_lt w.toNat_lt

/-- An instruction with the index of a constant in two bytes. -/
theorem emitted_indexed {op : Opcode} {i pops pushes : UInt16} (kind : UInt16 → Meaning) {a : Action}
    {e e' : Emitter} (he : e.pool.WellFormed) (ho : op.operands = .fixed 2)
    (hm : ∀ bs, (Unplaced.mk op bs).meaning? = some (kind (UInt16.ofNat (BigEndian.value bs))))
    (ha : (kind i).resolve? e.pool = some a)
    (h : emit op (Written.word16 i) pops pushes e = .ok () e') : Emitted e e' [a] := by
  have hs : (Unplaced.mk op (Written.word16 i)).Sized :=
    sized_of_fixed ho (BigEndian.length_digits ..)
  refine emitted_emit he hs ?_ h
  refine Unplaced.action?_of_meaning? (hm _) ?_
  rw [value_word16, UInt16.ofNat_toNat]
  exact ha

theorem emitted_ldc {i : UInt16} {a : Action} {e e' : Emitter} (he : e.pool.WellFormed)
    (ha : (Meaning.constant i).resolve? e.pool = some a) (h : ldc i e = .ok () e') :
    Emitted e e' [a] := by
  unfold ldc at h
  split at h
  · next hi =>
    have hi : i.toNat ≤ 255 := UInt16.le_iff_toNat_le.1 hi
    refine emitted_emit he (sized_of_fixed (n := 1) rfl rfl) ?_ h
    refine Unplaced.action?_of_meaning? (m := .constant (UInt16.ofNat (BigEndian.value [i.toUInt8])))
      rfl ?_
    rw [value_singleton, UInt16.toNat_toUInt8, Nat.mod_eq_of_lt (by omega), UInt16.ofNat_toNat]
    exact ha
  · exact emitted_indexed .constant he rfl (fun _ => rfl) ha h

theorem emits_ldcString (s : String) : Emits (ldcString s) [.text s] := by
  refine Emits.pooled (fun p hp => Pool.grows_addString hp s) fun i e e' he hi h => ?_
  obtain ⟨text, hc, ht⟩ := hi
  refine emitted_ldc he ?_ h
  rw [Meaning.resolve?, hc]
  exact toOption_map_eq_some.2 ⟨s, ht, rfl⟩

theorem emits_anewarray (name : String) : Emits (anewarray name) [.newArray name] :=
  Emits.pooled (fun _ hp => Pool.grows_addClass hp name) fun _ _ _ he hi h =>
    emitted_indexed .newArray he rfl (fun _ => rfl)
      (toOption_map_eq_some.2 ⟨name, hi, rfl⟩) h

theorem emits_checkcast (name : String) : Emits (checkcast name) [.cast name] :=
  Emits.pooled (fun _ hp => Pool.grows_addClass hp name) fun _ _ _ he hi h =>
    emitted_indexed .cast he rfl (fun _ => rfl)
      (toOption_map_eq_some.2 ⟨name, hi, rfl⟩) h

/-- Both kinds of calls, by the opcode and whether it takes a receiver. -/
theorem emits_invoke {op : Opcode} {onReceiver : Bool} (ho : op.operands = .fixed 2)
    (hm : ∀ bs, (Unplaced.mk op bs).meaning? =
      some (.call onReceiver (UInt16.ofNat (BigEndian.value bs))))
    (m : MethodSymbol) (receiver : UInt16) : Emits (invoke op m receiver) [.call onReceiver m] := by
  unfold invoke
  split
  · rintro e e' - ⟨⟩
  · refine Emits.pooled (fun _ hp => Pool.grows_addMethod hp m) fun _ e e' he hi h => ?_
    obtain ⟨pops, e₁, hpops, hemit⟩ := step_bind_eq_ok.1 h
    obtain ⟨-, rfl⟩ := ofExcept_eq_ok.1 hpops
    exact emitted_indexed (.call onReceiver) he ho hm (toOption_map_eq_some.2 ⟨m, hi, rfl⟩) hemit

theorem emits_invokestatic (m : MethodSymbol) : Emits (invokestatic m) [.call false m] :=
  emits_invoke rfl (fun _ => rfl) m 0

theorem emits_invokevirtual (m : MethodSymbol) : Emits (invokevirtual m) [.call true m] :=
  emits_invoke rfl (fun _ => rfl) m 1

/-! Numbers -/

/-- The low byte of a number, with its sign. -/
theorem toInt8_low (v : Int32) : v.toUInt32.toUInt8.toInt8 = v.toInt8 := by
  rw [← Int8.toBitVec_inj, Int32.toBitVec_toInt8, BitVec.signExtend_eq_setWidth_of_le _ (by decide)]
  rfl

/-- The two low bytes of a number, with their sign. -/
theorem toInt16_low (v : Int32) : v.toUInt32.toUInt16.toInt16 = v.toInt16 := by
  rw [← Int16.toBitVec_inj, Int32.toBitVec_toInt16,
    BitVec.signExtend_eq_setWidth_of_le _ (by decide)]
  rfl

theorem emits_pushInt (v : Int32) : Emits (pushInt v) [.int v] := by
  unfold pushInt
  dsimp only
  split
  · next h =>
    have hv : v = Int32.ofInt (-1) := Int32.toInt_inj.1 h
    rw [hv]
    exact emits_plain (n := 0) rfl rfl rfl
  split
  · next h =>
    have small : ∀ n ≤ 5, (Opcode.iconst0.next n).operands = .fixed 0 ∧
        (Unplaced.mk (Opcode.iconst0.next n) []).meaning? =
          some (.plain (.int (Int32.ofInt n))) := by decide
    have hv : v = Int32.ofInt v.toInt.toNat := by
      rw [Int.toNat_of_nonneg h.1, Int32.ofInt_toInt]
    obtain ⟨ho, hm⟩ := small v.toInt.toNat (by omega)
    rw [← hv] at hm
    exact emits_plain ho rfl hm
  split
  · next h =>
    have hv : (UInt8.ofNat (BigEndian.value [v.toUInt32.toUInt8])).toInt8.toInt32 = v := by
      rw [value_singleton, UInt8.ofNat_toNat, toInt8_low, ← Int32.toInt_inj, Int8.toInt_toInt32,
        Int32.toInt_toInt8, Int.bmod_eq_of_le (by omega) (by omega)]
    exact emits_plain (n := 1) rfl rfl
      (congrArg (fun w => some (Meaning.plain (.int w))) hv)
  split
  · next h =>
    have hv : (UInt16.ofNat (BigEndian.value (Written.word16 v.toUInt32.toUInt16))).toInt16.toInt32 =
        v := by
      rw [value_word16, UInt16.ofNat_toNat, toInt16_low, ← Int32.toInt_inj, Int16.toInt_toInt32,
        Int32.toInt_toInt16, Int.bmod_eq_of_le (by omega) (by omega)]
    exact emits_plain (n := 2) rfl (BigEndian.length_digits ..)
      (congrArg (fun w => some (Meaning.plain (.int w))) hv)
  · refine Emits.pooled (fun p hp => Pool.grows_addInteger hp v) fun i e e' he hi h => ?_
    refine emitted_ldc he ?_ h
    rw [Meaning.resolve?, hi]

/-! Local variables and results -/

theorem emits_load (kind : ValueKind) (slot : UInt16) :
    Emits (load kind slot) [.load (category kind) slot.toNat] := by
  unfold load
  dsimp only
  generalize category kind = c
  split
  · -- an instruction for this slot alone
    next h =>
    have hs : slot.toNat ≤ 3 := UInt16.le_iff_toNat_le.1 h
    have short : ∀ s ≤ 3, (Opcode.iload0.next (4 * c.index + s)).operands = .fixed 0 ∧
        (Unplaced.mk (Opcode.iload0.next (4 * c.index + s)) []).meaning? =
          some (.plain (.load c s)) := by cases c <;> decide
    obtain ⟨ho, hm⟩ := short slot.toNat hs
    exact emits_plain ho rfl hm
  split
  · -- the slot in a byte
    next h =>
    have hs : slot.toNat ≤ 255 := UInt16.le_iff_toNat_le.1 h
    have hv : BigEndian.value [slot.toUInt8] = slot.toNat := by
      rw [value_singleton, UInt16.toNat_toUInt8, Nat.mod_eq_of_lt (by omega)]
    have hm : (Unplaced.mk (Opcode.iload.next c.index) [slot.toUInt8]).meaning? =
        some (.plain (.load c (BigEndian.value [slot.toUInt8]))) := by cases c <;> rfl
    rw [hv] at hm
    refine emits_plain (n := 1) ?_ rfl hm
    cases c <;> rfl
  · -- the slot in two bytes, behind `wide`
    have hm : (Unplaced.mk .wide ((Opcode.iload.next c.index).code :: Written.word16 slot)).meaning? =
        some (.plain (.load c (BigEndian.value (Written.word16 slot)))) := by cases c <;> rfl
    rw [value_word16] at hm
    intro e e' he h
    refine emitted_emit he ?_ (Unplaced.action?_of_meaning? hm rfl) h
    refine (?_ : ∃ widened rest, _)
    refine ⟨_, _, rfl, .inr ⟨?_, ?_, BigEndian.length_digits ..⟩⟩
    · cases c <;> decide
    · cases c <;> decide

theorem emits_pop (slots : Nat) : Emits (pop slots) [.drop (if slots = 2 then 2 else 1)] := by
  unfold pop
  split
  · exact emits_plain (n := 0) rfl rfl rfl
  · exact emits_plain (n := 0) rfl rfl rfl

/-- What `narrow` does: nothing for a kind that has all bits of an integer, or is none. -/
def narrowing : ValueKind → List Action
  | .primitive .byte => [.cut .byte]
  | .primitive .char => [.cut .char]
  | .primitive .short => [.cut .short]
  | _ => []

theorem emits_narrow (kind : ValueKind) : Emits (narrow kind) (narrowing kind) := by
  cases kind with
  | primitive p =>
    cases p with
    | byte | char | short => exact emits_plain (n := 0) rfl rfl rfl
    | _ => exact Emits.pure
  | object | array => exact Emits.pure

/-- The category of a result, if there is one. -/
def resultCategory : ReturnKind → Option Category
  | .void => none
  | .value kind => some (category kind)

theorem emits_returnValue (r : ReturnKind) :
    Emits (returnValue r) [.giveBack (resultCategory r)] := by
  cases r with
  | void => exact emits_plain (n := 0) rfl rfl rfl
  | value kind =>
    unfold returnValue resultCategory
    dsimp only
    generalize category kind = c
    refine emits_plain (n := 0) ?_ rfl ?_
    · cases c <;> rfl
    · cases c <;> decide

end Emitter

end ScriptProxy.Bytecode
