import ScriptProxy.Proofs.Bytecode.Emission
import ScriptProxy.Proofs.ClassFile.PoolCodec

/-!
# Runs of an emitter

A run asks an emitter for instructions, one `Request` after the other, whatever has become of those
before. A request that succeeds emits what it asks for, and one that fails leaves at most constants
behind. So the bytes that a run has emitted are decoded into just the instructions that were asked
for with success, all of which refer to their constants in the pool as it is in the end:
`decode_runAll`.
-/

namespace ScriptProxy.Bytecode

open ClassFile Outcome
open ClassFile.Pool (Grows Extends)

/-- What an emitter can be asked for. -/
inductive Request where
  | aconstNull
  | ldcString (s : String)
  | pushInt (v : Int32)
  | anewarray (name : String)
  | dup
  | aastore
  | load (kind : ValueKind) (slot : UInt16)
  | invokestatic (m : MethodSymbol)
  | invokevirtual (m : MethodSymbol)
  | checkcast (name : String)
  | pop (slots : Nat)
  | narrow (kind : ValueKind)
  | returnValue (result : ReturnKind)
  deriving DecidableEq, Repr

/-! ### Steps that fail -/

/-- At most constants were added. -/
structure Spared (e e' : Emitter) : Prop where
  wellFormed : e'.pool.WellFormed
  grown : e.pool.Extends e'.pool
  rest : e' = { e with pool := e'.pool }

namespace Spared
variable {e e' : Emitter}

theorem refl (he : e.pool.WellFormed) : Spared e e := ⟨he, .refl _, rfl⟩

/-- Adding constants first does not matter. -/
theorem of_grown {pool : Pool} (hg : e.pool.Extends pool) (h : Spared { e with pool } e') :
    Spared e e' :=
  ⟨h.wellFormed, hg.trans h.grown, h.rest⟩

theorem emitted (h : Spared e e') : Emitted e e' [] := by
  refine ⟨h.wellFormed, h.grown, [], by simp, ?_, .nil⟩
  rw [h.rest]
  simp [assemble]

end Spared

/-- Whenever the step fails, it leaves at most constants behind. -/
def Spares (step : Emit Unit) : Prop :=
  ∀ e f e', e.pool.WellFormed → step e = .error f e' → Spared e e'

namespace Spares

theorem pure : Spares (Pure.pure ()) := by
  rintro e f e' - ⟨⟩

theorem throw (f : Failure) : Spares (MonadExcept.throw f) := by
  rintro e _ e' he ⟨⟩
  exact .refl he

theorem emit {op : Opcode} {operands : Bytes} {pops pushes : UInt16} :
    Spares (Emitter.emit op operands pops pushes) := by
  intro e f e' he h
  unfold Emitter.emit at h
  split at h
  · cases h
    exact .refl he
  split at h
  · cases h
    exact .refl he
  · cases h

/-- The constant is there even if the instruction with its index is not. -/
theorem pooled {edit : Pool.Edit UInt16} {Q : UInt16 → Pool → Prop} {f : UInt16 → Emit Unit}
    (hedit : ∀ p, p.WellFormed → Grows p (edit p) Q) (hf : ∀ i, Spares (f i)) :
    Spares (Emitter.pooled edit >>= f) := by
  intro e failure e' he h
  have hg := hedit e.pool he
  rcases step_bind_eq_error.1 h with h | ⟨i, e₁, hi, h⟩
  · unfold Emitter.pooled at h
    split at h
    · cases h
    · next hp =>
      cases h
      rw [hp] at hg
      exact ⟨hg.wellFormed, hg.extends_left, rfl⟩
  · unfold Emitter.pooled at hi
    split at hi
    · next hp =>
      cases hi
      rw [hp] at hg
      exact (hf i _ _ _ hg.wellFormed h).of_grown hg.extends_left
    · cases hi

theorem ldc (i : UInt16) : Spares (Emitter.ldc i) := by
  unfold Emitter.ldc
  split <;> exact emit

theorem pushInt (v : Int32) : Spares (Emitter.pushInt v) := by
  unfold Emitter.pushInt
  dsimp only
  split; · exact emit
  split; · exact emit
  split; · exact emit
  split; · exact emit
  exact pooled (fun _ hp => Pool.grows_addInteger hp v) ldc

theorem load (kind : ValueKind) (slot : UInt16) : Spares (Emitter.load kind slot) := by
  unfold Emitter.load
  dsimp only
  split; · exact emit
  split <;> exact emit

theorem invoke {op : Opcode} {m : MethodSymbol} {receiver : UInt16} :
    Spares (Emitter.invoke op m receiver) := by
  unfold Emitter.invoke
  split
  · exact throw _
  · refine pooled (fun _ hp => Pool.grows_addMethod hp m) fun _ e f e' he h => ?_
    rcases step_bind_eq_error.1 h with hpops | ⟨pops, e₁, hpops, hemit⟩
    · obtain ⟨-, rfl⟩ := ofExcept_eq_error.1 hpops
      exact .refl he
    · obtain ⟨-, rfl⟩ := ofExcept_eq_ok.1 hpops
      exact emit _ f e' he hemit

theorem pop (slots : Nat) : Spares (Emitter.pop slots) := by
  unfold Emitter.pop
  split <;> exact emit

theorem narrow (kind : ValueKind) : Spares (Emitter.narrow kind) := by
  unfold Emitter.narrow
  split
  · exact emit
  · exact emit
  · exact emit
  · exact pure

theorem returnValue (result : ReturnKind) : Spares (Emitter.returnValue result) := by
  unfold Emitter.returnValue
  split <;> exact emit

end Spares

/-! ### Requests -/

namespace Request

def step : Request → Emit Unit
  | aconstNull => Emitter.aconstNull
  | ldcString s => Emitter.ldcString s
  | pushInt v => Emitter.pushInt v
  | anewarray name => Emitter.anewarray name
  | dup => Emitter.dup
  | aastore => Emitter.aastore
  | load kind slot => Emitter.load kind slot
  | invokestatic m => Emitter.invokestatic m
  | invokevirtual m => Emitter.invokevirtual m
  | checkcast name => Emitter.checkcast name
  | pop slots => Emitter.pop slots
  | narrow kind => Emitter.narrow kind
  | returnValue result => Emitter.returnValue result

/-- What is asked for. There is nothing to do for some kinds that an integer is cut down to. -/
def actions : Request → List Action
  | aconstNull => [.null]
  | ldcString s => [.text s]
  | pushInt v => [.int v]
  | anewarray name => [.newArray name]
  | dup => [.duplicate]
  | aastore => [.store]
  | load kind slot => [.load (category kind) slot.toNat]
  | invokestatic m => [.call false m]
  | invokevirtual m => [.call true m]
  | checkcast name => [.cast name]
  | pop slots => [.drop (if slots = 2 then 2 else 1)]
  | narrow kind => Emitter.narrowing kind
  | returnValue result => [.giveBack (Emitter.resultCategory result)]

theorem emits (r : Request) : Emits r.step r.actions := by
  cases r with
  | aconstNull => exact Emitter.emits_aconstNull
  | ldcString s => exact Emitter.emits_ldcString s
  | pushInt v => exact Emitter.emits_pushInt v
  | anewarray name => exact Emitter.emits_anewarray name
  | dup => exact Emitter.emits_dup
  | aastore => exact Emitter.emits_aastore
  | load kind slot => exact Emitter.emits_load kind slot
  | invokestatic m => exact Emitter.emits_invokestatic m
  | invokevirtual m => exact Emitter.emits_invokevirtual m
  | checkcast name => exact Emitter.emits_checkcast name
  | pop slots => exact Emitter.emits_pop slots
  | narrow kind => exact Emitter.emits_narrow kind
  | returnValue result => exact Emitter.emits_returnValue result

theorem spares (r : Request) : Spares r.step := by
  cases r with
  | aconstNull =>
    show Spares (Emitter.emit .aconstNull [] 0 1)
    exact .emit
  | dup | aastore => exact .emit
  | ldcString s => exact .pooled (fun _ hp => Pool.grows_addString hp s) .ldc
  | pushInt v => exact .pushInt v
  | anewarray name | checkcast name =>
    exact .pooled (fun _ hp => Pool.grows_addClass hp name) fun _ => .emit
  | load kind slot => exact .load kind slot
  | invokestatic m | invokevirtual m => exact .invoke
  | pop slots => exact .pop slots
  | narrow kind => exact .narrow kind
  | returnValue result => exact .returnValue result

/-- Whether the request succeeds. -/
def succeeds (r : Request) (e : Emitter) : Bool :=
  match r.step e with
  | .ok _ _ => true
  | .error _ _ => false

end Request

namespace Emitter

/-- Asks for one instruction after the other, and goes on when that fails. -/
def runAll (rs : List Request) (e : Emitter) : Emitter := rs.foldl (fun e r => left (r.step e)) e

/-- The requests of a run that succeed. -/
def succeeding : List Request → Emitter → List Request
  | [], _ => []
  | r :: rs, e =>
    let rest := succeeding rs (left (r.step e))
    if r.succeeds e then r :: rest else rest

variable {e : Emitter}

/-- A run emits what was asked for with success. -/
theorem emitted_runAll (rs : List Request) (he : e.pool.WellFormed) :
    Emitted e (runAll rs e) ((succeeding rs e).flatMap Request.actions) := by
  induction rs generalizing e with
  | nil => exact .none he
  | cons r rs ih =>
    unfold succeeding Request.succeeds
    cases hr : r.step e with
    | ok a e' =>
      have h := r.emits e e' he hr
      have h' := h.append (ih h.wellFormed)
      rwa [runAll, List.foldl_cons, hr]
    | error f e' =>
      have h := (r.spares e f e' he hr).emitted
      have h' := h.append (ih h.wellFormed)
      rwa [runAll, List.foldl_cons, hr]

/-- The bytes that a run has emitted are those of one instruction for each request that has
succeeded, in the order of the requests, and each does what it was asked for in the pool as it is in
the end. Cutting down an integer that is to keep all its bits takes no instruction. -/
theorem decode_runAll {pool : Pool} (hp : pool.Reachable) (rs : List Request) :
    let e := runAll rs (.start pool)
    ∃ is, decode e.code.toList = .ok is ∧
      List.Forall₂ (fun i a => Unplaced.action? e.pool ⟨i.opcode, i.operands⟩ = some a) is
        ((succeeding rs (.start pool)).flatMap Request.actions) := by
  intro e
  obtain ⟨-, -, us, hus, hcode, hact⟩ := emitted_runAll (e := .start pool) rs hp.wellFormed
  refine ⟨placed 0 us, ?_, ?_⟩
  · rw [hcode]
    exact decode_assemble hus
  · rw [← map_placed 0 us, List.forall₂_map_left_iff] at hact
    exact hact

/-- Only the second request fails, as there are not two slots to drop. -/
def sampleRequests : List Request :=
  [.ldcString "a", .pop 2, .pushInt 300, .narrow (.primitive .byte), .narrow (.primitive .int),
    .load (.object "A") 256, .checkcast "B"]

theorem decode_runAll_sample :
    ∃ is, decode (runAll sampleRequests (.start .empty)).code.toList = .ok is ∧
      List.Forall₂ (fun i a => Unplaced.action? (runAll sampleRequests (.start .empty)).pool
          ⟨i.opcode, i.operands⟩ = some a) is
        [.text "a", .int 300, .cut .byte, .load .reference 256, .cast "B"] := by
  have h := decode_runAll .empty sampleRequests
  have hs : (succeeding sampleRequests (.start .empty)).flatMap Request.actions =
      [.text "a", .int 300, .cut .byte, .load .reference 256, .cast "B"] := by decide +kernel
  rwa [hs] at h

end Emitter

end ScriptProxy.Bytecode
