import ScriptProxy.Proofs.Bytecode.Requests
import ScriptProxy.Proofs.Bytecode.StackEffect
import ScriptProxy.Proofs.ClassFile.Interning

/-!
# What becomes of a request

The constants of an instruction come first, and a request that has no room for them is refused for that,
as is a call whose descriptor cannot be read. Otherwise it comes down to one instruction, or to none:
`Request.answer`. Only the instruction is refused for want of slots: `Request.underflows_iff`.
-/

namespace ScriptProxy

open ClassFile Outcome

/-! ### Other reasons -/

/-- There are fewer slots on the operand stack than are to be taken. -/
def Defect.isUnderflow : Defect → Bool
  | stackUnderflow .. => true
  | _ => false

namespace ClassFile
variable {whole : String} {cs : List Char} {d : Defect}

theorem isUnderflow_of_readElement (h : ValueKind.readElement whole cs = .error d) :
    d.isUnderflow = false := by
  unfold ValueKind.readElement at h
  split at h
  · cases h
    rfl
  split at h
  · cases h
  split at h
  · split at h
    · cases h
      rfl
    · dsimp only at h
      split at h
      · cases h
        rfl
      · cases h
  · split at h <;>
    · cases h
      rfl

theorem isUnderflow_of_readFront (h : ValueKind.readFront whole cs = .error d) :
    d.isUnderflow = false := by
  unfold ValueKind.readFront at h
  dsimp only at h
  split at h
  · cases h
    rfl
  split at h
  · cases h
  · next hread =>
    cases h
    exact isUnderflow_of_readElement hread

theorem isUnderflow_of_readParameters {before : List ValueKind}
    (h : MethodType.readParameters whole cs before = .error d) : d.isUnderflow = false := by
  induction cs, before using MethodType.readParameters.induct whole with
  | case1 before =>
    rw [MethodType.readParameters] at h
    cases h
    rfl
  | case2 before rest =>
    rw [MethodType.readParameters] at h
    cases h
  | case3 before c cs hc k rest hread hlength ih =>
    rw [MethodType.readParameters] at h
    split at h
    · next hread' =>
      rw [hread] at hread'
      cases hread'
      exact ih h
    · next hread' =>
      rw [hread] at hread'
      cases hread'
    · exact hc
  | case4 before c cs hc f hread =>
    rw [MethodType.readParameters] at h
    split at h
    · next hread' =>
      rw [hread] at hread'
      cases hread'
    · next hread' =>
      cases h
      exact isUnderflow_of_readFront hread'
    · exact hc

theorem isUnderflow_of_readResult (h : MethodType.readResult whole cs = .error d) :
    d.isUnderflow = false := by
  unfold MethodType.readResult at h
  split at h
  · cases h
  rcases bind_eq_error.1 h with h | ⟨⟨k, rest⟩, -, h⟩
  · exact isUnderflow_of_readFront h
  · dsimp only at h
    split at h
    · cases h
    · cases h
      rfl

theorem isUnderflow_of_ofDescriptor {s : String} (h : MethodType.ofDescriptor s = .error d) :
    d.isUnderflow = false := by
  unfold MethodType.ofDescriptor at h
  split at h
  · rcases bind_eq_error.1 h with h | ⟨⟨parameters, rest⟩, -, h⟩
    · exact isUnderflow_of_readParameters h
    rcases bind_eq_error.1 h with h | ⟨result, -, h⟩
    · exact isUnderflow_of_readResult h
    · cases h
  · cases h
    rfl

end ClassFile

/-- No addition fails but for want of room. -/
theorem eq_fullPool_of_edit {a : Pool.Addition} {p q : Pool} {f : Failure}
    (h : a.edit p = .error f q) : f = .notSupported .fullPool := by
  refine a.edit_induction (motive := fun x => ∀ p q, x p = .error f q → f = .notSupported .fullPool)
    (fun c _ p q h => ?_) (fun x g hx hg p q h => ?_) p q h
  · unfold Pool.intern at h
    split at h
    · cases h
    · unfold Pool.push at h
      split at h <;> cases h
      rfl
  · rcases step_bind_eq_error.1 h with h | ⟨i, p', -, h⟩
    · exact hx _ _ h
    · exact hg i _ _ h

namespace Bytecode

/-! ### One instruction -/

namespace Emitter

/-- An instruction that takes more than the emitter counts is refused, one that would leave more than it
can count breaks off, and all others are emitted. -/
theorem emit_cases {x : Effect} (op : Opcode) (operands : Bytes) (hpops : x.pops ≤ 65535)
    (hpushes : x.pushes ≤ 65535) (e : Emitter) :
    (e.depth.toNat < x.pops ∧ emit op operands (UInt16.ofNat x.pops) (UInt16.ofNat x.pushes) e =
        .error (.malformed (.stackUnderflow e.code.size x.pops e.depth.toNat)) e) ∨
      (x.pops ≤ e.depth.toNat ∧ 65535 < e.depth.toNat - x.pops + x.pushes ∧
        emit op operands (UInt16.ofNat x.pops) (UInt16.ofNat x.pushes) e = .error .addOverflow e) ∨
      (x.pops ≤ e.depth.toNat ∧
        ∃ e', emit op operands (UInt16.ofNat x.pops) (UInt16.ofNat x.pushes) e = .ok () e' ∧
          e'.pool = e.pool ∧ e'.depth.toNat = e.depth.toNat - x.pops + x.pushes ∧
          e'.maxDepth.toNat = max e.maxDepth.toNat e'.depth.toNat) := by
  have hword : (UInt16.ofNat x.pops).toNat = x.pops := Word.toNat_of_le hpops
  unfold emit
  by_cases h : e.depth < UInt16.ofNat x.pops
  · left
    rw [if_pos h, hword]
    rw [UInt16.lt_iff_toNat_lt, hword] at h
    exact ⟨h, rfl⟩
  · have hle : x.pops ≤ e.depth.toNat := by
      rw [UInt16.lt_iff_toNat_lt, hword] at h
      exact Nat.not_lt.1 h
    have hsum : Word.add (e.depth - UInt16.ofNat x.pops) (UInt16.ofNat x.pushes) =
        Word.checked (e.depth.toNat - x.pops + x.pushes) := by
      rw [Word.add, UInt16.toNat_sub_of_le _ _ (UInt16.not_lt.1 h), hword, Word.toNat_of_le hpushes]
    right
    rw [if_neg h, hsum]
    by_cases hover : 65535 < e.depth.toNat - x.pops + x.pushes
    · rw [Word.checked_of_lt hover]
      exact .inl ⟨hle, hover, rfl⟩
    · rw [Word.checked_of_le (Nat.not_lt.1 hover)]
      refine .inr ⟨hle, _, rfl, rfl, Word.toNat_of_le (Nat.not_lt.1 hover), ?_⟩
      dsimp only
      split
      · next hlt => exact (Nat.max_eq_right (Nat.le_of_lt (UInt16.lt_iff_toNat_lt.1 hlt))).symm
      · next hnot => exact (Nat.max_eq_left (Nat.not_lt.1 (mt UInt16.lt_iff_toNat_lt.2 hnot))).symm

end Emitter

/-! ### One request -/

namespace Request

/-- The method that is called. -/
def callee? : Request → Option MethodSymbol
  | invokestatic m | invokevirtual m => some m
  | _ => none

/-- What is added to the pool for the instruction. Numbers of up to sixteen bits are not constants. -/
def addition? : Request → Option Pool.Addition
  | ldcString s => some (.string s)
  | pushInt v => if -32768 ≤ v.toInt ∧ v.toInt ≤ 32767 then none else some (.integer v)
  | anewarray name | checkcast name => some (.classRef name)
  | invokestatic m | invokevirtual m => some (.method m)
  | _ => none

/-- The pool holds the constants of the instruction or has room for them. -/
def Addable (r : Request) (p : Pool) : Prop := ∀ a ∈ r.addition?, ∃ i q, a.edit p = .ok i q

/-- What the instruction that is asked for does to the depth of the stack, if one is and it can be
told. -/
def effect? (r : Request) : Option Effect := r.actions.head?.bind Action.effect?

/-- The slots that a call takes can be counted, if its descriptor can be read. -/
def Countable (r : Request) : Prop :=
  ∀ m ∈ r.callee?, ∀ t, MethodType.ofDescriptor m.descriptor = .ok t → t.parameterSlots ≤ 65534

theorem Countable.of_none {r : Request} (h : r.callee? = none) : r.Countable := by
  intro m hm
  rw [h] at hm
  cases hm

/-- How a request is met: there is nothing to do, or there is an instruction to be emitted, for which a
constant may have to be added first. The descriptor of a call may turn out not to be one, or its arguments
to take more slots than a word can count. -/
inductive Recipe (r : Request) : Prop where
  | idle (hactions : r.actions = []) (hnone : r.addition? = none) (hstep : r.step = pure ())
  | unreadable {d : Defect} (hactions : r.actions ≠ []) (heffect : r.effect? = none)
    (hd : d.isUnderflow = false) (hstep : r.step = throw (.malformed d))
  | plain {x : Effect} {op : Opcode} {operands : Bytes} (hnone : r.addition? = none)
    (heffect : r.effect? = some x) (hpops : x.pops ≤ 65535)
    (hstep : r.step = Emitter.emit op operands (UInt16.ofNat x.pops) (UInt16.ofNat x.pushes))
  | indexed {x : Effect} {a : Pool.Addition} {f : UInt16 → Emit Unit} (hsome : r.addition? = some a)
    (heffect : r.effect? = some x) (hpops : x.pops ≤ 65535)
    (hstep : r.step = Emitter.pooled a.edit >>= f)
    (hf : ∀ i, ∃ op operands,
      f i = Emitter.emit op operands (UInt16.ofNat x.pops) (UInt16.ofNat x.pushes))
  | uncountable {x : Effect} {a : Pool.Addition} (hsome : r.addition? = some a)
    (heffect : r.effect? = some x) (hpops : 65535 < x.pops)
    (hstep : r.step = Emitter.pooled a.edit >>= fun _ => throw .addOverflow)

section
variable {r : Request} {e : Emitter} {x : Effect}

theorem pushes_le (h : r.effect? = some x) : x.pushes ≤ 2 := by
  obtain ⟨a, -, ha⟩ := Option.bind_eq_some_iff.1 h
  exact Action.pushes_le ha

theorem ldc_eq_emit (i : UInt16) : ∃ op operands, Emitter.ldc i = Emitter.emit op operands 0 1 := by
  unfold Emitter.ldc
  split <;> exact ⟨_, _, rfl⟩

theorem recipe_pushInt (v : Int32) : (pushInt v).Recipe := by
  by_cases hsmall : -32768 ≤ v.toInt ∧ v.toInt ≤ 32767
  · obtain ⟨op, operands, hstep⟩ :
        ∃ op operands, Emitter.pushInt v = Emitter.emit op operands 0 1 := by
      unfold Emitter.pushInt
      dsimp only
      split; · exact ⟨_, _, rfl⟩
      split; · exact ⟨_, _, rfl⟩
      split; · exact ⟨_, _, rfl⟩
      exact ⟨_, _, rfl⟩
    exact .plain (x := ⟨0, 1⟩) (if_pos hsmall) rfl (Nat.zero_le _) hstep
  · have hstep : Emitter.pushInt v = Emitter.pooled (Pool.addInteger v) >>= Emitter.ldc := by
      unfold Emitter.pushInt
      dsimp only
      rw [if_neg (by omega), if_neg (by omega), if_neg (by omega), if_neg hsmall]
    exact .indexed (x := ⟨0, 1⟩) (if_neg hsmall) rfl (Nat.zero_le _) hstep ldc_eq_emit

theorem recipe_load (kind : ValueKind) (slot : UInt16) : (load kind slot).Recipe := by
  obtain ⟨op, operands, hstep⟩ : ∃ op operands,
      Emitter.load kind slot = Emitter.emit op operands 0 (UInt16.ofNat kind.slots) := by
    unfold Emitter.load
    dsimp only
    split; · exact ⟨_, _, rfl⟩
    split <;> exact ⟨_, _, rfl⟩
  exact .plain (x := ⟨0, kind.slots⟩) rfl
    (congrArg (fun n => some (Effect.mk 0 n)) (slots_category kind)) (Nat.zero_le _) hstep

/-- Both kinds of calls, by the opcode and whether it takes a receiver. -/
theorem recipe_invoke {m : MethodSymbol} {op : Opcode} (onReceiver : Bool)
    (hsome : r.addition? = some (.method m)) (hactions : r.actions = [.call onReceiver m])
    (hstep : r.step = Emitter.invoke op m (if onReceiver then 1 else 0)) : r.Recipe := by
  have heffect : r.effect? = (Action.call onReceiver m).effect? := by rw [effect?, hactions]; rfl
  rw [Action.effect?] at heffect
  unfold Emitter.invoke at hstep
  cases ht : MethodType.ofDescriptor m.descriptor with
  | error d =>
    rw [ht] at hstep heffect
    exact .unreadable (by simp [hactions]) heffect (isUnderflow_of_ofDescriptor ht) hstep
  | ok t =>
    rw [ht] at hstep heffect
    have hreceiver : (if onReceiver then 1 else 0 : UInt16) =
        UInt16.ofNat (if onReceiver then 1 else 0) := by cases onReceiver <;> rfl
    have hslots := Emitter.callSlots_eq t (if onReceiver then 1 else 0) (by split <;> decide)
    rw [← hreceiver] at hslots
    dsimp only at hstep
    rw [hslots] at hstep
    by_cases hpops : t.parameterSlots + (if onReceiver then 1 else 0) ≤ 65535
    · rw [Word.checked_of_le hpops] at hstep
      exact .indexed hsome heffect hpops hstep fun i => ⟨op, Written.word16 i, rfl⟩
    · rw [Word.checked_of_lt (Nat.not_le.1 hpops)] at hstep
      exact .uncountable hsome heffect (Nat.not_le.1 hpops) hstep

theorem recipe_narrow (kind : ValueKind) : (narrow kind).Recipe := by
  cases kind with
  | primitive p =>
    cases p with
    | byte | char | short => exact .plain (x := ⟨1, 1⟩) rfl rfl (by decide) rfl
    | _ => exact .idle rfl rfl rfl
  | object | array => exact .idle rfl rfl rfl

theorem recipe (r : Request) : r.Recipe := by
  cases r with
  | aconstNull => exact .plain (x := ⟨0, 1⟩) rfl rfl (by decide) rfl
  | dup => exact .plain (x := ⟨1, 2⟩) rfl rfl (by decide) rfl
  | aastore => exact .plain (x := ⟨3, 0⟩) rfl rfl (by decide) rfl
  | ldcString s => exact .indexed (x := ⟨0, 1⟩) rfl rfl (by decide) rfl ldc_eq_emit
  | pushInt v => exact recipe_pushInt v
  | anewarray name | checkcast name =>
    exact .indexed (x := ⟨1, 1⟩) rfl rfl (by decide) rfl fun i => ⟨_, _, rfl⟩
  | load kind slot => exact recipe_load kind slot
  | invokestatic m => exact recipe_invoke false rfl rfl rfl
  | invokevirtual m => exact recipe_invoke true rfl rfl rfl
  | pop slots =>
    by_cases hslots : slots = 2
    · refine .plain (x := ⟨2, 0⟩) rfl ?_ (by decide) (if_pos hslots)
      rw [effect?, actions, if_pos hslots]
      rfl
    · refine .plain (x := ⟨1, 0⟩) rfl ?_ (by decide) (if_neg hslots)
      rw [effect?, actions, if_neg hslots]
      rfl
  | narrow kind => exact recipe_narrow kind
  | returnValue result =>
    cases result with
    | void => exact .plain (x := ⟨0, 0⟩) rfl rfl (by decide) rfl
    | value kind =>
      exact .plain (x := ⟨kind.slots, 0⟩) rfl
        (congrArg (fun n => some (Effect.mk n 0)) (slots_category kind))
        (Nat.le_trans kind.slots_le (by decide)) rfl

/-- A request leaves more slots than a word can count behind, or takes more. -/
def Overflows (r : Request) (e : Emitter) : Prop :=
  ∃ x, r.effect? = some x ∧
    (65535 < x.pops ∨ x.pops ≤ e.depth.toNat ∧ 65535 < e.depth.toNat - x.pops + x.pushes)

/-- What an emitter makes of a request. -/
inductive Answer (r : Request) (e : Emitter) : Prop where
  /-- There is nothing to do. -/
  | idle (hactions : r.actions = []) (hstep : r.step e = .ok () e)
  /-- The descriptor cannot be read. -/
  | unreadable {d : Defect} (heffect : r.effect? = none) (hd : d.isUnderflow = false)
    (hstep : r.step e = .error (.malformed d) e)
  /-- There is no room for the constants. -/
  | full {pool : Pool} (hfull : ¬ r.Addable e.pool)
    (hstep : r.step e = .error (.notSupported .fullPool) { e with pool })
  /-- The instruction takes more slots than there are. -/
  | short {x : Effect} {pool : Pool} (hadd : r.Addable e.pool) (heffect : r.effect? = some x)
    (hpops : x.pops ≤ 65535) (hlt : e.depth.toNat < x.pops)
    (hstep : r.step e =
      .error (.malformed (.stackUnderflow e.code.size x.pops e.depth.toNat)) { e with pool })
  /-- The slots cannot be counted. -/
  | beyond {pool : Pool} (hadd : r.Addable e.pool) (hover : r.Overflows e)
    (hstep : r.step e = .error .addOverflow { e with pool })
  | emitted {x : Effect} {e' : Emitter} (hadd : r.Addable e.pool) (heffect : r.effect? = some x)
    (hpops : x.pops ≤ e.depth.toNat) (hstep : r.step e = .ok () e')
    (hdepth : e'.depth.toNat = e.depth.toNat - x.pops + x.pushes)
    (hmax : e'.maxDepth.toNat = max e.maxDepth.toNat e'.depth.toNat)

/-- With its constants in the pool, there is the instruction left. -/
theorem answer_emit {pool : Pool} {op : Opcode} {operands : Bytes} (hadd : r.Addable e.pool)
    (heffect : r.effect? = some x) (hpops : x.pops ≤ 65535)
    (hstep : r.step e =
      Emitter.emit op operands (UInt16.ofNat x.pops) (UInt16.ofNat x.pushes) { e with pool }) :
    r.Answer e := by
  have hpushes : x.pushes ≤ 65535 := Nat.le_trans (pushes_le heffect) (by decide)
  rcases Emitter.emit_cases op operands hpops hpushes { e with pool } with
    ⟨hlt, hemit⟩ | ⟨hle, hover, hemit⟩ | ⟨hle, e', hemit, -, hdepth, hmax⟩
  · exact .short hadd heffect hpops hlt (hstep.trans hemit)
  · exact .beyond hadd ⟨x, heffect, .inr ⟨hle, hover⟩⟩ (hstep.trans hemit)
  · exact .emitted hadd heffect hle (hstep.trans hemit) hdepth hmax

theorem answer (r : Request) (e : Emitter) : r.Answer e := by
  have pooled {a : Pool.Addition} (hsome : r.addition? = some a) {f : UInt16 → Emit Unit}
      (hstep : r.step = Emitter.pooled a.edit >>= f)
      (hf : ∀ i pool, r.Addable e.pool → r.step e = f i { e with pool } → r.Answer e) :
      r.Answer e := by
    cases hedit : a.edit e.pool with
    | ok i pool =>
      have hpooled : Emitter.pooled a.edit e = .ok i { e with pool } := by rw [Emitter.pooled, hedit]
      have hadd : r.Addable e.pool := by
        rw [Addable, hsome]
        rintro _ ⟨⟩
        exact ⟨i, pool, hedit⟩
      exact hf i pool hadd (by rw [hstep, bind_of_ok hpooled])
    | error failure pool =>
      obtain rfl := eq_fullPool_of_edit hedit
      have hpooled : Emitter.pooled a.edit e = .error (.notSupported .fullPool) { e with pool } := by
        rw [Emitter.pooled, hedit]
      refine .full (fun hadd => ?_) (by rw [hstep, step_bind_eq_error]; exact .inl hpooled)
      obtain ⟨i, q, hok⟩ := hadd a hsome
      rw [hedit] at hok
      cases hok
  cases r.recipe with
  | idle hactions hnone hstep => exact .idle hactions (congrFun hstep e)
  | unreadable _ heffect hd hstep => exact .unreadable heffect hd (congrFun hstep e)
  | plain hnone heffect hpops hstep =>
    have hadd : r.Addable e.pool := by simp [Addable, hnone]
    exact @answer_emit r e _ e.pool _ _ hadd heffect hpops (congrFun hstep e)
  | indexed hsome heffect hpops hstep hf =>
    refine pooled hsome hstep fun i pool hadd hi => ?_
    obtain ⟨op, operands, hfi⟩ := hf i
    exact answer_emit hadd heffect hpops (hi.trans (congrFun hfi _))
  | @uncountable x _ hsome heffect hpops hstep =>
    exact pooled hsome hstep fun _ _ hadd hi => .beyond hadd ⟨x, heffect, .inl hpops⟩ hi

/-- There is at most one action, and if its effect can be told, it is the one of the request. -/
theorem forall₂_effect? (h : r.effect? = some x) :
    HaveEffects r.actions [x] := by
  have hlength : r.actions.length ≤ 1 := by
    cases r with
    | narrow kind =>
      cases kind with
      | primitive p => cases p <;> decide
      | object | array => exact Nat.zero_le 1
    | _ => exact Nat.le_refl 1
  rw [effect?] at h
  cases hactions : r.actions with
  | nil =>
    rw [hactions] at h
    cases h
  | cons a as =>
    rw [hactions] at h hlength
    obtain rfl : as = [] := List.length_eq_zero_iff.1 (by simpa using hlength)
    exact .cons h .nil

/-- Only a call may take more slots than can be counted. -/
theorem pops_le (hr : r.Countable) (h : r.effect? = some x) : x.pops ≤ 65535 := by
  have call {onReceiver : Bool} {m : MethodSymbol} (hcallee : r.callee? = some m)
      (hactions : r.actions = [.call onReceiver m]) : x.pops ≤ 65535 := by
    rw [effect?, hactions] at h
    obtain ⟨t, ht, hx⟩ := toOption_map_eq_some.1 h
    have hle := hr m hcallee t ht
    rw [← hx]
    dsimp only
    split <;> omega
  cases r with
  | invokestatic m => exact call rfl rfl
  | invokevirtual m => exact call rfl rfl
  | load kind slot =>
    cases h
    exact Nat.zero_le _
  | pop slots =>
    cases h
    dsimp only
    split <;> decide
  | narrow kind =>
    cases kind with
    | primitive p => cases p <;> cases h <;> decide
    | object | array => cases h
  | returnValue result =>
    cases result with
    | void =>
      cases h
      exact Nat.zero_le _
    | value kind =>
      cases h
      cases category kind <;> decide
  | _ =>
    cases h
    decide

/-- The depths of the stack before and behind the request. -/
def depths (r : Request) (e : Emitter) : List Nat :=
  e.depth.toNat :: (if r.succeeds e then r.effect? else none).toList.map fun x =>
    e.depth.toNat - x.pops + x.pushes

/-- The request is refused for want of slots at an offset of the code, where some are needed and fewer
are there. -/
def Underflows (r : Request) (e : Emitter) (offset needed present : Nat) : Prop :=
  ∃ e', r.step e = .error (.malformed (.stackUnderflow offset needed present)) e'

/-- Of a request that is refused for want of slots, the constants are there, and its instruction takes
more than there are. -/
theorem underflows_iff (hr : r.Countable) {offset needed present : Nat} :
    r.Underflows e offset needed present ↔ r.Addable e.pool ∧ offset = e.code.size ∧
      present = e.depth.toNat ∧ present < needed ∧ ∃ pushes, r.effect? = some ⟨needed, pushes⟩ := by
  unfold Request.Underflows
  cases r.answer e with
  | idle hactions hstep =>
    rw [hstep, effect?, hactions]
    simp
  | @unreadable d heffect hd hstep =>
    rw [hstep, heffect]
    simp
    rintro rfl
    cases hd
  | full hfull hstep =>
    rw [hstep]
    simp [hfull]
  | @short x pool hadd heffect _ hlt hstep =>
    rw [hstep, heffect]
    constructor
    · rintro ⟨_, h⟩
      cases h
      exact ⟨hadd, rfl, rfl, hlt, x.pushes, rfl⟩
    · rintro ⟨-, rfl, rfl, -, _, h⟩
      cases h
      exact ⟨_, rfl⟩
  | beyond hadd hover hstep =>
    obtain ⟨x, heffect, hover⟩ := hover
    have hpops := pops_le hr heffect
    rw [hstep, heffect]
    constructor
    · rintro ⟨_, h⟩
      cases h
    · rintro ⟨-, -, rfl, hlt, _, h⟩
      cases h
      dsimp only at hover hpops
      omega
  | emitted hadd heffect hpops hstep =>
    rw [hstep, heffect]
    constructor
    · rintro ⟨_, h⟩
      cases h
    · rintro ⟨-, -, rfl, hlt, _, h⟩
      cases h
      exact absurd hpops (Nat.not_le.2 hlt)

/-- A request breaks off at a sum of words exactly if its constants are there and the sum is no word. -/
theorem step_eq_addOverflow_iff :
    (∃ e', r.step e = .error .addOverflow e') ↔ r.Addable e.pool ∧ r.Overflows e := by
  cases r.answer e with
  | idle hactions hstep =>
    rw [hstep]
    simp [Overflows, effect?, hactions]
  | unreadable heffect hd hstep =>
    rw [hstep]
    simp [Overflows, heffect, Failure.addOverflow]
  | full hfull hstep =>
    rw [hstep]
    simp [hfull, Failure.addOverflow]
  | short hadd heffect hpops hlt hstep =>
    rw [hstep]
    refine ⟨fun ⟨_, h⟩ => (by cases h), fun ⟨_, x, hx, hover⟩ => ?_⟩
    cases heffect.symm.trans hx
    omega
  | beyond hadd hover hstep => exact ⟨fun _ => ⟨hadd, hover⟩, fun _ => ⟨_, hstep⟩⟩
  | @emitted _ e' hadd heffect hpops hstep hdepth =>
    have hbefore := e.depth.toNat_lt
    have hafter := e'.depth.toNat_lt
    rw [hstep]
    refine ⟨fun ⟨_, h⟩ => (by cases h), fun ⟨_, x, hx, hover⟩ => ?_⟩
    cases heffect.symm.trans hx
    omega

end

end Request

end Bytecode

end ScriptProxy
