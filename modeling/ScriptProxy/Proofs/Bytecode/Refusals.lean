import ScriptProxy.Proofs.Bytecode.Answers

/-!
# What is left to fail for

Where a step finds as many slots on the stack as its instructions take, and can read the descriptors of
its calls, all that it can fail for are its constants: `Hinges`. There is one lemma for each request,
`Hinges.request`, and `Hinges.bind` puts them together.
-/

namespace ScriptProxy.Bytecode

open ClassFile Outcome

/-- What is added to the pool for the instruction that does an action. -/
def Action.addition? : Action → Option Pool.Addition
  | text s => some (.string s)
  | int v => if -32768 ≤ v.toInt ∧ v.toInt ≤ 32767 then none else some (.integer v)
  | newArray name | cast name => some (.classRef name)
  | call _ m => some (.method m)
  | _ => none

/-- What is added to the pool for some actions, one after the other. -/
def additions (as : List Action) : List Pool.Addition := as.filterMap Action.addition?

theorem additions_append (as bs : List Action) : additions (as ++ bs) = additions as ++ additions bs :=
  List.filterMap_append

/-- With `d` slots on the stack, the step adds the constants of the actions and leaves `d'` slots there,
unless adding the constants fails. Then so does the step. -/
def Hinges (step : Emit Unit) (as : List Action) (d d' : Nat) : Prop :=
  ∀ e : Emitter, e.depth.toNat = d →
    match (additions as).mapM Pool.Addition.edit e.pool with
    | .ok _ q => ∃ e', step e = .ok () e' ∧ e'.pool = q ∧ e'.depth.toNat = d'
    | .error f q => ∃ e', step e = .error f e' ∧ e'.pool = q

namespace Hinges
variable {x y : Emit Unit} {as bs : List Action} {d d' d'' : Nat}

theorem pure : Hinges (Pure.pure ()) [] d d := fun e he => ⟨e, rfl, rfl, he⟩

theorem bind (hx : Hinges x as d d') (hy : Hinges y bs d' d'') :
    Hinges (x >>= fun _ => y) (as ++ bs) d d'' := by
  intro e he
  have hxe := hx e he
  rw [additions_append, List.mapM_append]
  cases has : (additions as).mapM Pool.Addition.edit e.pool with
  | error f q =>
    rw [has] at hxe
    obtain ⟨e', hxe, hq⟩ := hxe
    rw [step_bind_eq_error.2 (.inl has)]
    exact ⟨e', step_bind_eq_error.2 (.inl hxe), hq⟩
  | ok is q =>
    rw [has] at hxe
    obtain ⟨e', hxe, rfl, hd⟩ := hxe
    have hye := hy e' hd
    rw [bind_of_ok has, bind_of_ok hxe]
    cases hbs : (additions bs).mapM Pool.Addition.edit e'.pool with
    | error f q =>
      rw [hbs] at hye
      rw [step_bind_eq_error.2 (.inl hbs)]
      exact hye
    | ok js q =>
      rw [hbs] at hye
      rw [bind_of_ok hbs]
      exact hye

/-! ### One request -/

theorem additions_actions (r : Request) : additions r.actions = r.addition?.toList := by
  cases r with
  | pushInt v =>
    by_cases hsmall : -32768 ≤ v.toInt ∧ v.toInt ≤ 32767 <;>
      simp [additions, Request.actions, Request.addition?, Action.addition?, hsmall]
  | narrow kind =>
    cases kind with
    | primitive p => cases p <;> rfl
    | object | array => rfl
  | _ => rfl

/-- An instruction that takes no more than there is. -/
theorem emitted {e : Emitter} {t : Effect} (op : Opcode) (operands : Bytes) (hpops : t.pops ≤ 65535)
    (he : e.depth.toNat = d + t.pops) (hd : d + t.pushes ≤ 65535) :
    ∃ e', Emitter.emit op operands (UInt16.ofNat t.pops) (UInt16.ofNat t.pushes) e = .ok () e' ∧
      e'.pool = e.pool ∧ e'.depth.toNat = d + t.pushes := by
  have hleft : e.depth.toNat - t.pops = d := by omega
  rcases Emitter.emit_cases op operands hpops (by omega) e with
    ⟨hlt, -⟩ | ⟨-, hover, -⟩ | ⟨-, e', hemit, hpool, hdepth, -⟩
  · omega
  · omega
  · exact ⟨e', hemit, hpool, by rw [hdepth, hleft]⟩

/-- The effect of a request is that of its instruction, with `d` slots below. -/
theorem request {r : Request} {t : Effect} (hr : r.Countable) (ht : r.effect? = some t)
    (hd : d + t.pushes ≤ 65535) : Hinges r.step r.actions (d + t.pops) (d + t.pushes) := by
  intro e he
  rw [additions_actions]
  cases r.recipe with
  | idle hactions => simp [Request.effect?, hactions] at ht
  | unreadable _ heffect => simp [heffect] at ht
  | @plain _ op operands hnone heffect hpops hstep =>
    obtain rfl := Option.some.inj (heffect.symm.trans ht)
    rw [hnone, hstep]
    exact emitted op operands hpops he hd
  | uncountable _ heffect hpops =>
    obtain rfl := Option.some.inj (heffect.symm.trans ht)
    exact absurd (Request.pops_le hr ht) (Nat.not_le.2 hpops)
  | @indexed _ a f hsome heffect hpops hstep hf =>
    obtain rfl := Option.some.inj (heffect.symm.trans ht)
    rw [hsome, hstep]
    show match (List.mapM Pool.Addition.edit [a] e.pool) with | .ok _ q => _ | .error f q => _
    cases hedit : a.edit e.pool with
    | ok i q =>
      obtain ⟨op, operands, hfi⟩ := hf i
      have hpooled : Emitter.pooled a.edit e = .ok i { e with pool := q } := by
        rw [Emitter.pooled, hedit]
      rw [List.mapM_cons, bind_of_ok hedit, bind_of_ok hpooled, hfi]
      exact emitted op operands hpops he hd
    | error f q =>
      have hpooled : Emitter.pooled a.edit e = .error f { e with pool := q } := by
        rw [Emitter.pooled, hedit]
      rw [List.mapM_cons, step_bind_eq_error.2 (.inl hedit)]
      exact ⟨_, step_bind_eq_error.2 (.inl hpooled), rfl⟩

/-- A call, with its arguments and its receiver on top of `d` slots. -/
theorem call {r : Request} {m : MethodSymbol} {t : MethodType} (onReceiver : Bool)
    (hactions : r.actions = [.call onReceiver m]) (hm : r.callee? = some m)
    (ht : MethodType.ofDescriptor m.descriptor = .ok t) (hslots : t.parameterSlots ≤ 65534)
    (hd : d + t.result.slots ≤ 65535) :
    Hinges r.step r.actions (d + (t.parameterSlots + if onReceiver then 1 else 0))
      (d + t.result.slots) := by
  refine request (t := ⟨_, _⟩) ?_ ?_ hd
  · intro m' hm' t' ht'
    obtain rfl := Option.some.inj (hm.symm.trans hm')
    cases ht.symm.trans ht'
    exact hslots
  · rw [Request.effect?, hactions]
    show (MethodType.ofDescriptor m.descriptor).toOption.map _ = _
    rw [ht]
    rfl

end Hinges

end ScriptProxy.Bytecode
