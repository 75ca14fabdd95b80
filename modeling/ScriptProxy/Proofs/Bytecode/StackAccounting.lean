import ScriptProxy.Proofs.Bytecode.Answers
import ScriptProxy.Proofs.ClassFile.PoolTexts

/-!
# The depth that an emitter keeps

An emitter counts the slots of the operand stack in words of sixteen bits, by what it was asked for. That
is what comes out when the instructions are taken one by one, and a request is refused for want of slots
exactly if its constants are there and its instruction would take more than there are: `accounts_runAll`.
So a machine that does what a method body says never has more slots in use than the body states:
`slotsIn_le_maxStack`.
-/

namespace ScriptProxy.Bytecode

open ClassFile Outcome

namespace Emitter
open Request

/-! ### Counting -/

section
variable {e e' e'' : Emitter} {x : Effect} {as bs : List Action} {ds es : List Nat}

/-- Between the two emitters the actions were emitted, by which the depth goes through `ds`, and the second
one has kept count. -/
structure Tracked (e e' : Emitter) (as : List Action) (ds : List Nat) : Prop where
  depths : ∃ xs, HaveEffects as xs ∧ depths? e.depth.toNat xs = some ds
  last : ds.getLast? = some e'.depth.toNat
  max_eq : e'.maxDepth.toNat = ds.foldl max e.maxDepth.toNat
  le_max : e'.depth.toNat ≤ e'.maxDepth.toNat

namespace Tracked

theorem none (h : e.depth.toNat ≤ e.maxDepth.toNat) : Tracked e e [] [e.depth.toNat] :=
  ⟨⟨[], .nil, rfl⟩, rfl, (Nat.max_eq_left h).symm, h⟩

theorem append (h : Tracked e e' as ds) (h' : Tracked e' e'' bs es) :
    Tracked e e'' (as ++ bs) (ds.dropLast ++ es) := by
  obtain ⟨xs, hxs, hds⟩ := h.depths
  obtain ⟨ys, hys, hes⟩ := h'.depths
  refine ⟨⟨xs ++ ys, List.rel_append hxs hys, depths?_append hds h.last hes⟩, ?_, ?_, h'.le_max⟩
  · rw [List.getLast?_append, h'.last, Option.some_or]
  · obtain ⟨rest, rfl⟩ := exists_cons_of_depths? hes
    have hsplit : ds = ds.dropLast ++ [e'.depth.toNat] :=
      (List.dropLast_append_getLast? _ h.last).symm
    rw [h'.max_eq, h.max_eq, hsplit]
    simp [List.foldl_append]

theorem emit (h : e.depth.toNat ≤ e.maxDepth.toNat) (has : HaveEffects as [x])
    (hpops : x.pops ≤ e.depth.toNat) (hdepth : e'.depth.toNat = e.depth.toNat - x.pops + x.pushes)
    (hmax : e'.maxDepth.toNat = max e.maxDepth.toNat e'.depth.toNat) :
    Tracked e e' as [e.depth.toNat, e.depth.toNat - x.pops + x.pushes] := by
  refine ⟨⟨[x], has, ?_⟩, congrArg some hdepth.symm, ?_, hmax ▸ Nat.le_max_right ..⟩
  · exact depths?_cons.2 ⟨hpops, _, rfl, rfl⟩
  · rw [hmax, hdepth, List.foldl_cons, List.foldl_cons, List.foldl_nil, Nat.max_eq_left h]

/-- A request that fails leaves the count as it is. -/
theorem step (h : e.depth.toNat ≤ e.maxDepth.toNat) (r : Request) :
    Tracked e (left (r.step e)) (if r.succeeds e then r.actions else []) (r.depths e) := by
  have hpool (pool : Pool) : Tracked e { e with pool } [] [e.depth.toNat] :=
    ⟨⟨[], .nil, rfl⟩, rfl, (Nat.max_eq_left h).symm, h⟩
  unfold Request.depths Request.succeeds
  cases r.answer e with
  | idle hactions hstep =>
    rw [hstep, effect?, hactions]
    exact none h
  | unreadable _ _ hstep =>
    rw [hstep]
    exact none h
  | @full pool _ hstep | @short _ pool _ _ _ _ hstep | @beyond pool _ _ hstep =>
    rw [hstep]
    exact hpool pool
  | emitted _ heffect hpops hstep hdepth hmax =>
    rw [hstep, heffect]
    exact emit h (forall₂_effect? heffect) hpops hdepth hmax

/-- The actions of a run are those of its first request, if that succeeds, and those of the others. -/
theorem actions_cons (r : Request) (rs : List Request) (e : Emitter) :
    (succeeding (r :: rs) e).flatMap Request.actions = (if r.succeeds e then r.actions else []) ++
      (succeeding rs (left (r.step e))).flatMap Request.actions := by
  rw [succeeding]
  split <;> simp

theorem runAll (h : e.depth.toNat ≤ e.maxDepth.toNat) (rs : List Request) :
    ∃ ds, Tracked e (runAll rs e) ((succeeding rs e).flatMap Request.actions) ds := by
  induction rs generalizing e with
  | nil => exact ⟨_, none h⟩
  | cons r rs ih =>
    have hstep := step h r
    obtain ⟨es, hrun⟩ := ih hstep.le_max
    rw [actions_cons]
    exact ⟨_, hstep.append hrun⟩

section
variable {pool : Pool} (hemitted : Emitted (.start pool) e as) (h : Tracked (.start pool) e as ds)
include hemitted h

theorem stackDepths?_eq : stackDepths? e.pool e.code.toList = some ds := by
  obtain ⟨us, hus, hcode, hact⟩ := hemitted.code
  obtain ⟨xs, hxs, hds⟩ := h.depths
  rw [hcode]
  exact (stackDepths?_assemble hus hact hxs).trans hds

/-- What the emitter counts is what comes out when the instructions are taken one by one. -/
theorem replays : Replays e.pool e.code.toList e.depth.toNat e.maxDepth.toNat := by
  obtain ⟨xs, -, hds⟩ := h.depths
  refine ⟨ds, stackDepths?_eq hemitted h, h.last, ?_⟩
  obtain ⟨rest, rfl⟩ := exists_cons_of_depths? hds
  rw [h.max_eq, List.max?_cons', List.foldl_cons]
  rfl

end

end Tracked

end

/-! ### Runs -/

theorem runAll_append (rs rs' : List Request) (e : Emitter) :
    runAll (rs ++ rs') e = runAll rs' (runAll rs e) := List.foldl_append

theorem of_finish {e : Emitter} {maxLocals : UInt16} {c : Code} (h : e.finish maxLocals = .ok c) :
    c.maxStack = e.maxDepth ∧ c.instructions = e.code.toList := by
  unfold finish at h
  split at h
  · cases h
  · cases h
    exact ⟨rfl, rfl⟩

section
variable {pool : Pool} (hp : pool.Reachable) {rs : List Request} {maxLocals : UInt16} {c : Code}
  (hfinish : (runAll rs (.start pool)).finish maxLocals = .ok c)
include hp

theorem tracked_start (rs : List Request) : ∃ ds,
    Tracked (.start pool) (runAll rs (.start pool))
      ((succeeding rs (.start pool)).flatMap Request.actions) ds ∧
    stackDepths? (runAll rs (.start pool)).pool (runAll rs (.start pool)).code.toList = some ds ∧
    Replays (runAll rs (.start pool)).pool (runAll rs (.start pool)).code.toList
      (runAll rs (.start pool)).depth.toNat (runAll rs (.start pool)).maxDepth.toNat := by
  have hemitted := emitted_runAll (e := .start pool) rs hp.wellFormed
  obtain ⟨ds, h⟩ := Tracked.runAll (e := .start pool) (Nat.le_refl 0) rs
  exact ⟨ds, h, h.stackDepths?_eq hemitted, h.replays hemitted⟩

include hfinish

/-- A machine that does what the code says has no more slots in use, wherever it is, than the method
body states. -/
theorem slotsIn_le_maxStack {O : Type} {w : World O} {f : Frame O} {s s' : State O}
    (hs : s.stack = []) {as bs : List Action}
    (hactions : (succeeding rs (.start pool)).flatMap Request.actions = as ++ bs)
    (hrun : as.foldlM (State.perform w f) s = .ok s') : slotsIn s'.stack ≤ c.maxStack.toNat := by
  obtain ⟨hmax, hcode⟩ := of_finish hfinish
  obtain ⟨ds, h, hall, _, hds, -, hheight⟩ := tracked_start hp rs
  obtain rfl := Option.some.inj (hall.symm.trans hds)
  obtain ⟨xs, hxs, hds⟩ := h.depths
  rw [hactions] at hxs
  have hfront : HaveEffects as (xs.take as.length) :=
    (List.forall₂_take_append xs as bs hxs.flip).flip
  rw [← List.take_append_drop as.length xs] at hds
  obtain ⟨es, hes, hfirst⟩ := depths?_prefix hds
  have hlast := slotsIn_performAll hfront (by rw [hs]; exact hes) hrun
  rw [hmax]
  exact (List.max?_eq_some_iff.1 hheight).2 _ (hfirst.subset (List.mem_of_getLast? hlast))

/-- If no call takes too many slots to be counted, what the emitter counts is what comes out when the
instructions are taken one by one, in the end and in between, and a request is refused for want of slots
exactly if its constants are there and its instruction would take more slots than there are. -/
theorem accounts_runAll (hcalls : ∀ r ∈ rs, r.Countable) :
    Replays (runAll rs (.start pool)).pool c.instructions (runAll rs (.start pool)).depth.toNat
        c.maxStack.toNat ∧
      ∀ before r after, rs = before ++ r :: after →
        let e := runAll before (.start pool)
        Replays e.pool e.code.toList e.depth.toNat e.maxDepth.toNat ∧
          ∀ offset needed present, r.Underflows e offset needed present ↔
            r.Addable e.pool ∧ offset = e.code.size ∧ present = e.depth.toNat ∧ present < needed ∧
              ∃ pushes, r.effect? = some ⟨needed, pushes⟩ := by
  obtain ⟨hmax, hcode⟩ := of_finish hfinish
  have hreplays (rs : List Request) :
      Replays (runAll rs (.start pool)).pool (runAll rs (.start pool)).code.toList
        (runAll rs (.start pool)).depth.toNat (runAll rs (.start pool)).maxDepth.toNat := by
    obtain ⟨_, -, -, h⟩ := tracked_start hp rs
    exact h
  rw [hcode, hmax]
  refine ⟨hreplays rs, fun before r after hrs => ⟨hreplays before, fun _ _ _ => ?_⟩⟩
  exact underflows_iff (hcalls r (by simp [hrs]))

end

/-- A number is not enough for a call of a method of an object with a wide argument, which comes to
three slots. With the receiver and the argument in its place, the same call is made. -/
def callRequests : List Request :=
  [.pushInt 7, .invokevirtual ⟨"A", "f", "(J)I"⟩, .load (.primitive .long) 1,
    .invokevirtual ⟨"A", "f", "(J)I"⟩, .returnValue (.value (.primitive .int))]

theorem accounts_runAll_call :
    (runAll callRequests (.start .empty)).finish 3 =
        .ok ⟨3, 3, [0x10, 7, 0x1F, 0xB6, 0, 6, 0xAC], [], []⟩ ∧
      Replays (runAll callRequests (.start .empty)).pool [0x10, 7, 0x1F, 0xB6, 0, 6, 0xAC] 0 3 ∧
      (Request.invokevirtual ⟨"A", "f", "(J)I"⟩).Underflows (runAll [.pushInt 7] (.start .empty))
        2 3 1 := by
  have hfinish : (runAll callRequests (.start .empty)).finish 3 =
      .ok ⟨3, 3, [0x10, 7, 0x1F, 0xB6, 0, 6, 0xAC], [], []⟩ :=
    eq_ok_of_toOption (by decide +kernel)
  have hcalls : ∀ r ∈ callRequests, r.Countable := by
    have hslots (t : MethodType) (ht : MethodType.ofDescriptor "(J)I" = .ok t) :
        t.parameterSlots ≤ 65534 := by
      have hlong : (MethodType.ofDescriptor "(J)I").toOption =
          some ⟨[.primitive .long], .value (.primitive .int)⟩ := by decide +kernel
      rw [eq_ok_of_toOption hlong] at ht
      cases ht
      decide
    simp only [callRequests, List.forall_mem_cons, Request.Countable, Request.callee?]
    simpa using hslots
  have hroom : EStateM.run' (Pool.Addition.method ⟨"A", "f", "(J)I"⟩).edit .empty = some 6 := by
    decide +kernel
  obtain ⟨hreplays, hsplits⟩ := accounts_runAll .empty hfinish hcalls
  have hdepth : (runAll callRequests (.start .empty)).depth = 0 := by decide +kernel
  rw [hdepth] at hreplays
  refine ⟨hfinish, hreplays, ((hsplits [.pushInt 7] _ _ rfl).2 2 3 1).2
    ⟨?_, by decide +kernel, by decide +kernel, by decide, 1, by decide +kernel⟩⟩
  rintro _ ⟨⟩
  delta EStateM.run' at hroom
  split at hroom
  · next hedit => exact ⟨_, _, hedit⟩
  · cases hroom

theorem step_anewarray_of_full {p : Pool} {name : String}
    (h : Pool.addText name p = .error (.notSupported .fullPool) p) :
    (Request.anewarray name).step (.start p) = .error (.notSupported .fullPool) (.start p) := by
  have hclass : Pool.addClass name p = .error (.notSupported .fullPool) p :=
    step_bind_eq_error.2 (.inl h)
  refine step_bind_eq_error.2 (.inl ?_)
  rw [pooled, start, hclass]

/-- A full pool has no room for the name of a class. So an array is refused for that even where there is
no length on the stack. -/
theorem refuses_anewarray_filled :
    (Pool.filled 65533).Reachable ∧
      let e := runAll [.anewarray "B", .aconstNull] (.start (Pool.filled 65533))
      e.finish 0 = .ok ⟨1, 0, [1], [], []⟩ ∧ stackDepths? e.pool [1] = some [0, 1] ∧
        (Request.anewarray "B").effect? = some ⟨1, 1⟩ ∧ (start (Pool.filled 65533)).depth = 0 ∧
        ∀ offset needed present,
          ¬ (Request.anewarray "B").Underflows (.start (Pool.filled 65533)) offset needed present := by
  have hreachable : (Pool.filled 65533).Reachable := Pool.reachable_filled (Nat.le_refl Pool.limit)
  have htext : Pool.addText "B" (Pool.filled 65533) =
      .error (.notSupported .fullPool) (Pool.filled 65533) :=
    Pool.intern_filled (fun h => absurd (Constant.utf8.inj h) (by decide)) (by simp)
  -- from here on the pool is not looked into any more
  generalize Pool.filled 65533 = p at hreachable htext
  have hstep := step_anewarray_of_full htext
  have hnull : Request.aconstNull.step (start p) = .ok () ⟨p, #[1], 1, 1⟩ := by
    simp [Request.step, aconstNull, emit, start, show Opcode.aconstNull.code = 1 from rfl,
      show Word.add 0 1 = .ok 1 from rfl]
  have hrun : runAll [.anewarray "B", .aconstNull] (.start p) = ⟨p, #[1], 1, 1⟩ := by
    rw [runAll, List.foldl_cons, hstep, List.foldl_cons, left, hnull]
    rfl
  refine ⟨hreachable, ?_⟩
  rw [hrun]
  refine ⟨rfl, rfl, rfl, rfl, ?_⟩
  rintro offset needed present ⟨_, h⟩
  rw [hstep] at h
  cases h

end Emitter

end ScriptProxy.Bytecode
