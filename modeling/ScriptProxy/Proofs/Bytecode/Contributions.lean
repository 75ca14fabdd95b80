import ScriptProxy.Proofs.Bytecode.Requests

/-!
# What each request of a run contributes

A request that fails contributes nothing: the code and the two depths are what they were, and the pool
has at most more constants at its end. One that succeeds contributes the bytes that it puts behind the
code. So the code of a run is what its successful requests have contributed, one after the other, and
each contribution is decoded into instructions that do what was asked for, in the pool as it is in the
end: `contributed_runAll`.
-/

namespace ScriptProxy.Bytecode

open ClassFile Outcome

/-- The bytes that were emitted between two emitters are instructions that do the actions, in every pool
that extends the later one. -/
theorem Emitted.exists_decode {e e' : Emitter} {as : List Action} {q : Pool} (h : Emitted e e' as)
    (hq : e'.pool.Extends q) :
    ∃ is, decode (e'.code.toList.drop e.code.size) = .ok is ∧
      List.Forall₂ (fun i a => Unplaced.action? q ⟨i.opcode, i.operands⟩ = some a) is as := by
  obtain ⟨us, hus, hcode, hact⟩ := h.code
  have hbytes : e'.code.toList.drop e.code.size = assemble us := by
    rw [hcode, ← Array.length_toList, List.drop_left]
  have hact : List.Forall₂ (fun u a => u.action? q = some a) us as :=
    hact.imp fun u a hu => Unplaced.action?_of_extends hq hu
  rw [← map_placed 0 us, List.forall₂_map_left_iff] at hact
  exact ⟨placed 0 us, by rw [hbytes, decode_assemble hus], hact⟩

namespace Emitter

/-- The requests of a run that succeed, each with the bytes that it puts behind the code. -/
def contributions : List Request → Emitter → List (Request × Bytes)
  | [], _ => []
  | r :: rs, e =>
    match r.step e with
    | .ok _ e' => (r, e'.code.toList.drop e.code.size) :: contributions rs e'
    | .error _ e' => contributions rs e'

variable {e : Emitter} {rs : List Request}

theorem runAll_cons (r : Request) (rs : List Request) (e : Emitter) :
    runAll (r :: rs) e = runAll rs (left (r.step e)) := rfl

theorem map_fst_contributions (rs : List Request) (e : Emitter) :
    (contributions rs e).map Prod.fst = succeeding rs e := by
  induction rs generalizing e with
  | nil => rfl
  | cons r rs ih =>
    unfold contributions succeeding Request.succeeds
    cases r.step e with
    | ok _ e' => simp [ih, left]
    | error _ e' => simp [ih, left]

/-- No byte of the code comes from anything but a request that succeeds. -/
theorem code_runAll (rs : List Request) (he : e.pool.WellFormed) :
    (runAll rs e).code.toList = e.code.toList ++ (contributions rs e).flatMap Prod.snd := by
  induction rs generalizing e with
  | nil => simp [runAll, contributions]
  | cons r rs ih =>
    unfold contributions
    cases hr : r.step e with
    | ok _ e' =>
      have h := r.emits e e' he hr
      obtain ⟨us, -, hcode, -⟩ := h.code
      have hrun : runAll (r :: rs) e = runAll rs e' := by rw [runAll_cons, hr, left]
      have hdrop : e.code.toList ++ e'.code.toList.drop e.code.size = e'.code.toList := by
        rw [hcode, ← Array.length_toList, List.drop_left]
      rw [hrun, ih h.wellFormed, List.flatMap_cons, ← List.append_assoc, hdrop]
    | error f e' =>
      have h := r.spares e f e' he hr
      have hrun : runAll (r :: rs) e = runAll rs e' := by rw [runAll_cons, hr, left]
      have hcode : e'.code = e.code := by rw [h.rest]
      rw [hrun, ih h.wellFormed, hcode]

/-- What was contributed stays what it is while the pool goes on growing. -/
theorem exists_decode_of_mem (he : e.pool.WellFormed) {r : Request} {bs : Bytes}
    (h : (r, bs) ∈ contributions rs e) :
    ∃ is, decode bs = .ok is ∧ List.Forall₂
      (fun i a => Unplaced.action? (runAll rs e).pool ⟨i.opcode, i.operands⟩ = some a) is r.actions := by
  induction rs generalizing e with
  | nil => cases h
  | cons r' rs ih =>
    unfold contributions at h
    cases hr : r'.step e with
    | ok _ e' =>
      have hemits := r'.emits e e' he hr
      have hrun : runAll (r' :: rs) e = runAll rs e' := by rw [runAll_cons, hr, left]
      rw [hr] at h
      rw [hrun]
      rcases List.mem_cons.1 h with h | h
      · cases h
        exact hemits.exists_decode (emitted_runAll rs hemits.wellFormed).grown
      · exact ih hemits.wellFormed h
    | error f e' =>
      have hrun : runAll (r' :: rs) e = runAll rs e' := by rw [runAll_cons, hr, left]
      rw [hr] at h
      rw [hrun]
      exact ih (r'.spares e f e' he hr).wellFormed h

/-- Wherever a run begins and whichever of its requests fail: one that fails changes nothing but the
pool, to the end of which it may have added constants, and the code behind where the run began is what
the requests that succeed have put there, each of them instructions that do what it asks for in the pool
as it is in the end. -/
theorem contributed_runAll (he : e.pool.Reachable) (rs : List Request) :
    (∀ before r after f e', rs = before ++ r :: after → r.step (runAll before e) = .error f e' →
      e' = { runAll before e with pool := e'.pool } ∧ (runAll before e).pool.Extends e'.pool) ∧
    (contributions rs e).map Prod.fst = succeeding rs e ∧
    (runAll rs e).code.toList = e.code.toList ++ (contributions rs e).flatMap Prod.snd ∧
    ∀ r bs, (r, bs) ∈ contributions rs e → ∃ is, decode bs = .ok is ∧ List.Forall₂
      (fun i a => Unplaced.action? (runAll rs e).pool ⟨i.opcode, i.operands⟩ = some a) is r.actions := by
  refine ⟨?_, map_fst_contributions rs e, code_runAll rs he.wellFormed, ?_⟩
  · intro before r after f e' _ hr
    have hbefore := (emitted_runAll before he.wellFormed).wellFormed
    have h := r.spares (runAll before e) f e' hbefore hr
    exact ⟨h.rest, h.grown⟩
  · intro r bs h
    exact exists_decode_of_mem he.wellFormed h

/-- Too few slots, a call of no descriptor, and a call without its arguments. That one leaves constants
behind. -/
def failingRequests : List Request :=
  [.ldcString "a", .pop 2, .invokestatic ⟨"A", "f", "(I"⟩, .invokevirtual ⟨"A", "f", "(J)I"⟩,
    .checkcast "B"]

theorem contributed_runAll_failing :
    let e := runAll (failingRequests.take 3) (.start .empty)
    let e' := left ((Request.invokevirtual ⟨"A", "f", "(J)I"⟩).step e)
    (e.pool.count = 3 ∧ e'.pool.count = 9 ∧ e' = { e with pool := e'.pool }) ∧
      (runAll failingRequests (.start .empty)).code.toList = [0x12, 2, 0xC0, 0, 10] ∧
      ∃ is, decode [0xC0, 0, 10] = .ok is ∧ List.Forall₂
        (fun i a => Unplaced.action? (runAll failingRequests (.start .empty)).pool
          ⟨i.opcode, i.operands⟩ = some a) is [.cast "B"] := by
  obtain ⟨hfails, -, hcode, hmem⟩ :=
    contributed_runAll (e := .start .empty) .empty failingRequests
  have hcontributions : contributions failingRequests (.start .empty) =
      [(.ldcString "a", [0x12, 2]), (.checkcast "B", [0xC0, 0, 10])] := by decide +kernel
  rw [hcontributions] at hcode hmem
  refine ⟨⟨by decide +kernel, by decide +kernel, ?_⟩, hcode, hmem (.checkcast "B") _ (by simp)⟩
  have hfailed : (Request.invokevirtual ⟨"A", "f", "(J)I"⟩).succeeds
      (runAll (failingRequests.take 3) (.start .empty)) = false := by decide +kernel
  unfold Request.succeeds at hfailed
  split at hfailed
  · cases hfailed
  · next f e' hr =>
    rw [hr]
    exact (hfails (failingRequests.take 3) _ [.checkcast "B"] f e' rfl hr).1

end Emitter

end ScriptProxy.Bytecode
