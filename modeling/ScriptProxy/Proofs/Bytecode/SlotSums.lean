import ScriptProxy.Proofs.Bytecode.StackAccounting
import ScriptProxy.Proofs.ClassFile.Descriptor

/-!
# When sixteen bits are enough

The slots that the arguments of a call take up and the depth of the operand stack are counted in words
of sixteen bits, and neither the reader of descriptors nor the emitter sees to it that these are enough:
where a sum is no word, a request breaks off. So the depth that a method body states is always the
greatest one, and `sums_runAll` says which requests break off. Behind up to 32766 bytes of code, no
request does but a call whose descriptor has more than 32770 characters. The 32768th load of a wide
variable does, and so does a call with as many wide arguments.
-/

namespace ScriptProxy

open ClassFile Outcome

/-! ### Descriptors -/

namespace ClassFile

theorem ValueKind.slots_le_length (k : ValueKind) : k.slots ≤ 2 * k.chars.length := by
  obtain ⟨c, tail, hchars, -⟩ := k.exists_chars
  have hslots := k.slots_le
  have hlength : k.chars.length = tail.length + 1 := by rw [hchars, List.length_cons]
  omega

namespace MethodType

theorem foldl_slots_le (ks : List ValueKind) (n : Nat) :
    ks.foldl (fun slots kind => slots + kind.slots) n ≤
      n + 2 * (ks.flatMap ValueKind.chars).length := by
  induction ks generalizing n with
  | nil => simp
  | cons k ks ih =>
    have hk := k.slots_le_length
    have hks := ih (n + k.slots)
    have hlength : ((k :: ks).flatMap ValueKind.chars).length =
        k.chars.length + (ks.flatMap ValueKind.chars).length := List.length_append
    rw [List.foldl_cons]
    omega

/-- Each slot but one in two has a character of its own, beside the parentheses and the result. -/
theorem parameterSlots_le {d : String} {t : MethodType} (h : ofDescriptor d = .ok t) :
    t.parameterSlots + 6 ≤ 2 * d.length := by
  have hslots := foldl_slots_le t.parameters 0
  have hresult : 1 ≤ t.result.chars.length := by
    cases t.result with
    | void => exact Nat.le_refl 1
    | value k =>
      obtain ⟨c, tail, hchars, -⟩ := k.exists_chars
      rw [ReturnKind.chars, hchars]
      exact Nat.succ_le_succ (Nat.zero_le _)
  have hlength : d.length =
      (t.parameters.flatMap ValueKind.chars).length + t.result.chars.length + 2 := by
    rw [← String.length_toList, toList_of_ofDescriptor h, chars]
    simp
    omega
  unfold parameterSlots
  omega

end MethodType

end ClassFile

namespace Bytecode

/-! ### Bounds on the depth -/

section
variable {d : Nat} {a : Action} {x : Effect} {as : List Action} {xs : List Effect} {ds : List Nat}

theorem depths?_le (h : HaveEffects as xs) (hds : depths? d xs = some ds) :
    ∀ d' ∈ ds, d' ≤ d + 2 * as.length := by
  induction h generalizing d ds with
  | nil =>
    cases hds
    simp
  | cons ha _ ih =>
    obtain ⟨-, es, hes, rfl⟩ := depths?_cons.1 hds
    have hpushes := Action.pushes_le ha
    intro d' hd'
    rw [List.length_cons]
    rcases List.mem_cons.1 hd' with rfl | hd'
    · omega
    · have hle := ih hes d' hd'
      omega

/-- Each instruction has a byte at least. -/
theorem Emitted.length_actions_le {e e' : Emitter} (h : Emitted e e' as) :
    as.length ≤ e'.code.size := by
  obtain ⟨us, hus, hcode, hact⟩ := h.code
  have hlength := (length_assemble hus).1
  have hsize : e'.code.size = e.code.size + (assemble us).length := by
    rw [← Array.length_toList, hcode, List.length_append, Array.length_toList]
  rw [← hact.length_eq]
  omega

end

/-! ### Runs -/

namespace Emitter
open Request

section
variable {pool : Pool} (hp : pool.Reachable)
include hp

theorem depth_le (rs : List Request) : (runAll rs (.start pool)).depth.toNat ≤
    2 * (runAll rs (.start pool)).code.size := by
  obtain ⟨ds, h, -, -⟩ := tracked_start hp rs
  obtain ⟨xs, hxs, hds⟩ := h.depths
  have hlast := depths?_le hxs hds _ (List.mem_of_getLast? h.last)
  have hactions := (emitted_runAll (e := .start pool) rs hp.wellFormed).length_actions_le
  have hstart : (start pool).depth.toNat = 0 := rfl
  omega

/-- The words are enough for a request unless there is much code or the descriptor of its call is long. -/
theorem not_overflows {rs : List Request} {r : Request}
    (hsize : (runAll rs (.start pool)).code.size ≤ 32766)
    (hcall : ∀ m ∈ r.callee?, m.descriptor.length ≤ 32770) :
    ¬ r.Overflows (runAll rs (.start pool)) := by
  rintro ⟨x, hx, hover⟩
  have hdepth := depth_le hp rs
  have hpushes := pushes_le hx
  have hcountable : r.Countable := by
    intro m hm t ht
    have hslots := MethodType.parameterSlots_le ht
    have hlength := hcall m hm
    omega
  have hpops := pops_le hcountable hx
  omega

/-- The slots of the parameters are added up exactly or, if they come to more than 65535, the addition
breaks off. The depths of the code are all exact and the method body states the greatest one, since a
request whose constants are there breaks off exactly if the slots that it takes or leaves come to more
than 65535. -/
theorem sums_runAll (rs : List Request) :
    (∀ d t, MethodType.ofDescriptor d = .ok t →
      (t.parameterSlots ≤ 65535 → ∃ w, t.slotWord = .ok w ∧ w.toNat = t.parameterSlots) ∧
      (65535 < t.parameterSlots → t.slotWord = .error .addOverflow) ∧
      (d.length ≤ 32770 → t.parameterSlots ≤ 65534)) ∧
    (∀ maxLocals c, (runAll rs (.start pool)).finish maxLocals = .ok c → ∃ ds,
      stackDepths? (runAll rs (.start pool)).pool c.instructions = some ds ∧
      (∀ d ∈ ds, d ≤ 65535) ∧ ds.max? = some c.maxStack.toNat) ∧
    ∀ before r after, rs = before ++ r :: after →
      let e := runAll before (.start pool)
      ((∃ e', r.step e = .error .addOverflow e') ↔ r.Addable e.pool ∧ r.Overflows e) ∧
      (e.code.size ≤ 32766 → (∀ m ∈ r.callee?, m.descriptor.length ≤ 32770) → ¬ r.Overflows e) := by
  refine ⟨fun d t ht => ⟨fun hle => ?_, fun hlt => ?_, fun hd => ?_⟩, fun maxLocals c hfinish => ?_,
    fun before r after _ => ⟨step_eq_addOverflow_iff, not_overflows hp⟩⟩
  · rw [t.slotWord_eq]
    exact ⟨_, Word.checked_of_le hle, Word.toNat_of_le hle⟩
  · rw [t.slotWord_eq]
    exact Word.checked_of_lt hlt
  · have hslots := MethodType.parameterSlots_le ht
    omega
  · obtain ⟨hmax, hcode⟩ := of_finish hfinish
    obtain ⟨-, -, -, ds, hds, -, hheight⟩ := tracked_start hp rs
    rw [hcode, hmax]
    refine ⟨ds, hds, fun d hd => ?_, hheight⟩
    have hle := (List.max?_eq_some_iff.1 hheight).2 d hd
    have hlt := (runAll rs (.start pool)).maxDepth.toNat_lt
    omega

end

/-- A wide variable is loaded that many times. -/
def wideLoads (n : Nat) : List Request := List.replicate n (.load (.primitive .long) 0)

theorem wideLoads_succ (n : Nat) :
    wideLoads (n + 1) = wideLoads n ++ [.load (.primitive .long) 0] := List.replicate_succ'

theorem step_wideLoad (e : Emitter) : (Request.load (.primitive .long) 0).step e =
    match Word.add e.depth 2 with
    | .error f => .error f e
    | .ok depth => .ok () { e with
      code := e.code.push 0x1E
      depth
      maxDepth := if e.maxDepth < depth then depth else e.maxDepth } := by
  have hemit : (Request.load (.primitive .long) 0).step e =
      emit ⟨0x1E⟩ [] 0 2 e := rfl
  have hpops : ¬ e.depth < 0 := UInt16.not_lt_zero
  rw [hemit, emit, if_neg hpops, UInt16.sub_zero]
  simp only [Array.appendList_nil]
  rfl

theorem runAll_wideLoads (pool : Pool) {n : Nat} (hn : n ≤ 32767) :
    runAll (wideLoads n) (.start pool) =
      ⟨pool, Array.replicate n 0x1E, UInt16.ofNat (2 * n), UInt16.ofNat (2 * n)⟩ := by
  induction n with
  | zero => rfl
  | succ n ih =>
    have hsum : Word.add (UInt16.ofNat (2 * n)) 2 = .ok (UInt16.ofNat (2 * (n + 1))) := by
      rw [Word.add, Word.toNat_of_le (by omega)]
      exact Word.checked_of_le (show 2 * n + 2 ≤ 65535 by omega)
    have hlt : UInt16.ofNat (2 * n) < UInt16.ofNat (2 * (n + 1)) := by
      rw [UInt16.lt_iff_toNat_lt, Word.toNat_of_le (by omega), Word.toNat_of_le (by omega)]
      omega
    rw [wideLoads_succ, runAll_append, ih (by omega), runAll, List.foldl_cons, List.foldl_nil,
      step_wideLoad, hsum]
    dsimp only [left]
    rw [if_pos hlt, ← Array.replicate_succ]

/-- As many wide parameters. -/
def wideType (n : Nat) : MethodType := ⟨List.replicate n (.primitive .long), .void⟩

theorem parameterSlots_wideType (n : Nat) : (wideType n).parameterSlots = 2 * n := by
  have hfold (m : Nat) : (List.replicate n (ValueKind.primitive .long)).foldl
      (fun slots kind => slots + kind.slots) m = m + 2 * n := by
    induction n generalizing m with
    | zero => rfl
    | succ n ih =>
      rw [List.replicate_succ, List.foldl_cons, ih]
      show m + 2 + 2 * n = _
      omega
  exact (hfold 0).trans (Nat.zero_add _)

/-- The next load after 32767 of them breaks off, and so do the parameters of a descriptor with one
more. -/
theorem sums_runAll_wide :
    (∃ e', (Request.load (.primitive .long) 0).step (runAll (wideLoads 32767) (.start .empty)) =
      .error .addOverflow e') ∧
    MethodType.ofDescriptor (wideType 32768).descriptor = .ok (wideType 32768) ∧
      (wideType 32768).slotWord = .error .addOverflow := by
  obtain ⟨hslots, -, hsteps⟩ := sums_runAll .empty (wideLoads 32768)
  have hread : MethodType.ofDescriptor (wideType 32768).descriptor = .ok (wideType 32768) := by
    refine MethodType.ofDescriptor_eq_ok_iff.2 ⟨rfl, fun k hk => ?_, fun k hk => by cases hk⟩
    rw [List.eq_of_mem_replicate hk]
    exact ⟨by decide, trivial⟩
  have hover : (Request.load (.primitive .long) 0).Overflows (runAll (wideLoads 32767) (.start .empty)) := by
    refine ⟨⟨0, 2⟩, rfl, .inr ⟨Nat.zero_le _, ?_⟩⟩
    rw [runAll_wideLoads .empty (Nat.le_refl _)]
    decide
  refine ⟨(hsteps _ _ [] (wideLoads_succ 32767)).1.2 ⟨?_, hover⟩, hread,
    (hslots _ _ hread).2.1 (by rw [parameterSlots_wideType]; decide)⟩
  rintro _ ⟨⟩

end Emitter

end Bytecode

end ScriptProxy
