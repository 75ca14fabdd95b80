import ScriptProxy.Proofs.ClassFile.PoolCodec
import ScriptProxy.Proofs.Import.ProxyRun

/-!
# How proxies call the bridge

`execute_body`: the body of a proxy, decoded and run, does what `proxied` tells, and calls the bridge
once, with the module, the name and an object for each argument.
-/

namespace ScriptProxy.Import.Proxy

open ClassFile Bytecode Outcome

variable {O : Type}

/-! ### Calls of the bridge -/

/-- The calls of the bridge among all calls. -/
def bridgeCalls (c : Config) (log : List (Call O)) : List (Call O) :=
  log.filter fun call => call.method = bridge c

theorem left_ask (w : World O) (call : Call O) (log : List (Call O)) :
    left (ask w call log) = log ++ [call] := by
  unfold ask
  split <;> rfl

/-- The computation does not call the bridge. -/
def Avoids {α : Type} (c : Config) (x : Talk O α) : Prop :=
  ∀ log, bridgeCalls c (left (x log)) = bridgeCalls c log

namespace Avoids
variable {α β : Type} {c : Config} {w : World O} {x : Talk O α}

theorem pure (a : α) : Avoids c (Pure.pure a : Talk O α) := fun _ => rfl

theorem throw (t : Thrown O) : Avoids c (MonadExcept.throw t : Talk O α) := fun _ => rfl

theorem bind {f : α → Talk O β} (hx : Avoids c x) (hf : ∀ a, Avoids c (f a)) :
    Avoids c (x >>= f) := by
  intro log
  have h := hx log
  rw [left_bind]
  split
  · next a log' hxlog =>
    rw [hxlog] at h
    exact (hf a log').trans h
  · next hxlog =>
    rw [hxlog] at h
    exact h

theorem map (f : α → β) (hx : Avoids c x) : Avoids c (f <$> x) :=
  hx.bind fun a => pure (f a)

theorem mapM {f : α → Talk O β} (h : ∀ a, Avoids c (f a)) (as : List α) : Avoids c (as.mapM f) := by
  induction as with
  | nil => exact pure []
  | cons a as ih =>
    rw [List.mapM_cons]
    exact (h a).bind fun b => ih.bind fun bs => pure (b :: bs)

theorem ask {m : MethodSymbol} (h : m.descriptor ≠ bridgeDescriptor) (receiver : Option (Datum O))
    (arguments : List (Argument O)) : Avoids c (ask w ⟨m, receiver, arguments⟩) := by
  intro log
  have hne : m ≠ bridge c := fun he => h (congrArg MethodSymbol.descriptor he)
  rw [left_ask, bridgeCalls, bridgeCalls, List.filter_append]
  simp [hne]

theorem castTo (name : String) (d : Datum O) : Avoids c (castTo w name d) := by
  unfold Bytecode.castTo
  split
  · exact pure _
  · split
    · exact pure _
    · exact throw _

end Avoids

/-- No method of another number of parameters is the bridge. -/
theorem ne_bridge_of_type {m : MethodSymbol} {t : MethodType}
    (h : MethodType.ofDescriptor m.descriptor = .ok t) (hl : t.parameters.length ≠ 3) :
    m.descriptor ≠ bridgeDescriptor := by
  intro hm
  rw [hm, type_bridge] at h
  cases h
  exact hl rfl

section
variable {c : Config} {w : World O}

theorem avoids_passed (k : ValueKind) (d : Datum O) : Avoids c (passed c w k d) := by
  cases k with
  | primitive p =>
    exact .ask (ne_bridge_of_type (type_valueOf p) (by simp)) none _
  | object name =>
    rw [passed]
    split
    · exact .ask (ne_bridge_of_type type_toText (by simp)) none _
    · exact .pure d
  | array component => exact .pure d

theorem avoids_passedAll (ks : List ValueKind) (ds : List (Datum O)) :
    Avoids c (passedAll c w ks ds) :=
  .mapM (fun (kd : ValueKind × Datum O) => avoids_passed kd.1 kd.2) _

theorem avoids_given (k : ValueKind) (d : Datum O) : Avoids c (given w k d) := by
  cases k with
  | primitive p =>
    refine (Avoids.castTo _ d).bind fun d' => ?_
    split
    · exact .throw _
    · exact (Avoids.ask (ne_bridge_of_type (type_valueIn p) (by simp)) _ _).map _
  | object name =>
    rw [given]
    split
    · exact .pure d
    · exact .castTo name d
  | array component => exact .castTo _ d

theorem avoids_returned (r : ReturnKind) (d : Datum O) : Avoids c (returned w r d) := by
  cases r with
  | void => exact .pure none
  | value k => exact (avoids_given k d).map some

/-- Whatever happens then, the bridge is called once if the arguments could be converted. -/
theorem bridgeCalls_proxied (b : Binding) (t : MethodType) (args : List (Datum O)) :
    bridgeCalls c (left (proxied c b t w args [])) =
      match passedAll c w t.parameters args [] with
      | .ok elements _ => [bridgeCall c b elements]
      | .error .. => [] := by
  have hall := avoids_passedAll (c := c) (w := w) t.parameters args []
  rw [proxied, left_bind]
  cases h : passedAll c w t.parameters args [] with
  | error thrown log =>
    rw [h] at hall
    exact hall
  | ok elements log =>
    rw [h] at hall
    have hrest : bridgeCalls c (left ((ask w (bridgeCall c b elements) >>= fun object =>
        returned w t.result object) log)) = bridgeCalls c (log ++ [bridgeCall c b elements]) := by
      have hask := left_ask w (bridgeCall c b elements) log
      rw [left_bind, ← hask]
      cases ask w (bridgeCall c b elements) log with
      | ok object log' => exact avoids_returned t.result object log'
      | error => rfl
    refine hrest.trans ?_
    rw [bridgeCalls, List.filter_append, show log.filter _ = [] from hall]
    simp [bridgeCall, bridge]

end

/-! ### Proxies -/

theorem follow_returned (out : EStateM.Result (Thrown O) (List (Call O)) (Option (Datum O))) :
    (∀ x, (follow out fun v log => (.returned v, log)).1 ≠ .fault x) ∧
    (follow out fun v log => (.returned v, log)).2 = left out := by
  cases out with
  | ok => exact ⟨nofun, rfl⟩
  | error => exact ⟨nofun, rfl⟩

/-- The instructions of a proxy, with the constants that they refer to, do what the proxy is to do.
The machine can always go on, the bridge is called once with an array of objects that holds one for each
argument, and it is not called only if the conversion of an argument raises an exception. -/
theorem execute_body {c : Config} {method : MethodKey} {b : Binding} {isStatic : Bool}
    {pool pool' : Pool} {code : Code} (hp : pool.Reachable)
    (h : body c method b isStatic pool = .ok code pool') :
    ∃ t instructions, MethodType.ofDescriptor method.descriptor = .ok t ∧
      decode code.instructions = .ok instructions ∧
      ∀ {O : Type} (w : World O) (receiver : Datum O) (args : List (Datum O)),
        List.Forall₂ Datum.Fits args t.parameters →
        let trace := execute w (frame isStatic receiver args code.maxLocals.toNat) pool'
          instructions start
        trace = (follow (proxied c b t w args []) fun v log => (.returned v, log)) ∧
        (∀ x, trace.1 ≠ .fault x) ∧
        (∀ elements log, passedAll c w t.parameters args [] = .ok elements log →
          elements.length = t.parameters.length ∧
          bridgeCalls c trace.2 = [bridgeCall c b elements]) ∧
        ∀ thrown log, passedAll c w t.parameters args [] = .error thrown log →
          trace = (.threw thrown, log) ∧ bridgeCalls c trace.2 = [] := by
  obtain ⟨-, -, t, us, ht, hbody⟩ := body_eq_ok hp.wellFormed h
  refine ⟨t, placed 0 us, ht, ?_, ?_⟩
  · rw [hbody.instructions]
    exact decode_assemble hbody.sized
  intro O w receiver args hargs trace
  have htrace : trace = follow (proxied c b t w args []) fun v log => (.returned v, log) :=
    (execute_placed hbody.actions 0 start).trans
      (run_body hargs hbody.maxLocals (hbody.maxLocals ▸ hbody.slots_le))
  have hcalls := bridgeCalls_proxied (c := c) (w := w) b t args
  rw [← (follow_returned _).2, ← htrace] at hcalls
  refine ⟨htrace, ?_, ?_, ?_⟩
  · rw [htrace]
    exact (follow_returned _).1
  · intro elements log hall
    rw [hall] at hcalls
    exact ⟨length_of_passedAll hargs hall, hcalls⟩
  · intro thrown log hall
    rw [hall] at hcalls
    refine ⟨?_, hcalls⟩
    rw [htrace, proxied, follow_bind, hall]
    rfl

/-- A world in which numbers are 300 and objects are all alike. -/
def sampleWorld : World Unit where
  answer _ call :=
    match MethodType.ofDescriptor call.method.descriptor with
    | .ok ⟨_, .value k⟩ =>
      match category k with
      | .int => .ok (.int 300)
      | .long => .ok (.long 300)
      | .float => .ok (.float 0x43960000)
      | .double => .ok (.double 0x4072C00000000000)
      | .reference => .ok (.object ())
    | _ => .ok .null
  isInstance _ _ := true
  isObject _ := rfl
  fits := by
    rintro before call d ⟨parameters, result⟩ k h ht rfl
    simp only [ht] at h
    split at h <;> cases h <;> exact Eq.symm ‹_›

/-- An instance method whose arguments are passed in all ways. -/
def sampleMethod : MethodKey :=
  ⟨"f", "(IJLde/inetsoftware/jwebassembly/web/DOMString;Ljava/lang/Object;)B"⟩

theorem execute_body_sample :
    ∃ code pool', body .standard sampleMethod ⟨"M", "f", none⟩ false .empty = .ok code pool' ∧
      ∃ instructions, decode code.instructions = .ok instructions ∧
        let trace := execute sampleWorld (frame false (.object ())
          [.int 7, .long 8, .null, .text "x"] code.maxLocals.toNat) pool' instructions start
        trace.1 = .returned (some (.int 44)) ∧
        bridgeCalls .standard trace.2 = [bridgeCall .standard ⟨"M", "f", none⟩
          [.object (), .object (), .object (), .text "x"]] := by
  let ks : List ValueKind := [.primitive .int, .primitive .long,
    .object "de/inetsoftware/jwebassembly/web/DOMString", .object "java/lang/Object"]
  have hmade : (match body .standard sampleMethod ⟨"M", "f", none⟩ false .empty with
      | .ok .. => true
      | .error .. => false) = true := by decide +kernel
  split at hmade
  · next code pool' h =>
    obtain ⟨t, instructions, ht, hdecode, hrun⟩ := execute_body .empty h
    obtain rfl : t = ⟨ks, .value (.primitive .byte)⟩ :=
      Except.ok.inj (ht.symm.trans (eq_ok_of_toOption (by decide +kernel)))
    obtain ⟨htrace, -, hcalls, -⟩ := hrun sampleWorld (.object ())
      [.int 7, .long 8, .null, .text "x"] (.cons rfl (.cons rfl (.cons rfl (.cons rfl .nil))))
    refine ⟨code, pool', h, instructions, hdecode, ?_, ?_⟩
    · rw [htrace]
      decide +kernel
    · have hpassed : (match passedAll .standard sampleWorld ks [.int 7, .long 8, .null, .text "x"] []
          with
          | .ok elements _ => decide (elements = [.object (), .object (), .object (), .text "x"])
          | .error .. => false) = true := by decide +kernel
      split at hpassed
      · next elements log hall =>
        obtain rfl := of_decide_eq_true hpassed
        exact (hcalls _ log hall).2
      · cases hpassed
  · cases hmade

end ScriptProxy.Import.Proxy
