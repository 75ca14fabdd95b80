import ScriptProxy.Proofs.ClassFile.Descriptor
import ScriptProxy.Proofs.ClassFile.PoolTexts
import ScriptProxy.Proofs.ClassFile.RoundTrip
import ScriptProxy.Proofs.Import.Bookkeeping

/-!
# Classes that fail to load

A hook is to find out that a class fails before it tells its registrar of anything. What may still fail
after that is the writing of the class: a method has got one attribute too many, or a name of the bridge
is too long for a constant. `failsAfterCalls_iff` says that there is nothing else.
-/

namespace ScriptProxy

open Outcome ClassFile Bytecode

/-! ### Constants of emitted instructions -/

namespace Bytecode.Emitter

/-- All texts in the pool are short enough to be written. -/
def Fits (e : Emitter) : Prop := e.pool.TextsFit

variable {α : Type}

theorem keeps_pooled {edit : Pool.Edit α} (h : Keeps Pool.TextsFit edit) :
    Keeps Fits (pooled edit) := by
  intro e he
  have hp := h e.pool he
  unfold pooled
  split
  · next heq =>
    rw [heq] at hp
    exact hp
  · next heq =>
    rw [heq] at hp
    exact hp

theorem keeps_emit {op : Opcode} {operands : Bytes} {pops pushes : UInt16} :
    Keeps Fits (emit op operands pops pushes) := by
  intro e he
  unfold emit
  split
  · exact he
  · split <;> exact he

theorem keeps_ldc (i : UInt16) : Keeps Fits (ldc i) := by
  unfold ldc
  split <;> exact keeps_emit

theorem keeps_ldcString {s : String} (hs : Text.Fits s) : Keeps Fits (ldcString s) :=
  (keeps_pooled (Pool.keeps_addString hs)).bind keeps_ldc

theorem keeps_pushInt (v : Int32) : Keeps Fits (pushInt v) := by
  unfold pushInt
  dsimp only
  split
  · exact keeps_emit
  split
  · exact keeps_emit
  split
  · exact keeps_emit
  split
  · exact keeps_emit
  · exact (keeps_pooled (Pool.keeps_addInteger v)).bind keeps_ldc

theorem keeps_anewarray {name : String} (hn : Text.Fits name) : Keeps Fits (anewarray name) :=
  (keeps_pooled (Pool.keeps_addClass hn)).bind fun _ => keeps_emit

theorem keeps_checkcast {name : String} (hn : Text.Fits name) : Keeps Fits (checkcast name) :=
  (keeps_pooled (Pool.keeps_addClass hn)).bind fun _ => keeps_emit

theorem keeps_load (kind : ValueKind) (slot : UInt16) : Keeps Fits (load kind slot) := by
  unfold load
  dsimp only
  split
  · exact keeps_emit
  · split <;> exact keeps_emit

theorem keeps_invoke (op : Opcode) {m : MethodSymbol} (hm : m.Fits) (receiver : UInt16) :
    Keeps Fits (invoke op m receiver) := by
  unfold invoke
  split
  · exact Keeps.throw _
  · exact (keeps_pooled (Pool.keeps_addMethod hm)).bind fun _ =>
      (Keeps.ofExcept _).bind fun _ => keeps_emit

theorem keeps_pop (slots : Nat) : Keeps Fits (pop slots) := by
  unfold pop
  split <;> exact keeps_emit

theorem keeps_narrow (kind : ValueKind) : Keeps Fits (narrow kind) := by
  unfold narrow
  split
  · exact keeps_emit
  · exact keeps_emit
  · exact keeps_emit
  · exact Keeps.pure _

theorem keeps_returnValue (r : ReturnKind) : Keeps Fits (returnValue r) := by
  cases r <;> exact keeps_emit

end Bytecode.Emitter

/-! ### Constants of proxies -/

namespace Import.Proxy

open Emitter

/-- The names of the bridge are short enough for constants. -/
def BridgeFits (c : Config) : Prop := Text.Fits c.bridgeClass ∧ Text.Fits c.bridgeMethod

example : BridgeFits .standard := ⟨by decide, by decide⟩

theorem fits_toText : toText.Fits := ⟨by decide, by decide, by decide⟩

theorem fits_boxing (p : Primitive) : (boxing p).Fits := by
  constructor <;> cases p <;> decide

theorem fits_unboxing (p : Primitive) : (unboxing p).Fits := by
  constructor <;> cases p <;> decide

theorem fits_bridge {c : Config} (h : BridgeFits c) : (bridge c).Fits :=
  ⟨h.1, h.2, (by decide : Text.Fits bridgeDescriptor)⟩

theorem keeps_marshal (c : Config) (k : ValueKind) : Keeps Emitter.Fits (marshal c k) := by
  cases k with
  | primitive p => exact keeps_invoke _ (fits_boxing p) _
  | object name =>
    rw [marshal]
    split
    · exact keeps_emit.bind fun _ => keeps_invoke _ fits_toText _
    · exact Keeps.pure _
  | array component => exact Keeps.pure _

theorem keeps_passArguments (c : Config) (ks : List ValueKind) (position slot : Nat) :
    Keeps Emitter.Fits (passArguments c ks position slot) := by
  induction ks generalizing position slot with
  | nil => exact Keeps.pure _
  | cons k ks ih =>
    exact keeps_emit.bind fun _ => (keeps_pushInt _).bind fun _ => (keeps_load _ _).bind fun _ =>
      (keeps_marshal c k).bind fun _ => keeps_emit.bind fun _ => ih _ _

/-- The class that a result is cast to has a name that is short enough for a constant. -/
def ResultFits (r : ReturnKind) : Prop :=
  ∀ k name, r = .value k → k.classOperand? = some name → Text.Fits name

theorem keeps_giveBack {r : ReturnKind} (hr : ResultFits r) : Keeps Emitter.Fits (giveBack r) := by
  cases r with
  | void => exact (keeps_pop 1).bind fun _ => keeps_returnValue _
  | value k =>
    have hk := hr k
    refine Keeps.bind ?_ fun _ => keeps_returnValue _
    cases k with
    | primitive p =>
      exact (keeps_checkcast (fits_unboxing p).owner).bind fun _ =>
        (keeps_invoke _ (fits_unboxing p) _).bind fun _ => keeps_narrow _
    | object name =>
      rw [unmarshal]
      split
      · exact Keeps.pure _
      · exact keeps_checkcast (hk name rfl rfl)
    | array component => exact keeps_checkcast (hk _ rfl rfl)

theorem resultFits_of_ofDescriptor {d : String} {t : MethodType} (hd : Text.Fits d)
    (h : MethodType.ofDescriptor d = .ok t) : ResultFits t.result := by
  intro k name hk hname
  have hchars : k.chars.Sublist d.toList := by
    rw [MethodType.toList_of_ofDescriptor h, MethodType.chars, hk]
    exact (List.sublist_cons_self ..).trans
      ((List.sublist_append_right ..).trans (List.sublist_cons_self ..))
  refine hd.of_sublist (List.Sublist.trans ?_ hchars)
  cases k with
  | primitive p => cases hname
  | object n =>
    cases hname
    exact (List.sublist_append_left ..).trans (List.sublist_cons_self ..)
  | array component =>
    cases hname
    rw [ValueKind.descriptor, String.toList_ofList]

/-- The texts that are read for a proxy are short enough for constants. -/
structure SiteFits (method : MethodKey) (b : Binding) : Prop where
  descriptor : Text.Fits method.descriptor
  module : Text.Fits b.module
  name : Text.Fits b.name

theorem keeps_body {c : Config} (hc : BridgeFits c) {method : MethodKey} {b : Binding}
    (h : SiteFits method b) (isStatic : Bool) : Keeps Pool.TextsFit (body c method b isStatic) := by
  unfold body
  cases ht : MethodType.ofDescriptor method.descriptor with
  | error d => exact Keeps.throw _
  | ok t =>
    intro pool hpool
    have hemit : Keeps Emitter.Fits (emitBody c b t (receiverSlots isStatic)) :=
      (keeps_ldcString h.module).bind fun _ => (keeps_ldcString h.name).bind fun _ =>
        (keeps_pushInt _).bind fun _ => (keeps_anewarray (by decide)).bind fun _ =>
          (keeps_passArguments c _ _ _).bind fun _ => (keeps_invoke _ (fits_bridge hc) _).bind fun _ =>
            keeps_giveBack (resultFits_of_ofDescriptor h.descriptor ht)
    have hleft := hemit (Emitter.start pool) hpool
    dsimp only
    split
    · exact hpool
    split
    · next he =>
      rw [he] at hleft
      exact hleft
    · next he =>
      rw [he] at hleft
      split <;> exact hleft

end Import.Proxy

/-! ### Planned classes -/

namespace Import

theorem keeps_prepare {config : Config} (hc : Proxy.BridgeFits config) {ss : List Site}
    (hss : ∀ s ∈ ss, Proxy.SiteFits s.method s.binding) :
    Keeps Pool.TextsFit (prepare config ss) := by
  have hbodies : Keeps Pool.TextsFit (ss.mapM fun s =>
      return (s, ← Proxy.body config s.method s.binding s.isStatic) :
        Pool.Edit (List (Site × Code))) :=
    Keeps.mapM fun s hs => (Proxy.keeps_body hc (hss s hs) s.isStatic).bind fun _ => Keeps.pure _
  have hname : Keeps Pool.TextsFit (Pool.addText Code.attributeName) :=
    Pool.keeps_addText (by decide)
  exact hbodies.bind fun _ => hname.bind fun _ => Keeps.pure _

section
variable {c : ClassFile} {marker : String} {found : Findings} {registry : Registry}

/-- The sites of a class are methods of it, with their bindings. -/
theorem site_of_sites {ms : List Member} {k : Nat} {ss : List Site}
    (h : (ms.zipIdx k).filterMapM (siteOf? c registry) = .ok ss) {s : Site} (hs : s ∈ ss) :
    (∃ i, c.pool.text i = .ok s.method.descriptor) ∧ registry.get? s.method = some s.binding := by
  induction ms generalizing k ss with
  | nil =>
    cases h
    cases hs
  | cons m ms ih =>
    rw [List.zipIdx_cons] at h
    obtain ⟨o, more, ho, hmore, rfl⟩ := filterMapM_cons_eq_ok h
    rcases List.mem_append.1 hs with hs | hs
    · obtain ⟨name, descriptor, -, hd, rfl⟩ := siteOf?_eq_ok.1 ho
      obtain ⟨b, hb, rfl⟩ := Option.map_eq_some_iff.1 (Option.mem_toList.1 hs)
      exact ⟨⟨_, hd⟩, hb⟩
    · exact ih hmore hs

theorem fits_of_lastText? {p : Pool} (hp : p.TextsFit) {names : List String}
    {elements : List (UInt16 × ElementValue)} {s : String}
    (h : lastText? p names elements = some s) : Text.Fits s := by
  obtain ⟨e, -, he⟩ := List.mem_filterMap.1 (List.mem_of_getLast? h)
  obtain ⟨name, -, h⟩ := Option.bind_eq_some_iff.1 he
  split at h
  · obtain ⟨i, -, hi⟩ := asString_eq_ok.1 (eq_ok_of_toOption h)
    exact hp.fits_of_text hi
  · cases h

/-- The names of what a registry binds are texts of the class, or a part of the name of the class. -/
theorem fits_of_scan (hp : c.pool.TextsFit) (h : scan c marker = .ok found) {key : MethodKey}
    {b : Binding} (hb : found.registry.get? key = some b) :
    Text.Fits b.module ∧ Text.Fits b.name := by
  obtain ⟨className, hname, -, hregistry, -⟩ := scan_eq_ok h
  rw [Registry.get?_eq, hregistry, OrderedMap.get?_insertAll] at hb
  rcases Option.or_eq_some_iff.1 hb with hb | ⟨-, hb⟩
  · obtain ⟨e, he, hb⟩ := List.exists_of_findSome?_eq_some hb
    split at hb
    · cases hb
      obtain ⟨m, -, hm⟩ := List.mem_filterMap.1 (List.mem_reverse.1 he)
      obtain ⟨hkey, hdeclared⟩ := bindingOf?_eq_some.1 hm
      obtain ⟨a, -, ha⟩ := declaredBinding_eq_some.1 hdeclared
      obtain ⟨i, -, hclass⟩ := Pool.className_eq_ok.1 hname
      constructor
      · rw [ha.module_eq]
        cases hlast : lastText? c.pool ["module"] a.elements with
        | some s => exact fits_of_lastText? hp hlast
        | none =>
          refine (hp.fits_of_text hclass).of_sublist ?_
          rw [Option.getD_none, simpleNameOf, String.toList_ofList]
          exact List.reverse_sublist.1 (by
            rw [List.reverse_reverse]
            exact List.takeWhile_sublist _)
      · rw [ha.name_eq]
        cases hlast : lastText? c.pool ["name"] a.elements with
        | some s => exact fits_of_lastText? hp hlast
        | none => exact hp.fits_of_text (keyOf?_eq_some.1 hkey).1
    · cases hb
  · cases hb

end

section
variable {σ : Type}

/-- The pool is the one that the bodies were made for, and the attributes of methods can be written. -/
structure Installing (pool : Pool) (r : Rewriting σ) : Prop where
  pool_eq : r.classFile.pool = pool
  bodies : ∀ m ∈ r.classFile.methods, ∀ a ∈ m.attributes, a.body.length < UInt32.size

theorem keeps_install {pool : Pool} {register : Registrar σ} {codeName : UInt16} {s : Site}
    {code : Code} {body : Bytes} (hbody : code.toBytes = .ok body) (hlength : body.length < UInt32.size) :
    Keeps (Installing pool) (install register codeName s code) := by
  rintro ⟨c, t⟩ ⟨hpool, hbodies⟩
  rw [install_eq register codeName s hbody]
  cases register s.binding t with
  | error f t => exact ⟨hpool, hbodies⟩
  | ok _ t =>
    refine ⟨hpool, fun m hm a ha => ?_⟩
    obtain ⟨i, hi⟩ := List.mem_iff_getElem?.1 hm
    dsimp only [left] at hi
    rw [List.getElem?_modify] at hi
    obtain ⟨m₀, hm₀, rfl⟩ := Option.map_eq_some_iff.1 hi
    have hm₀ := hbodies m₀ (List.mem_of_getElem? hm₀)
    split at ha
    · rcases List.mem_cons.1 ha with rfl | ha
      · exact hlength
      · exact hm₀ a (List.mem_filter.1 ha).1
    · exact hm₀ a ha

theorem keeps_mapM_install (pool : Pool) (register : Registrar σ) (codeName : UInt16)
    {prepared : List (Site × Code)}
    (h : ∀ sc ∈ prepared, ∃ body, sc.2.toBytes = .ok body ∧ body.length < UInt32.size) :
    Keeps (Installing pool) (prepared.mapM fun (s, code) => install register codeName s code :
      EStateM Failure (Rewriting σ) (List Patched)) :=
  Keeps.mapM fun sc hsc => by
    obtain ⟨body, hbody, hlength⟩ := h sc hsc
    exact keeps_install hbody hlength

/-- The pool of a class that is planned is the one that the bodies were made for. -/
theorem made_of_rewrite {config : Config} {register : Registrar σ} {registry : Registry}
    {r r' : Rewriting σ} {patched : List Patched} (hp : r.classFile.pool.WellFormed)
    (hbodies : ∀ m ∈ r.classFile.methods, ∀ a ∈ m.attributes, a.body.length < UInt32.size)
    (h : rewrite config register registry r = .ok patched r') :
    ∃ ss made, sites r.classFile registry = .ok ss ∧
      prepare config ss r.classFile.pool = .ok made r'.classFile.pool ∧
      ∀ m ∈ r'.classFile.methods, ∀ a ∈ m.attributes, a.body.length < UInt32.size := by
  unfold rewrite at h
  split at h
  · cases h
  next ss hsites =>
  split at h
  · cases h
  next prepared codeName pool hprepare =>
  obtain ⟨-, -, -, hmade⟩ := prepare_eq_ok hp hprepare
  have hwritten : ∀ sc ∈ prepared, ∃ body, sc.2.toBytes = .ok body ∧ body.length < UInt32.size := by
    intro sc hsc
    obtain ⟨s, -, -, before, after, -, hbody, -⟩ := exists_of_mem_forall₂ hmade hsc
    exact Proxy.exists_toBytes_of_body hbody
  have hleft := keeps_mapM_install pool register codeName hwritten
    ⟨{ r.classFile with pool }, r.registrar⟩ ⟨rfl, hbodies⟩
  dsimp only at h
  rw [h] at hleft
  exact ⟨ss, _, hsites, by rw [hprepare, ← hleft.pool_eq]; rfl, hleft.bodies⟩

/-- A body that is made has the bridge in its pool. -/
theorem method_of_prepare {config : Config} {ss : List Site} {made : List (Site × Code) × UInt16}
    {p q : Pool} (hp : p.WellFormed) (h : prepare config ss p = .ok made q) (hne : ss ≠ []) :
    ∃ i, q.method i = .ok (Proxy.bridge config) := by
  obtain ⟨s, ss, rfl⟩ := List.exists_cons_of_ne_nil hne
  obtain ⟨prepared, p₁, hm, h⟩ := step_bind_eq_ok.1 h
  obtain ⟨codeName, p₂, hname, h⟩ := step_bind_eq_ok.1 h
  cases h
  rw [List.mapM_cons] at hm
  obtain ⟨sc, p₃, hs, hm⟩ := step_bind_eq_ok.1 hm
  obtain ⟨more, p₄, hrest, hm⟩ := step_bind_eq_ok.1 hm
  obtain ⟨code, p₅, hbody, hs⟩ := step_bind_eq_ok.1 hs
  cases hs
  cases hm
  obtain ⟨hp₃, -, t, us, -, hcode⟩ := Proxy.body_eq_ok hp hbody
  obtain ⟨hp₁, hgrown, -⟩ := made_of_mapM hp₃ hrest
  have hg := Pool.grows_addText hp₁ Code.attributeName
  rw [hname] at hg
  have hcall : Action.call false (Proxy.bridge config) ∈
      Proxy.bodyActions config s.binding t (Proxy.receiverSlots s.isStatic) := by
    simp [Proxy.bodyActions]
  obtain ⟨u, -, hu⟩ := exists_of_mem_forall₂ hcode.actions hcall
  obtain ⟨i, hi⟩ := Unplaced.exists_method_of_call hu
  exact ⟨i, hg.extends_left.method (hgrown.method hi)⟩

end

/-- There is no room for what a proxy needs: one of the names of the bridge is too long for a constant, or
a method has got more attributes than can be counted. -/
def Plan.Overflows (config : Config) (p : Plan) : Prop :=
  ¬ Text.Fits config.bridgeClass ∨ ¬ Text.Fits config.bridgeMethod ∨
    ∃ m ∈ p.classFile.methods, 65535 < m.attributes.length

section
variable {config : Config} {bytes : Bytes} {p : Plan} (h : plan config bytes = .ok (some p))
include h

/-- The texts of a planned class can be written unless the names of the bridge are too long: all other
texts are of this library, or stand in the class that was read. -/
theorem textsFit_iff_of_plan : p.classFile.pool.TextsFit ↔ Proxy.BridgeFits config := by
  obtain ⟨c, found, hc, hfound, hne, hr⟩ := plan_eq_some.1 h
  obtain ⟨hwf, hwritten⟩ := ClassFile.ofBytes_eq_ok.1 hc
  have hfits := (okIff_toBytes c).isOk_iff.1 ⟨bytes, hwritten⟩
  obtain ⟨ss, made, hsites, hprepare, -⟩ :=
    made_of_rewrite hwf (fun m hm => (hfits.methodAttributes m hm).2) hr
  constructor
  · intro htexts
    have hss : ss ≠ [] := by
      rintro rfl
      have hp := isPlan_of_rewrite hwf hfound hne hr
      have hstaged : staged config found.registry c = .ok made p.classFile.pool := by
        rw [staged, hsites]
        exact hprepare
      obtain ⟨-, -, -, hmade⟩ := prepare_eq_ok hwf hprepare
      have hall := patched_of_staged hwf hstaged
      rw [List.forall₂_nil_left_iff.1 hmade] at hall
      exact hp.patched_ne_nil (hp.patched_eq.trans hall.symm)
    obtain ⟨i, hi⟩ := method_of_prepare hwf hprepare hss
    obtain ⟨owner, _, n, _, -, -, howner, hn, -⟩ := Pool.method_eq_ok.1 hi
    obtain ⟨j, -, hj⟩ := Pool.className_eq_ok.1 howner
    exact ⟨htexts.fits_of_text hj, htexts.fits_of_text hn⟩
  · intro hbridge
    have hss : ∀ s ∈ ss, Proxy.SiteFits s.method s.binding := by
      intro s hs
      obtain ⟨⟨i, hi⟩, hb⟩ := site_of_sites hsites hs
      obtain ⟨hmodule, hname⟩ := fits_of_scan hfits.texts hfound hb
      exact ⟨hfits.texts.fits_of_text hi, hmodule, hname⟩
    have hleft := keeps_prepare hbridge hss c.pool hfits.texts
    rw [hprepare] at hleft
    exact hleft

/-- Whether a planned class can be written is a matter of room. -/
theorem fits_iff_of_plan : p.classFile.Fits ↔ ¬ p.Overflows config := by
  have htexts := textsFit_iff_of_plan h
  rw [Plan.Overflows, not_or, not_or, Classical.not_not, Classical.not_not, ← and_assoc]
  constructor
  · intro hfits
    refine ⟨htexts.1 hfits.texts, ?_⟩
    rintro ⟨m, hm, hlong⟩
    exact Nat.not_lt.2 (hfits.methodAttributes m hm).1 hlong
  · rintro ⟨hbridge, hroom⟩
    obtain ⟨c, found, hc, hfound, hne, hr⟩ := plan_eq_some.1 h
    obtain ⟨hwf, hwritten⟩ := ClassFile.ofBytes_eq_ok.1 hc
    have hfits := (okIff_toBytes c).isOk_iff.1 ⟨bytes, hwritten⟩
    obtain ⟨-, -, -, -, hbodies⟩ :=
      made_of_rewrite hwf (fun m hm => (hfits.methodAttributes m hm).2) hr
    have hpatch := (isPlan_of_rewrite hwf hfound hne hr).isPatch
    exact {
      texts := htexts.2 hbridge
      interfaces := by rw [hpatch.interfaces]; exact hfits.interfaces
      fields := by rw [hpatch.fields]; exact hfits.fields
      fieldAttributes := by rw [hpatch.fields]; exact hfits.fieldAttributes
      methods := by rw [← hpatch.methods.length_eq]; exact hfits.methods
      methodAttributes := fun m hm => ⟨Nat.not_lt.1 fun hlong => hroom ⟨m, hm, hlong⟩, hbodies m hm⟩
      attributes := by rw [hpatch.attributes]; exact hfits.attributes }

end

namespace Hook
variable {σ : Type} (register : Registrar σ) (name : String) (bytes : Bytes) (h : Hook σ)

/-- A transform fails, not because of its registrar, after it has called it. -/
def FailsAfterCalls : Prop := ∃ f h', transform register name bytes h = .error f h' ∧
  (∀ call ∈ calls register name bytes h, call.refusal ≠ some f) ∧ calls register name bytes h ≠ []

end Hook

/-- A class fails to load after its imports were registered exactly if its plan overflows and no call
was refused. -/
theorem failsAfterCalls_iff {σ : Type} (register : Registrar σ) (name : String) (bytes : Bytes)
    (h : Hook σ) : h.FailsAfterCalls register name bytes ↔
      ∃ p, plan h.config bytes = .ok (some p) ∧ p.Overflows h.config ∧
        ∀ call ∈ Hook.calls register name bytes h, call.refusal = none := by
  have hcalls := Hook.calls_eq register name bytes h
  rw [Hook.plannedCalls] at hcalls
  constructor
  · rintro ⟨f, h', ht, hours, hsome⟩
    rcases transform_eq_error.1 ht with ⟨hplan, -⟩ | ⟨p, s, hplan, -, hend⟩
    · rw [hplan] at hcalls
      exact absurd hcalls hsome
    · rw [hplan] at hcalls
      rcases hend with hrefused | ⟨htell, hwrite⟩
      · obtain ⟨before, b, hlast⟩ := callsOf_of_error hrefused
        refine absurd rfl (hours ⟨b, some f⟩ ?_)
        rw [hcalls]
        dsimp only
        rw [hlast]
        simp
      · refine ⟨p, hplan, ?_, ?_⟩
        · refine Classical.not_not.1 fun hroom => ?_
          obtain ⟨out, hout⟩ := (okIff_toBytes p.classFile).ok ((fits_iff_of_plan hplan).2 hroom)
          rw [hout] at hwrite
          cases hwrite
        · rw [hcalls]
          dsimp only
          rw [callsOf_of_ok htell]
          simp [Notice.accepted]
  · rintro ⟨p, hplan, hover, hall⟩
    rw [hplan] at hcalls
    cases htell : tellAll register p.bindings h.registrar with
    | error f s =>
      obtain ⟨before, b, hlast⟩ := callsOf_of_error htell
      have hrefused := hall ⟨b, some f⟩ (by rw [hcalls]; dsimp only; rw [hlast]; simp)
      cases hrefused
    | ok _ s =>
      obtain ⟨d, hd⟩ := (okIff_toBytes p.classFile).defect fun hfits =>
        (fits_iff_of_plan hplan).1 hfits hover
      refine ⟨.malformed d, { h with registrar := s },
        transform_eq_error.2 (.inr ⟨p, s, hplan, rfl, .inr ⟨htell, hd⟩⟩), ?_, ?_⟩
      · intro call hcall hrefused
        rw [hall call hcall] at hrefused
        cases hrefused
      · obtain ⟨c, found, -, -, hp⟩ := isPlan_of_plan hplan
        rw [hcalls]
        dsimp only
        rw [callsOf_of_ok htell, Plan.bindings]
        simpa using hp.patched_ne_nil

end Import

end ScriptProxy
