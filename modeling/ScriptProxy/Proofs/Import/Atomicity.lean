import ScriptProxy.Proofs.Import.Patch
import ScriptProxy.Proofs.Import.ProxyOutcome

/-!
# How far a rewrite gets

As long as something may be wrong with the class, a rewrite adds constants and does nothing else. From then
on only the registrar can stop it, and does so between two methods: `rewrite_outcome`.
-/

namespace ScriptProxy.Import

open ClassFile Outcome

/-! ### Before anything is put in -/

/-- The pool is well-formed, and was made of a pool by additions at its end. -/
def Grown (p q : Pool) : Prop := q.WellFormed ∧ p.Extends q

section
variable {config : Config} {p : Pool}

theorem keeps_body (key : MethodKey) (b : Binding) (isStatic : Bool) :
    Keeps (Grown p) (Proxy.body config key b isStatic) := by
  rintro q ⟨hq, hgrown⟩
  by_cases ht : ∃ t : MethodType, MethodType.ofDescriptor key.descriptor = .ok t ∧
      Proxy.receiverSlots isStatic + t.parameterSlots ≤ 255
  · obtain ⟨t, ht, hslots⟩ := ht
    have hmade : Proxy.RoomDecides config b isStatic t q (Proxy.body config key b isStatic q) :=
      Proxy.roomDecides_body ht hslots hq
    have hadd := Pool.Interns.mapM Pool.Interns.edit (Bytecode.additions
      (Proxy.bodyActions config b t (Proxy.receiverSlots isStatic))) q hq
    unfold Proxy.RoomDecides at hmade
    split at hmade
    · next h =>
      rw [h] at hadd
      obtain ⟨code, hbody, -⟩ := hmade
      rw [hbody]
      exact ⟨hadd.wellFormed, hgrown.trans hadd.extends_left⟩
    · next h =>
      rw [h] at hadd
      rw [hmade.1]
      exact ⟨hadd.wellFormed, hgrown.trans hadd.extends_left⟩
  · obtain ⟨reason, hrefused⟩ := (Proxy.refused_iff (c := config) (b := b) hq).2 ht
    rw [hrefused]
    exact ⟨hq, hgrown⟩

theorem keeps_prepare_grown (ss : List Site) : Keeps (Grown p) (prepare config ss) := by
  have htext : Keeps (Grown p) (Pool.addText Code.attributeName) := by
    rintro q ⟨hq, hgrown⟩
    have hadd := Pool.grows_addText hq Code.attributeName
    exact ⟨hadd.wellFormed, hgrown.trans hadd.extends_left⟩
  have hbodies : Keeps (Grown p) (ss.mapM fun s =>
      return (s, ← Proxy.body config s.method s.binding s.isStatic) :
        Pool.Edit (List (Site × Code))) :=
    Keeps.mapM fun s _ => (keeps_body s.method s.binding s.isStatic).bind fun _ => .pure _
  exact hbodies.bind fun prepared => htext.bind fun _ => .pure _

theorem grown_of_staged (registry : Registry) {c : ClassFile} (hp : c.pool.WellFormed) :
    Grown c.pool (left (staged config registry c)) := by
  unfold staged
  cases sites c registry with
  | error f => exact ⟨hp, .refl _⟩
  | ok ss => exact keeps_prepare_grown ss c.pool ⟨hp, .refl _⟩

end

/-! ### Putting in -/

section
variable {σ : Type} (config : Config) (register : Registrar σ) (registry : Registry) (c : ClassFile)
  (pool : Pool) (s : σ)

/-- How a rewrite ends whose constants are all in the pool. -/
inductive Installs : EStateM.Result Failure (Rewriting σ) (List Patched) → Prop where
  /-- The registrar has accepted the bindings of all methods in order, and all have their proxies. -/
  | all {c' : ClassFile} {t : σ} (pool_eq : c'.pool = pool) (patch : IsPatch config registry c c')
    (told : tellAll register ((boundMethods c registry).map (·.binding)) s = .ok () t) :
    Installs (.ok (boundMethods c registry) ⟨c', t⟩)
  /-- The registrar has accepted the bindings of the methods in front of a method in order, and has refused
  the one of this method. Those in front have their proxies, and all others are as they were. -/
  | refused {front front' back : List Member} {m : Member} {x : Patched} {t t' : σ} {f : Failure}
    (methods : c.methods = front ++ m :: back) (bound : boundMethod? c registry m = some x)
    (told : tellAll register ((front.filterMap (boundMethod? c registry)).map (·.binding)) s = .ok () t)
    (refusal : register x.binding t = .error f t')
    (patches : List.Forall₂ (Patches config registry c.pool pool) front front') :
    Installs (.error f ⟨{ c with pool, methods := front' ++ m :: back }, t'⟩)

variable {config registry c pool}

theorem installs_of_staged (hp : c.pool.WellFormed) {made : List (Site × Code) × UInt16}
    (h : staged config registry c = .ok made pool) :
    Installs config register registry c pool s (rewrite config register registry ⟨c, s⟩) := by
  have hrewrite : rewrite config register registry ⟨c, s⟩ = _ := rewrite_of_staged register s
  rw [h] at hrewrite
  rcases install_mapM register made.2 (written_of_staged hp h) { c with pool } s with
    ⟨t, htold, hinstalled⟩ | ⟨front, sc, back, t, f, t', hsplit, htold, hrefused, hinstalled⟩
  · rw [patched_of_staged hp h] at htold hinstalled
    rw [hrewrite.trans hinstalled]
    exact .all (pool_putAll ..) (isPatch_of_staged hp h) htold
  · obtain ⟨prepared, codeName⟩ := made
    obtain rfl : prepared = front ++ sc :: back := hsplit
    obtain ⟨ms, _, ms', hmethods, hput, hall, hfront, m, rest, rfl, hbound⟩ := putAll_of_staged hp h
    rw [← hfront] at htold
    rw [hput] at hinstalled
    rw [hrewrite.trans hinstalled]
    exact .refused hmethods hbound htold hrefused hall

variable {register s}

/-- A method has its proxy, or is as it was. -/
def Whole (config : Config) (registry : Registry) (old new : Pool) (m m' : Member) : Prop :=
  m' = m ∨ ∃ key b, registry.get? key = some b ∧ Replaced config key b old new m m'

theorem Patches.whole {old new : Pool} {m m' : Member} (h : Patches config registry old new m m') :
    Whole config registry old new m m' := by
  obtain ⟨name, descriptor, -, -, h⟩ := h
  split at h
  · exact .inl h
  · next b hb => exact .inr ⟨_, b, hb, h⟩

theorem Installs.whole {out : EStateM.Result Failure (Rewriting σ) (List Patched)}
    (h : Installs config register registry c pool s out) :
    List.Forall₂ (Whole config registry c.pool (left out).classFile.pool) c.methods
      (left out).classFile.methods := by
  cases h with
  | all pool_eq patch told => exact patch.methods.imp fun _ _ => Patches.whole
  | refused methods bound told refusal patches =>
    rw [methods]
    exact List.rel_append (patches.imp fun _ _ => Patches.whole) (List.forall₂_same.2 fun _ _ => .inl rfl)

/-- A rewrite that fails while it reads names, makes proxies or adds constants has told its registrar of
nothing, and has only added to the pool. One that gets beyond that fails only if the registrar does, and
has put proxies into just the methods whose bindings were accepted. There is no method that is no longer
what it was and has no proxy. -/
theorem rewrite_outcome (hp : c.pool.Reachable) :
    (match staged config registry c with
      | .error f pool => c.pool.Extends pool ∧
          rewrite config register registry ⟨c, s⟩ = .error f ⟨{ c with pool }, s⟩
      | .ok _ pool => c.pool.Extends pool ∧
          Installs config register registry c pool s (rewrite config register registry ⟨c, s⟩)) ∧
    List.Forall₂
      (Whole config registry c.pool (left (rewrite config register registry ⟨c, s⟩)).classFile.pool)
      c.methods (left (rewrite config register registry ⟨c, s⟩)).classFile.methods := by
  have hgrown : Grown c.pool (left (staged config registry c)) :=
    grown_of_staged registry hp.wellFormed
  cases h : staged config registry c with
  | error f pool =>
    rw [h] at hgrown
    have hrewrite : rewrite config register registry ⟨c, s⟩ = .error f ⟨{ c with pool }, s⟩ := by
      rw [rewrite_of_staged, h]
    refine ⟨⟨hgrown.2, hrewrite⟩, ?_⟩
    rw [hrewrite]
    exact List.forall₂_same.2 fun _ _ => .inl rfl
  | ok made pool =>
    rw [h] at hgrown
    have hinstalls := installs_of_staged register s hp.wellFormed h
    exact ⟨⟨hgrown.2, hinstalls⟩, hinstalls.whole⟩

end

/-- Both methods of the class are bound. -/
def bothBound : Registry :=
  (Registry.empty.insert ⟨"f", "(J)V"⟩ ⟨"M", "f", none⟩).insert ⟨"g", "(J)V"⟩ ⟨"M", "g", none⟩

/-- A registrar that writes down the names it is told, and refuses one. -/
def butG : Registrar (List String) := fun b names =>
  if b.name = "g" then .error (.malformed .rawNul) (names ++ [b.name]) else .ok () (names ++ [b.name])

/-- Whether there is no text in a slot that takes more than 65535 bytes. -/
def isShort : Option Constant → Bool
  | some (.utf8 bytes) => bytes.length ≤ 65535
  | _ => true

theorem reachable_annotated : annotated.pool.Reachable := by
  have laid : Pool.Laid (annotated.pool.slots.toList.drop 1) :=
    .narrow rfl (.narrow rfl (.narrow rfl (.narrow rfl (.narrow rfl (.narrow rfl (.narrow rfl .nil))))))
  have short : ∀ slot ∈ annotated.pool.slots.toList, isShort slot = true := by decide +kernel
  exact Pool.WellFormed.reachable ⟨⟨_, rfl, laid⟩, by decide⟩ fun bytes hb =>
    of_decide_eq_true (short (some (.utf8 bytes)) hb)

/-- The first method has its proxy when the binding of the second one is refused, which is as it was. -/
theorem rewrite_outcome_refused :
    ∃ pool m m' back, annotated.methods = m :: back ∧
      rewrite .standard butG bothBound ⟨annotated, []⟩ = .error (.malformed .rawNul)
        ⟨{ annotated with pool, methods := m' :: back }, ["f", "g"]⟩ ∧
      Replaced .standard ⟨"f", "(J)V"⟩ ⟨"M", "f", none⟩ annotated.pool pool m m' := by
  have hstaged : (match staged .standard bothBound annotated with
      | .ok .. => true
      | .error .. => false) = true := by decide +kernel
  have hends :=
    (@rewrite_outcome (List String) .standard butG bothBound annotated [] reachable_annotated).1
  have hbound : annotated.methods.map (boundMethod? annotated bothBound) =
      [some ⟨⟨"f", "(J)V"⟩, "M", "f", none⟩, some ⟨⟨"g", "(J)V"⟩, "M", "g", none⟩] := by decide +kernel
  split at hends
  · next h =>
    rw [h] at hstaged
    cases hstaged
  · next pool _ =>
    refine ⟨pool, ?_⟩
    obtain ⟨-, hinstalls⟩ := hends
    revert hinstalls
    generalize rewrite .standard butG bothBound ⟨annotated, []⟩ = out
    rintro (⟨-, -, told⟩ | @⟨front, front', back, m, x, t, t', f, methods, bound, told, refusal, patches⟩)
    · have hall : boundMethods annotated bothBound =
          [⟨⟨"f", "(J)V"⟩, "M", "f", none⟩, ⟨⟨"g", "(J)V"⟩, "M", "g", none⟩] := by decide +kernel
      rw [hall] at told
      cases told
    · rw [methods] at hbound
      cases front with
      | nil =>
        cases bound.symm.trans (List.cons.inj hbound).1
        cases told
        cases refusal
      | cons a front =>
        obtain ⟨ha, hrest⟩ := List.cons.inj hbound
        cases front with
        | nil =>
          cases bound.symm.trans (List.cons.inj hrest).1
          rw [List.filterMap_cons, ha] at told
          cases told
          cases refusal
          obtain ⟨m', _, hpatch, hnone, rfl⟩ := List.forall₂_cons_left_iff.1 patches
          cases hnone
          exact ⟨a, m', m :: back, methods, rfl, hpatch.replaced ha⟩
        | cons b front =>
          have hlength := congrArg List.length hrest
          simp at hlength

end ScriptProxy.Import
