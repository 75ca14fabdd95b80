import ScriptProxy.Proofs.Import.Patch

/-!
# What a hook does, apart from its registrar

What a hook makes of a class follows from its configuration and the bytes alone: `plan`. The registrar
only gets to know of the bindings in the plan, one after the other, and may stop the hook on the way:
`transform_eq`.
-/

namespace ScriptProxy.Import

open ClassFile Outcome

/-- A registrar that takes note of nothing and refuses nothing. -/
def idle : Registrar Unit := fun _ => pure ()

/-- The methods of a class that get a proxy, and the class with the proxies in it. -/
structure Plan where
  patched : List Patched
  classFile : ClassFile

def Plan.bindings (p : Plan) : List Binding := p.patched.map (·.binding)

/-- What is to be done with a class, if it has imports. -/
def plan (config : Config) (bytes : Bytes) : Except Failure (Option Plan) := do
  let c ← ClassFile.ofBytes bytes
  let found ← scan c config.marker
  if found.registry.isEmpty then return none
  else
    match rewrite config idle found.registry ⟨c, ()⟩ with
    | .ok patched r => return some ⟨patched, r.classFile⟩
    | .error f _ => throw f

/-! ### The registrar -/

section
variable {σ : Type}

/-- How a rewrite ends that makes a plan, if the registrar answers so. -/
def Follows (p : Plan) :
    EStateM.Result Failure σ Unit → EStateM.Result Failure (Rewriting σ) (List Patched) → Prop
  | .ok _ s, out => out = .ok p.patched ⟨p.classFile, s⟩
  | .error f s, out => ∃ c, out = .error f ⟨c, s⟩

/-- Either a rewrite fails before its registrar gets to know of anything, or it makes of the class
what it makes of it with any other registrar. -/
theorem follows_rewrite (config : Config) (registry : Registry) {c : ClassFile}
    (hp : c.pool.WellFormed) :
    (∃ f c', ∀ {σ : Type} (register : Registrar σ) (t : σ),
      rewrite config register registry ⟨c, t⟩ = .error f ⟨c', t⟩) ∨
    ∃ c', ∀ {σ : Type} (register : Registrar σ) (t : σ),
      Follows ⟨boundMethods c registry, c'⟩
        (tellAll register ((boundMethods c registry).map (·.binding)) t)
        (rewrite config register registry ⟨c, t⟩) := by
  cases hstaged : staged config registry c with
  | error f pool =>
    refine .inl ⟨f, { c with pool }, fun register t => ?_⟩
    rw [rewrite_of_staged, hstaged]
  | ok made pool =>
    refine .inr ⟨putAll made.2 { c with pool } made.1, fun register t => ?_⟩
    rw [rewrite_of_staged, hstaged, ← patched_of_staged hp hstaged]
    rcases install_mapM register made.2 (written_of_staged hp hstaged) { c with pool } t with
      ⟨t', htell, hinstalled⟩ | ⟨front, sc, back, t₁, f, t', hsplit, htell, hrefused, hinstalled⟩
    · rw [htell]
      exact hinstalled
    · have htold : tellAll register ((made.1.map patchedOf).map (·.binding)) t = .error f t' := by
        rw [hsplit, List.map_append, List.map_append, tellAll_append, htell]
        dsimp only
        rw [List.map_cons, List.map_cons, tellAll_cons, hrefused]
      rw [htold]
      exact ⟨_, hinstalled⟩

theorem tellAll_idle (bs : List Binding) : tellAll idle bs () = .ok () () := by
  induction bs with
  | nil => rfl
  | cons b bs ih =>
    rw [tellAll_cons]
    exact ih

/-- What the plan for a class says. -/
structure IsPlan (config : Config) (c : ClassFile) (found : Findings) (p : Plan) : Prop where
  patched_eq : p.patched = boundMethods c found.registry
  patched_ne_nil : p.patched ≠ []
  wellFormed : p.classFile.pool.WellFormed
  isPatch : IsPatch config found.registry c p.classFile

/-- If a scan binds anything, it binds a method of the class. -/
theorem boundMethods_ne_nil {c : ClassFile} {marker : String} {found : Findings}
    (h : scan c marker = .ok found) (hne : found.registry.isEmpty = false) :
    boundMethods c found.registry ≠ [] := by
  obtain ⟨className, -, -, hregistry, -⟩ := scan_eq_ok h
  intro hnil
  cases hall : (nativeMethods c).filterMap (bindingOf? c className marker) with
  | nil =>
    rw [hregistry, hall] at hne
    cases hne
  | cons e es =>
    obtain ⟨key, b⟩ := e
    obtain ⟨m, hm, hb⟩ := List.mem_filterMap.1 (hall ▸ List.mem_cons_self :
      (key, b) ∈ (nativeMethods c).filterMap (bindingOf? c className marker))
    have hkey := (bindingOf?_eq_some.1 hb).1
    have hnone := List.filterMap_eq_nil_iff.1 hnil m (List.mem_filter.1 hm).1
    rw [boundMethod?, hkey, Option.bind_some, Option.map_eq_none_iff, Registry.get?_eq, hregistry,
      OrderedMap.get?_insertAll, hall] at hnone
    simp at hnone

theorem plan_eq_some {config : Config} {bytes : Bytes} {p : Plan} :
    plan config bytes = .ok (some p) ↔ ∃ c found, ClassFile.ofBytes bytes = .ok c ∧
      scan c config.marker = .ok found ∧ found.registry.isEmpty = false ∧
      rewrite config idle found.registry ⟨c, ()⟩ = .ok p.patched ⟨p.classFile, ()⟩ := by
  constructor
  · intro h
    obtain ⟨c, hc, h⟩ := bind_eq_ok.1 h
    obtain ⟨found, hfound, h⟩ := bind_eq_ok.1 h
    refine ⟨c, found, hc, hfound, ?_⟩
    split at h
    · cases h
    next hne =>
    split at h
    · next patched r hr =>
      cases h
      exact ⟨Bool.eq_false_iff.2 hne, hr⟩
    · cases h
  · rintro ⟨c, found, hc, hfound, hne, hr⟩
    refine bind_eq_ok.2 ⟨c, hc, bind_eq_ok.2 ⟨found, hfound, ?_⟩⟩
    rw [hne, hr]
    rfl

theorem isPlan_of_rewrite {config : Config} {c : ClassFile} {found : Findings} {p : Plan}
    (hwf : c.pool.WellFormed) (hfound : scan c config.marker = .ok found)
    (hne : found.registry.isEmpty = false)
    (hr : rewrite config idle found.registry ⟨c, ()⟩ = .ok p.patched ⟨p.classFile, ()⟩) :
    IsPlan config c found p := by
  obtain ⟨hpool, hpatch⟩ := rewrite_eq_ok hwf hr
  have hpatched : p.patched = boundMethods c found.registry := by
    rcases follows_rewrite config found.registry hwf with ⟨f, c', hfail⟩ | ⟨c', hfollows⟩
    · rw [hfail] at hr
      cases hr
    · have hr' := hfollows idle ()
      rw [tellAll_idle, hr] at hr'
      injection hr'
  refine ⟨hpatched, ?_, hpool, hpatch⟩
  rw [hpatched]
  exact boundMethods_ne_nil hfound hne

theorem isPlan_of_plan {config : Config} {bytes : Bytes} {p : Plan}
    (h : plan config bytes = .ok (some p)) : ∃ c found, ClassFile.ofBytes bytes = .ok c ∧
      scan c config.marker = .ok found ∧ IsPlan config c found p := by
  obtain ⟨c, found, hc, hfound, hne, hr⟩ := plan_eq_some.1 h
  exact ⟨c, found, hc, hfound, isPlan_of_rewrite (ClassFile.ofBytes_eq_ok.1 hc).1 hfound hne hr⟩

theorem plan_eq_none {config : Config} {bytes : Bytes} :
    plan config bytes = .ok none ↔ ∃ c found, ClassFile.ofBytes bytes = .ok c ∧
      scan c config.marker = .ok found ∧ found.registry.isEmpty = true := by
  constructor
  · intro h
    obtain ⟨c, hc, h⟩ := bind_eq_ok.1 h
    obtain ⟨found, hfound, h⟩ := bind_eq_ok.1 h
    refine ⟨c, found, hc, hfound, ?_⟩
    split at h
    · next hempty => exact hempty
    · split at h <;> cases h
  · rintro ⟨c, found, hc, hfound, hempty⟩
    refine bind_eq_ok.2 ⟨c, hc, bind_eq_ok.2 ⟨found, hfound, ?_⟩⟩
    rw [if_pos hempty]
    rfl

/-- A transform makes the plan, tells its registrar of the bindings and writes the class. -/
theorem transform_eq (register : Registrar σ) (name : String) (bytes : Bytes) (h : Hook σ) :
    Hook.transform register name bytes h =
      match plan h.config bytes with
      | .error f => .error f h
      | .ok none => .ok (.unchanged bytes) h
      | .ok (some p) =>
        match tellAll register p.bindings h.registrar with
        | .error f s => .error f { h with registrar := s }
        | .ok _ s =>
          match p.classFile.toBytes with
          | .error f => .error f { h with registrar := s }
          | .ok out => .ok (.rewritten out)
            { h with registrar := s, ledger := h.ledger.insert name p.patched } := by
  unfold Hook.transform plan
  cases hc : ClassFile.ofBytes bytes with
  | error f => rfl
  | ok c =>
    cases hfound : scan c h.config.marker with
    | error f => simp only [bind, Except.bind, hfound]
    | ok found =>
      simp only [bind, Except.bind, pure, Except.pure, hfound]
      cases hempty : found.registry.isEmpty with
      | true => rfl
      | false =>
        have hwf := (ClassFile.ofBytes_eq_ok.1 hc).1
        simp only [Bool.false_eq_true, if_false]
        rcases follows_rewrite h.config found.registry hwf with ⟨f, c', hfail⟩ | ⟨c', hfollows⟩
        · rw [hfail, hfail]
          rfl
        · have hidle := hfollows idle ()
          rw [tellAll_idle] at hidle
          rw [show rewrite h.config idle found.registry ⟨c, ()⟩ = _ from hidle]
          have hr := hfollows register h.registrar
          dsimp only [Plan.bindings]
          cases htell : tellAll register ((boundMethods c found.registry).map (·.binding))
              h.registrar with
          | error f s =>
            rw [htell] at hr
            obtain ⟨c'', hc''⟩ := hr
            rw [hc'']
          | ok _ s =>
            rw [htell] at hr
            rewrite [show rewrite h.config register found.registry ⟨c, h.registrar⟩ = _ from hr]
            rfl

variable {register : Registrar σ} {name : String} {bytes out : Bytes} {h h' : Hook σ}

theorem transform_eq_unchanged :
    Hook.transform register name bytes h = .ok (.unchanged out) h' ↔
      plan h.config bytes = .ok none ∧ out = bytes ∧ h' = h := by
  rw [transform_eq]
  cases plan h.config bytes with
  | error f => simp
  | ok o =>
    cases o with
    | none => simp [eq_comm]
    | some p =>
      cases htell : tellAll register p.bindings h.registrar with
      | error f s => simp [htell]
      | ok _ s => cases hbytes : p.classFile.toBytes <;> simp [htell, hbytes]

theorem transform_eq_rewritten :
    Hook.transform register name bytes h = .ok (.rewritten out) h' ↔
      ∃ p s, plan h.config bytes = .ok (some p) ∧ tellAll register p.bindings h.registrar = .ok () s ∧
        p.classFile.toBytes = .ok out ∧
        h' = { h with registrar := s, ledger := h.ledger.insert name p.patched } := by
  rw [transform_eq]
  cases plan h.config bytes with
  | error f => simp
  | ok o =>
    cases o with
    | none => simp
    | some p =>
      cases htell : tellAll register p.bindings h.registrar with
      | error f s => simp [htell]
      | ok _ s => cases hbytes : p.classFile.toBytes <;> simp [htell, hbytes, eq_comm]

/-- A transform fails before it has called its registrar, because of its registrar, or because the
class that it has made cannot be written. -/
theorem transform_eq_error {f : Failure} :
    Hook.transform register name bytes h = .error f h' ↔
      plan h.config bytes = .error f ∧ h' = h ∨
      ∃ p s, plan h.config bytes = .ok (some p) ∧ h' = { h with registrar := s } ∧
        (tellAll register p.bindings h.registrar = .error f s ∨
          tellAll register p.bindings h.registrar = .ok () s ∧ p.classFile.toBytes = .error f) := by
  rw [transform_eq]
  cases plan h.config bytes with
  | error f => simp [eq_comm]
  | ok o =>
    cases o with
    | none => simp
    | some p =>
      cases htell : tellAll register p.bindings h.registrar with
      | error f s => simp [htell, eq_comm, and_comm]
      | ok _ s => cases hbytes : p.classFile.toBytes <;> simp [htell, hbytes, eq_comm, and_comm]

end

end ScriptProxy.Import
