import ScriptProxy.Import.Hook
import ScriptProxy.Proofs.Import.Installation

/-!
# Rewritten classes are conservative patches

`transform_rewritten`: a class that comes out rewritten is read as the class that went in, but for
more constants at the end of its pool and for the methods that are bound, which are no longer native
and have a proxy as their body.
-/

namespace ScriptProxy.Import

open ClassFile Outcome

/-- `c'` is `c` with proxies for the methods that a registry binds. -/
structure IsPatch (config : Config) (registry : Registry) (c c' : ClassFile) : Prop where
  minor : c'.minor = c.minor
  major : c'.major = c.major
  access : c'.access = c.access
  thisClass : c'.thisClass = c.thisClass
  superClass : c'.superClass = c.superClass
  interfaces : c'.interfaces = c.interfaces
  fields : c'.fields = c.fields
  attributes : c'.attributes = c.attributes
  pool : c.pool.Extends c'.pool
  methods : List.Forall₂ (Patches config registry c.pool c'.pool) c.methods c'.methods

theorem isPatch_of_staged {config : Config} {registry : Registry} {c : ClassFile} {pool : Pool}
    {prepared : List (Site × Code)} {codeName : UInt16} (hp : c.pool.WellFormed)
    (h : staged config registry c = .ok (prepared, codeName) pool) :
    IsPatch config registry c (putAll codeName { c with pool } prepared) := by
  obtain ⟨-, hgrown, -⟩ := staged_eq_ok hp h
  rw [← List.append_nil prepared] at h
  obtain ⟨ms, _, ms', hsplit, hput, hall, -, rfl⟩ := putAll_of_staged hp h
  rw [hput]
  rw [List.append_nil] at hsplit ⊢
  exact ⟨rfl, rfl, rfl, rfl, rfl, rfl, rfl, rfl, hgrown, by rw [hsplit]; exact hall⟩

theorem rewrite_eq_ok {σ : Type} {config : Config} {register : Registrar σ} {registry : Registry}
    {r r' : Rewriting σ} {patched : List Patched} (hp : r.classFile.pool.WellFormed)
    (h : rewrite config register registry r = .ok patched r') :
    r'.classFile.pool.WellFormed ∧ IsPatch config registry r.classFile r'.classFile := by
  obtain ⟨c, t⟩ := r
  rw [rewrite_of_staged] at h
  cases hstaged : staged config registry c with
  | error f pool =>
    rw [hstaged] at h
    cases h
  | ok made pool =>
    rw [hstaged] at h
    rcases install_mapM register made.2 (written_of_staged hp hstaged) { c with pool } t with
      ⟨t', -, hinstalled⟩ | ⟨_, _, _, _, _, _, -, -, -, hinstalled⟩
    · cases hinstalled.symm.trans h
      have hpatch := isPatch_of_staged hp hstaged
      refine ⟨?_, hpatch⟩
      rw [pool_putAll]
      exact (staged_eq_ok hp hstaged).1
    · cases hinstalled.symm.trans h

/-- A class that comes out rewritten is the class that went in with proxies for the methods that are
found to be bound, and nothing else changed. -/
theorem transform_rewritten {σ : Type} {register : Registrar σ} {name : String} {bytes out : Bytes}
    {h h' : Hook σ} (ht : Hook.transform register name bytes h = .ok (.rewritten out) h') :
    ∃ c found c', ClassFile.ofBytes bytes = .ok c ∧ scan c h.config.marker = .ok found ∧
      ClassFile.ofBytes out = .ok c' ∧ IsPatch h.config found.registry c c' := by
  unfold Hook.transform at ht
  split at ht
  · cases ht
  next c found hread =>
  obtain ⟨c₁, hc, hread⟩ := bind_eq_ok.1 hread
  obtain ⟨found₁, hfound, hread⟩ := bind_eq_ok.1 hread
  cases hread
  split at ht
  · cases ht
  split at ht
  · cases ht
  next patched r hrewrite =>
  obtain ⟨hpool, hpatch⟩ := rewrite_eq_ok (ClassFile.ofBytes_eq_ok.1 hc).1 hrewrite
  dsimp only at ht
  split at ht
  · cases ht
  next written hwritten =>
  cases ht
  exact ⟨c, found, r.classFile, hc, hfound, ClassFile.ofBytes_eq_ok.2 ⟨hpool, hwritten⟩, hpatch⟩

open Text.ModifiedUtf8 (encode) in
/-- A class with two native methods, of which the first one has the annotation and a flag without a
meaning. -/
def annotated : ClassFile where
  minor := 0
  major := 52
  pool := ⟨#[none, some (.utf8 (encode "A")), some (.classRef 1), some (.utf8 (encode "LImport;")),
    some (.utf8 (encode "f")), some (.utf8 (encode "(J)V")),
    some (.utf8 (encode "RuntimeInvisibleAnnotations")), some (.utf8 (encode "g"))]⟩
  access := ⟨0x0021⟩
  thisClass := 2
  superClass := 0
  interfaces := []
  fields := []
  methods := [⟨⟨0x8109⟩, 4, 5, [⟨6, [0, 1, 0, 3, 0, 0]⟩]⟩, ⟨⟨0x0101⟩, 7, 5, []⟩]
  attributes := []

def annotatedHook : Hook Unit := .new { Config.standard with marker := "LImport;" } ()

theorem transform_rewritten_annotated :
    ∃ bytes out h', annotated.toBytes = .ok bytes ∧
      Hook.transform (fun _ => pure ()) "A" bytes annotatedHook = .ok (.rewritten out) h' ∧
      ∃ c found c', ClassFile.ofBytes bytes = .ok c ∧ scan c "LImport;" = .ok found ∧
        ClassFile.ofBytes out = .ok c' ∧ IsPatch annotatedHook.config found.registry c c' := by
  have hdone : (match annotated.toBytes with
      | .ok bytes =>
        match Hook.transform (fun _ => pure ()) "A" bytes annotatedHook with
        | .ok (.rewritten _) _ => true
        | _ => false
      | .error _ => false) = true := by decide +kernel
  split at hdone
  · next bytes hbytes =>
    split at hdone
    · next out h' ht =>
      have hpatch := transform_rewritten ht
      refine ⟨bytes, out, h', hbytes, ht, ?_⟩
      exact hpatch
    · cases hdone
  · cases hdone

end ScriptProxy.Import
