import ScriptProxy.Proofs.Import.Plan

/-!
# Which methods a hook touches

A hook looks for imports among the native methods of a class, and gives proxies to all methods that have
the name and the descriptor of one of them. So a method that is not native is left as it is unless it
shares its name and its descriptor with an import: `touches_of_transform`.
-/

namespace ScriptProxy.Import

open ClassFile Outcome

/-- A native method of a class, with the name and descriptor, that declares an import. -/
structure IsImport (c : ClassFile) (marker : String) (key : MethodKey) (n : Member) : Prop where
  mem : n ∈ c.methods
  isNative : n.access.isNative = true
  key_eq : keyOf? c n = some key
  declares : ∃ className a b, c.className = .ok className ∧ Reaches c.pool marker n a ∧
    Declares c.pool (simpleNameOf className) key.name a b

/-- What becomes of a method of a class that is rewritten as `c'`. -/
structure Touches (config : Config) (c c' : ClassFile) (m m' : Member) (key : MethodKey) : Prop where
  key_eq : keyOf? c m = some key
  kept : (¬ ∃ n, IsImport c config.marker key n) → m' = m
  replaced : (∃ n, IsImport c config.marker key n) →
    ∃ b, Replaced config key b c.pool c'.pool m m'

/-- A scan binds the names and descriptors of the imports. -/
theorem get?_ne_none_iff {c : ClassFile} {marker : String} {found : Findings}
    (h : scan c marker = .ok found) (key : MethodKey) :
    found.registry.get? key ≠ none ↔ ∃ n, IsImport c marker key n := by
  obtain ⟨className, hname, -, hregistry, -⟩ := scan_eq_ok h
  have hempty : (OrderedMap.empty : OrderedMap MethodKey Binding).get? key = none := rfl
  rw [Registry.get?_eq, hregistry, OrderedMap.get?_insertAll, hempty, Option.or_none, ne_eq,
    List.findSome?_eq_none_iff, not_forall]
  constructor
  · rintro ⟨⟨k, b⟩, he⟩
    rw [Classical.not_imp, List.mem_reverse, List.mem_filterMap] at he
    obtain ⟨⟨n, hn, hb⟩, hk⟩ := he
    obtain rfl : k = key := by
      by_contra hne
      exact hk (if_neg hne)
    obtain ⟨hkey, hdeclared⟩ := bindingOf?_eq_some.1 hb
    obtain ⟨a, ha⟩ := declaredBinding_eq_some.1 hdeclared
    obtain ⟨hmem, hnative⟩ := List.mem_filter.1 hn
    exact ⟨n, hmem, hnative, hkey, className, a, b, hname, ha⟩
  · rintro ⟨n, hmem, hnative, hkey, className', a, b, hname', ha⟩
    cases hname.symm.trans hname'
    have hb := bindingOf?_eq_some.2 ⟨hkey, declaredBinding_eq_some.2 ⟨a, ha⟩⟩
    refine ⟨(key, b), ?_⟩
    rw [Classical.not_imp, List.mem_reverse, List.mem_filterMap, if_pos rfl]
    exact ⟨⟨n, List.mem_filter.2 ⟨hmem, hnative⟩, hb⟩, by simp⟩

theorem touches_of_patches {c c' : ClassFile} {config : Config} {found : Findings} {m m' : Member}
    (h : scan c config.marker = .ok found)
    (hm : Patches config found.registry c.pool c'.pool m m') :
    ∃ key, Touches config c c' m m' key := by
  obtain ⟨name, descriptor, hn, hd, hkept⟩ := hm
  have hiff := get?_ne_none_iff h ⟨name, descriptor⟩
  refine ⟨⟨name, descriptor⟩, keyOf?_eq_some.2 ⟨hn, hd⟩, fun hnone => ?_, fun hsome => ?_⟩
  · rw [← hiff, Classical.not_not] at hnone
    rwa [hnone] at hkept
  · obtain ⟨b, hb⟩ := Option.ne_none_iff_exists'.1 (hiff.2 hsome)
    rw [hb] at hkept
    exact ⟨b, hkept⟩

/-- The methods of a class that comes out rewritten are the ones that went in, with proxies in those
that have the name and the descriptor of an import. All others are the same, flags and attributes
included. -/
theorem touches_of_transform {σ : Type} {register : Registrar σ} {name : String} {bytes out : Bytes}
    {h h' : Hook σ} (ht : Hook.transform register name bytes h = .ok (.rewritten out) h') :
    ∃ c c', ClassFile.ofBytes bytes = .ok c ∧ ClassFile.ofBytes out = .ok c' ∧
      List.Forall₂ (fun m m' => ∃ key, Touches h.config c c' m m' key) c.methods c'.methods := by
  obtain ⟨p, s, hplan, -, hwritten, -⟩ := transform_eq_rewritten.1 ht
  obtain ⟨c, found, hc, hfound, hp⟩ := isPlan_of_plan hplan
  exact ⟨c, p.classFile, hc, ClassFile.ofBytes_eq_ok.2 ⟨hp.wellFormed, hwritten⟩,
    hp.isPatch.methods.imp fun _ _ hm => touches_of_patches hfound hm⟩

open Text.ModifiedUtf8 (encode) in
/-- A class with an import `f()V` and two methods that are not native, of which the first one is an
`f()V` as well. -/
def shared : ClassFile where
  minor := 0
  major := 52
  pool := ⟨#[none, some (.utf8 (encode "A")), some (.classRef 1), some (.utf8 (encode "LImport;")),
    some (.utf8 (encode "f")), some (.utf8 (encode "()V")),
    some (.utf8 (encode "RuntimeInvisibleAnnotations")), some (.utf8 (encode "Code")),
    some (.utf8 (encode "g"))]⟩
  access := ⟨0x0021⟩
  thisClass := 2
  superClass := 0
  interfaces := []
  fields := []
  methods := [⟨⟨0x0109⟩, 4, 5, [⟨6, [0, 1, 0, 3, 0, 0]⟩]⟩,
    ⟨⟨0x0009⟩, 4, 5, [⟨7, [0, 0, 0, 0, 0, 0, 0, 1, 0xB1, 0, 0, 0, 0]⟩]⟩,
    ⟨⟨0x0009⟩, 8, 5, [⟨7, [0, 0, 0, 0, 0, 0, 0, 1, 0xB1, 0, 0, 0, 0]⟩]⟩]
  attributes := []

/-- Whether a class can be written and comes out of a hook rewritten. -/
def comesOutRewritten (c : ClassFile) (h : Hook Unit) : Bool :=
  match c.toBytes with
  | .ok bytes =>
    match Hook.transform (fun _ => pure ()) "A" bytes h with
    | .ok (.rewritten _) _ => true
    | _ => false
  | .error _ => false

theorem touches_of_transform_shared :
    ∃ bytes out h', shared.toBytes = .ok bytes ∧
      Hook.transform (fun _ => pure ()) "A" bytes annotatedHook = .ok (.rewritten out) h' ∧
      ∃ c c', ClassFile.ofBytes bytes = .ok c ∧ ClassFile.ofBytes out = .ok c' ∧
        List.Forall₂ (fun m m' => ∃ key, Touches annotatedHook.config c c' m m' key)
          c.methods c'.methods := by
  have hdone : comesOutRewritten shared annotatedHook = true := by decide +kernel
  unfold comesOutRewritten at hdone
  split at hdone
  · next bytes hbytes =>
    split at hdone
    · next out h' ht => exact ⟨bytes, out, h', hbytes, ht, touches_of_transform ht⟩
    · cases hdone
  · cases hdone

end ScriptProxy.Import
