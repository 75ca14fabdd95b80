import Mathlib.Data.List.Find
import ScriptProxy.Proofs.Import.Declaration
import ScriptProxy.Proofs.Import.Patch

/-!
# Transforming a class again

`transform_again`: what a hook made of a class goes through it untouched the second time, if the
annotations of the class refer to nothing beyond the end of its constant pool. The pool of a
rewritten class is longer, and an index that referred to nothing before may refer to something now:
`transform_again_dangling` is a class that is rewritten twice.
-/

namespace ScriptProxy

namespace ClassFile

/-! ### Indices within a pool -/

namespace Pool

/-- The pool has a slot for the index. -/
def Covers (p : Pool) (i : UInt16) : Prop := i.toNat < p.count

instance (p : Pool) (i : UInt16) : Decidable (p.Covers i) := inferInstanceAs (Decidable (_ < _))

namespace Extends
variable {p q : Pool} {i : UInt16} (h : p.Extends q) (hi : p.Covers i)
include h hi

theorem get_of_covers {c : Constant} (hc : q.get i = .ok c) : p.get i = .ok c := by
  rw [get_eq_ok, ← Array.getElem?_toList] at hc ⊢
  obtain ⟨more, hs⟩ := h
  rwa [← hs, List.getElem?_append_left (show i.toNat < p.slots.toList.length from hi)] at hc

theorem text_of_covers {s : String} (hs : q.text i = .ok s) : p.text i = .ok s := by
  obtain ⟨bytes, hc, hd⟩ := text_eq_ok.1 hs
  exact text_eq_ok.2 ⟨bytes, h.get_of_covers hi hc, hd⟩

end Extends

end Pool

theorem Attribute.isNamed_iff {pool : Pool} {name : String} {a : Attribute} :
    a.isNamed pool name = true ↔ pool.text a.name = .ok name := by
  unfold isNamed
  cases pool.text a.name with
  | ok n => simp
  | error f => simp

theorem Attribute.isNamed_of_extends {p q : Pool} (h : p.Extends q) {a : Attribute}
    (ha : p.Covers a.name) (name : String) : a.isNamed q name = a.isNamed p name := by
  rw [Bool.eq_iff_iff, isNamed_iff, isNamed_iff]
  exact ⟨h.text_of_covers ha, h.text⟩

/-- The indices that an import is read from. -/
def Annotation.references (a : Annotation) : List UInt16 :=
  a.type :: a.elements.flatMap fun (name, v) =>
    match v with
    | .const _ index => [name, index]
    | _ => [name]

/-- The annotations in the body of an attribute, if it can be read as a list of them. -/
def Attribute.annotations (a : Attribute) : List Annotation :=
  match Annotation.listOfBytes a.body with
  | .ok as => as
  | .error _ => []

end ClassFile

namespace Import

open ClassFile Outcome

/-- The names of a method's attributes, and what its annotations refer to, are within the pool. -/
def Enclosed (pool : Pool) (m : Member) : Prop :=
  ∀ a ∈ m.attributes, pool.Covers a.name ∧ ∀ name ∈ searchedAttributes, a.isNamed pool name = true →
    ∀ x ∈ a.annotations, ∀ i ∈ x.references, pool.Covers i

instance (pool : Pool) (m : Member) : Decidable (Enclosed pool m) :=
  -- not by going through all indices there can be
  letI (x : Annotation) : Decidable (∀ i ∈ x.references, pool.Covers i) := List.decidableBAll _ _
  inferInstanceAs (Decidable (∀ a ∈ m.attributes, _ ∧ ∀ name ∈ searchedAttributes, _ →
    ∀ x ∈ a.annotations, ∀ i ∈ x.references, _))

/-! ### What a method declares -/

section
variable {p q : Pool} (h : p.Extends q) {marker : String}
include h

theorem findMarked_of_extends {as : List Annotation} {o : Option Annotation}
    (has : ∀ a ∈ as, p.Covers a.type) (hq : findMarked q marker as = .ok o) :
    findMarked p marker as = .ok o := by
  induction as with
  | nil => exact hq
  | cons a as ih =>
    obtain ⟨type, htype, hrest⟩ := bind_eq_ok.1 hq
    have hp := h.text_of_covers (has a (by simp)) (blame_eq_ok.1 htype)
    refine bind_eq_ok.2 ⟨type, blame_eq_ok.2 hp, ?_⟩
    split at hrest
    · next hm => rw [if_pos hm]; exact hrest
    · next hm => rw [if_neg hm]; exact ih (fun a ha => has a (by simp [ha])) hrest

omit h in
theorem mem_of_findMarked {as : List Annotation} {a : Annotation}
    (hp : findMarked p marker as = .ok (some a)) : a ∈ as := by
  induction as with
  | nil => cases hp
  | cons b as ih =>
    obtain ⟨type, -, hrest⟩ := bind_eq_ok.1 hp
    split at hrest
    · cases hrest; simp
    · exact List.mem_cons_of_mem _ (ih hrest)

variable {m : Member}

theorem attribute?_of_extends (hm : Enclosed p m) (name : String) :
    m.attribute? q name = m.attribute? p name :=
  List.find?_congr fun a ha => Attribute.isNamed_of_extends h (hm a ha).1 name

/-- In an enclosed method, what the longer pool finds is what the shorter one finds, and all that it
refers to is in the shorter one. -/
theorem findIn_of_extends (hm : Enclosed p m) {names : List String} {a : Annotation}
    (hnames : ∀ name ∈ names, name ∈ searchedAttributes)
    (hq : findIn q marker m names = .ok (some a)) :
    findIn p marker m names = .ok (some a) ∧ ∀ i ∈ a.references, p.Covers i := by
  induction names with
  | nil => cases hq
  | cons name names ih =>
    have ih := ih fun n hn => hnames n (by simp [hn])
    rw [findIn, attribute?_of_extends h hm] at hq
    rw [findIn]
    cases hfound : m.attribute? p name with
    | none =>
      rw [hfound] at hq
      exact ih hq
    | some listing =>
      rw [hfound] at hq
      obtain ⟨as, has, hq⟩ := bind_eq_ok.1 hq
      obtain ⟨o, ho, hq⟩ := bind_eq_ok.1 hq
      have hcovers : ∀ x ∈ as, ∀ i ∈ x.references, p.Covers i := by
        have hl := (hm listing (List.mem_of_find?_eq_some hfound)).2 name (hnames name (by simp))
          (List.find?_some hfound)
        rwa [Attribute.annotations, blame_eq_ok.1 has] at hl
      have htypes : ∀ x ∈ as, p.Covers x.type := fun x hx =>
        hcovers x hx _ (by simp [ Annotation.references])
      have hp := findMarked_of_extends h htypes ho
      cases o with
      | none =>
        obtain ⟨hrest, hrefs⟩ := ih hq
        exact ⟨bind_eq_ok.2 ⟨as, has, bind_eq_ok.2 ⟨none, hp, hrest⟩⟩, hrefs⟩
      | some b =>
        cases hq
        exact ⟨bind_eq_ok.2 ⟨as, has, bind_eq_ok.2 ⟨some a, hp, rfl⟩⟩,
          hcovers a (mem_of_findMarked hp)⟩

theorem asString_of_extends {v : ElementValue} {s : String}
    (hv : ∀ tag index, v = .const tag index → p.Covers index) (hq : v.asString q = .ok s) :
    v.asString p = .ok s := by
  cases v with
  | const tag index =>
    rw [ElementValue.asString] at hq ⊢
    by_cases ht : tag = ElementValue.stringTag
    · rw [if_pos ht] at hq ⊢
      exact h.text_of_covers (hv tag index rfl) hq
    · rw [if_neg ht] at hq
      cases hq
  | _ => cases hq

theorem note_of_extends {d d' : Declared} {element : UInt16 × ElementValue}
    (hname : p.Covers element.1) (hv : ∀ tag index, element.2 = .const tag index → p.Covers index)
    (hq : d.note q element = .ok d') : d.note p element = .ok d' := by
  obtain ⟨name, hn, hq⟩ := bind_eq_ok.1 hq
  refine bind_eq_ok.2 ⟨name, blame_eq_ok.2 (h.text_of_covers hname (blame_eq_ok.1 hn)), ?_⟩
  have htext {s : String} (hs : blame (.notString name) (element.2.asString q) = .ok s) :
      blame (.notString name) (element.2.asString p) = .ok s :=
    blame_eq_ok.2 (asString_of_extends h hv (blame_eq_ok.1 hs))
  dsimp only at hq ⊢
  split_ifs at hq ⊢
  all_goals first
    | exact hq
    | obtain ⟨s, hs, hq⟩ := bind_eq_ok.1 hq
      exact bind_eq_ok.2 ⟨s, htext hs, hq⟩

theorem foldlM_note_of_extends {elements : List (UInt16 × ElementValue)} {d d' : Declared}
    (hcovers : ∀ e ∈ elements, p.Covers e.1 ∧ ∀ tag index, e.2 = .const tag index → p.Covers index)
    (hq : elements.foldlM (Declared.note q) d = .ok d') :
    elements.foldlM (Declared.note p) d = .ok d' := by
  induction elements generalizing d with
  | nil => exact hq
  | cons e elements ih =>
    rw [List.foldlM_cons] at hq ⊢
    obtain ⟨d₁, hd, hq⟩ := bind_eq_ok.1 hq
    have he := hcovers e (by simp)
    exact bind_eq_ok.2
      ⟨d₁, note_of_extends h he.1 he.2 hd, ih (fun e he => hcovers e (by simp [he])) hq⟩

/-- A binding that an enclosed method declares in a longer pool is declared in the shorter one. -/
theorem declaredBinding_of_extends (hm : Enclosed p m) {module name : String} {b : Binding}
    (hq : declaredBinding q marker module name m = .ok (some b)) :
    declaredBinding p marker module name m = .ok (some b) := by
  obtain ⟨o, ho, hq⟩ := bind_eq_ok.1 hq
  cases o with
  | none => cases hq
  | some a =>
    obtain ⟨hp, hrefs⟩ := findIn_of_extends h hm (fun _ hn => hn) ho
    obtain ⟨d, hd, hq⟩ := bind_eq_ok.1 hq
    refine bind_eq_ok.2 ⟨some a, hp, bind_eq_ok.2 ⟨d, foldlM_note_of_extends h ?_ hd, hq⟩⟩
    rintro ⟨element, v⟩ he
    constructor
    · refine hrefs _ (List.mem_cons_of_mem _ (List.mem_flatMap.2 ⟨_, he, ?_⟩))
      cases v <;> simp
    · rintro tag index rfl
      exact hrefs _ (List.mem_cons_of_mem _ (List.mem_flatMap.2 ⟨_, he, by simp⟩))

end

/-! ### Scanning -/

section
variable {c : ClassFile} {className marker : String} {found found' : Findings} {m : Member}

/-- A method whose binding is in the registry, if it declares one. -/
def IsNoted (c : ClassFile) (className marker : String) (registry : Registry) (m : Member) : Prop :=
  ∃ name descriptor, c.pool.text m.name = .ok name ∧ c.pool.text m.descriptor = .ok descriptor ∧
    ∀ b, declaredBinding c.pool marker (simpleNameOf className) name m = .ok (some b) →
      registry.get? ⟨name, descriptor⟩ ≠ none

theorem isNoted_of_scanMethod (h : scanMethod c className marker found m = .ok found') :
    IsNoted c className marker found'.registry m := by
  obtain ⟨name, hn, h⟩ := bind_eq_ok.1 h
  obtain ⟨descriptor, hd, h⟩ := bind_eq_ok.1 h
  refine ⟨name, descriptor, hn, hd, fun b hb => ?_⟩
  rw [hb] at h
  cases h
  simp [Registry.get?_insert]

theorem get?_of_scanMethod (h : scanMethod c className marker found m = .ok found')
    (key : MethodKey) (hkey : found.registry.get? key ≠ none) : found'.registry.get? key ≠ none := by
  obtain ⟨name, -, h⟩ := bind_eq_ok.1 h
  obtain ⟨descriptor, -, h⟩ := bind_eq_ok.1 h
  split at h
  · cases h
    rw [Registry.get?_insert]
    split
    · simp
    · exact hkey
  · cases h; exact hkey
  · cases h; exact hkey

theorem isNoted_of_foldlM {ms : List Member}
    (h : ms.foldlM (scanMethod c className marker) found = .ok found') :
    (∀ key, found.registry.get? key ≠ none → found'.registry.get? key ≠ none) ∧
      ∀ m ∈ ms, IsNoted c className marker found'.registry m := by
  induction ms generalizing found with
  | nil => cases h; exact ⟨fun _ hk => hk, by simp⟩
  | cons m ms ih =>
    rw [List.foldlM_cons] at h
    obtain ⟨found₁, h₁, h⟩ := bind_eq_ok.1 h
    obtain ⟨hkept, hall⟩ := ih h
    refine ⟨fun key hk => hkept key (get?_of_scanMethod h₁ key hk), fun m' hm' => ?_⟩
    rcases List.mem_cons.1 hm' with rfl | hm'
    · obtain ⟨name, descriptor, hn, hd, hb⟩ := isNoted_of_scanMethod h₁
      exact ⟨name, descriptor, hn, hd, fun b h => hkept _ (hb b h)⟩
    · exact hall m' hm'

theorem scanMethod_of_isNoted_empty (found : Findings)
    (h : IsNoted c className marker Registry.empty m) :
    ∃ found', scanMethod c className marker found m = .ok found' ∧
      found'.registry = found.registry := by
  obtain ⟨name, descriptor, hn, hd, hb⟩ := h
  unfold scanMethod
  rw [ClassFile.methodName, hn, ClassFile.methodDescriptor, hd]
  dsimp only [bind, Except.bind]
  split
  · next b hdec => exact absurd rfl (hb b hdec)
  · exact ⟨found, rfl, rfl⟩
  · exact ⟨_, rfl, rfl⟩

/-- Methods that declare nothing leave the registry as it is. -/
theorem foldlM_of_isNoted_empty (found : Findings) (ms : List Member)
    (h : ∀ m ∈ ms, IsNoted c className marker Registry.empty m) :
    ∃ found', ms.foldlM (scanMethod c className marker) found = .ok found' ∧
      found'.registry = found.registry := by
  induction ms generalizing found with
  | nil => exact ⟨found, rfl, rfl⟩
  | cons m ms ih =>
    obtain ⟨found₁, h₁, hr₁⟩ := scanMethod_of_isNoted_empty found (h m (by simp))
    obtain ⟨found', h', hr'⟩ := ih found₁ fun m hm => h m (by simp [hm])
    refine ⟨found', ?_, hr'.trans hr₁⟩
    rw [List.foldlM_cons]
    exact bind_eq_ok.2 ⟨found₁, h₁, h'⟩

end

/-! ### The second time -/

theorem not_isNative_of_access {f g : AccessFlags} (h : f.bits = g.bits &&& 0xFEFF) :
    f.isNative = false := by
  have hzero : g.bits &&& 0xFEFF &&& 0x0100 = 0 := by
    rw [UInt16.and_assoc]
    exact UInt16.and_zero
  unfold AccessFlags.isNative AccessFlags.contains AccessFlags.native
  rw [h, hzero]
  rfl

/-- The native methods of a patched class are methods of the class before that declared nothing. -/
theorem scan_of_isPatch {config : Config} {c c' : ClassFile} {found : Findings}
    (hscan : scan c config.marker = .ok found) (hpatch : IsPatch config found.registry c c')
    (henclosed : ∀ m ∈ c.methods, m.access.isNative = true → Enclosed c.pool m) :
    ∃ found', scan c' config.marker = .ok found' ∧ found'.registry.isEmpty = true := by
  obtain ⟨className, hname, hfold⟩ := bind_eq_ok.1 hscan
  have hname' : c'.className = .ok className := by
    rw [ClassFile.className, hpatch.thisClass]
    exact hpatch.pool.className hname
  obtain ⟨-, hnoted⟩ := isNoted_of_foldlM hfold
  have hnone : ∀ m' ∈ c'.methods.filter (·.access.isNative),
      IsNoted c' className config.marker Registry.empty m' := by
    intro m' hm'
    obtain ⟨hm', hnative⟩ := List.mem_filter.1 hm'
    obtain ⟨m, hm, name, descriptor, hn, hd, hkept⟩ := exists_of_mem_forall₂ hpatch.methods hm'
    cases hb : found.registry.get? ⟨name, descriptor⟩ with
    | some b =>
      rw [hb] at hkept
      rw [not_isNative_of_access hkept.access] at hnative
      cases hnative
    | none =>
      rw [hb] at hkept
      obtain rfl : m' = m := hkept
      refine ⟨name, descriptor, hpatch.pool.text hn, hpatch.pool.text hd, fun b hdec => ?_⟩
      -- what it declares now it would have declared before, and it would be in the registry
      have hdec := declaredBinding_of_extends hpatch.pool (henclosed m' hm hnative) hdec
      obtain ⟨name₁, descriptor₁, hn₁, hd₁, hin⟩ := hnoted m' (List.mem_filter.2 ⟨hm, hnative⟩)
      cases hn.symm.trans hn₁
      cases hd.symm.trans hd₁
      exact absurd hb (hin b hdec)
  obtain ⟨found', hfold', hr⟩ := foldlM_of_isNoted_empty ⟨Registry.empty, []⟩ _ hnone
  exact ⟨found', bind_eq_ok.2 ⟨className, hname', hfold'⟩, by rw [hr]; rfl⟩

section
variable {σ : Type} {register : Registrar σ} {name : String} {bytes : Bytes} {h h' : Hook σ}

/-- A class without imports goes through a hook untouched. -/
theorem transform_of_scan {c : ClassFile} {found : Findings} (hc : ClassFile.ofBytes bytes = .ok c)
    (hscan : scan c h.config.marker = .ok found) (hempty : found.registry.isEmpty = true) :
    Hook.transform register name bytes h = .ok (.unchanged bytes) h := by
  have hread : (do
      let c ← ClassFile.ofBytes bytes
      return (c, ← scan c h.config.marker) : Except Failure (ClassFile × Findings)) =
      .ok (c, found) := bind_eq_ok.2 ⟨c, hc, bind_eq_ok.2 ⟨found, hscan, rfl⟩⟩
  unfold Hook.transform
  rw [hread]
  exact if_pos hempty

/-- What a hook does with a class: nothing, or a patch for what is found in it. -/
theorem transform_eq_ok {t : Transformed} (ht : Hook.transform register name bytes h = .ok t h') :
    ∃ c found, ClassFile.ofBytes bytes = .ok c ∧ scan c h.config.marker = .ok found ∧
      h'.config = h.config ∧
      (found.registry.isEmpty = true ∧ t = .unchanged bytes ∧ h' = h ∨
        ∃ c', ClassFile.ofBytes t.bytes = .ok c' ∧ IsPatch h.config found.registry c c') := by
  unfold Hook.transform at ht
  split at ht
  · cases ht
  next c found hread =>
  obtain ⟨c₁, hc, hread⟩ := bind_eq_ok.1 hread
  obtain ⟨found₁, hfound, hread⟩ := bind_eq_ok.1 hread
  cases hread
  refine ⟨c, found, hc, hfound, ?_⟩
  split at ht
  · next hempty =>
    cases ht
    exact ⟨rfl, .inl ⟨hempty, rfl, rfl⟩⟩
  split at ht
  · cases ht
  next patched r hrewrite =>
  obtain ⟨hpool, hpatch⟩ := rewrite_eq_ok (ClassFile.ofBytes_eq_ok.1 hc).1 hrewrite
  dsimp only at ht
  split at ht
  · cases ht
  next written hwritten =>
  cases ht
  exact ⟨rfl, .inr ⟨r.classFile, ClassFile.ofBytes_eq_ok.2 ⟨hpool, hwritten⟩, hpatch⟩⟩

/-- What comes out of a hook goes through it untouched, and the hook stays as it is. -/
theorem transform_again {t : Transformed} (ht : Hook.transform register name bytes h = .ok t h')
    (henclosed : ∀ c, ClassFile.ofBytes bytes = .ok c →
      ∀ m ∈ c.methods, m.access.isNative = true → Enclosed c.pool m) :
    Hook.transform register name t.bytes h' = .ok (.unchanged t.bytes) h' := by
  obtain ⟨c, found, hc, hscan, hconfig, hout⟩ := transform_eq_ok ht
  rcases hout with ⟨hempty, rfl, rfl⟩ | ⟨c', hc', hpatch⟩
  · exact transform_of_scan hc hscan hempty
  · obtain ⟨found', hscan', hempty⟩ := scan_of_isPatch hscan hpatch (henclosed c hc)
    exact transform_of_scan hc' (by rw [hconfig]; exact hscan') hempty

end

theorem transform_again_annotated :
    ∃ bytes t h', annotated.toBytes = .ok bytes ∧
      Hook.transform (fun _ => pure ()) "A" bytes annotatedHook = .ok t h' ∧
      Hook.transform (fun _ => pure ()) "A" t.bytes h' = .ok (.unchanged t.bytes) h' := by
  have hdone : (match annotated.toBytes with
      | .ok bytes =>
        (match ClassFile.ofBytes bytes with
        | .ok c => decide (∀ m ∈ c.methods, m.access.isNative = true → Enclosed c.pool m)
        | .error _ => false) &&
        (match Hook.transform (fun _ => pure ()) "A" bytes annotatedHook with
        | .ok _ _ => true
        | .error _ _ => false)
      | .error _ => false) = true := by decide +kernel
  split at hdone
  · next bytes hbytes =>
    obtain ⟨henclosed, hdone⟩ := Bool.and_eq_true_iff.1 hdone
    split at hdone
    · next t h' ht =>
      refine ⟨bytes, t, h', hbytes, ht, transform_again ht fun c hc => ?_⟩
      rw [hc] at henclosed
      exact of_decide_eq_true henclosed
    · cases hdone
  · cases hdone

open Text.ModifiedUtf8 (encode) in
/-- A class with two native methods, both of which are annotated. The annotation of the second one
names a script at index 11, behind the end of the pool. -/
def dangling : ClassFile where
  minor := 0
  major := 52
  pool := ⟨#[none, some (.utf8 (encode "A")), some (.classRef 1), some (.utf8 (encode "LImport;")),
    some (.utf8 (encode "f")), some (.utf8 (encode "()V")),
    some (.utf8 (encode "RuntimeInvisibleAnnotations")), some (.utf8 (encode "g")),
    some (.utf8 (encode "js"))]⟩
  access := ⟨0x0021⟩
  thisClass := 2
  superClass := 0
  interfaces := []
  fields := []
  methods := [⟨⟨0x0109⟩, 4, 5, [⟨6, [0, 1, 0, 3, 0, 0]⟩]⟩,
    ⟨⟨0x0109⟩, 7, 5, [⟨6, [0, 1, 0, 3, 0, 1, 0, 8, 0x73, 0, 11]⟩]⟩]
  attributes := []

/-- The proxy of the first method puts a text at index 11, and the second time the second method is
an import as well. -/
theorem transform_again_dangling :
    ∃ bytes out again h' h'', dangling.toBytes = .ok bytes ∧
      Hook.transform (fun _ => pure ()) "A" bytes annotatedHook = .ok (.rewritten out) h' ∧
      Hook.transform (fun _ => pure ()) "A" out h' = .ok (.rewritten again) h'' ∧
      h'.patched? "A" = some [⟨⟨"f", "()V"⟩, ⟨"A", "f", none⟩⟩] ∧
      h''.patched? "A" = some [⟨⟨"g", "()V"⟩, ⟨"A", "g", some "java/lang/Object"⟩⟩] := by
  have hdone : (match dangling.toBytes with
      | .ok bytes =>
        match Hook.transform (fun _ => pure ()) "A" bytes annotatedHook with
        | .ok (.rewritten out) h' =>
          match Hook.transform (fun _ => pure ()) "A" out h' with
          | .ok (.rewritten _) h'' =>
            decide (h'.patched? "A" = some [⟨⟨"f", "()V"⟩, ⟨"A", "f", none⟩⟩] ∧
              h''.patched? "A" = some [⟨⟨"g", "()V"⟩, ⟨"A", "g", some "java/lang/Object"⟩⟩])
          | _ => false
        | _ => false
      | .error _ => false) = true := by decide +kernel
  split at hdone
  · next bytes hbytes =>
    split at hdone
    · next out h' ht =>
      split at hdone
      · next again h'' ht' =>
        exact ⟨bytes, out, again, h', h'', hbytes, ht, ht', of_decide_eq_true hdone⟩
      · cases hdone
    · cases hdone
  · cases hdone

end Import

end ScriptProxy
