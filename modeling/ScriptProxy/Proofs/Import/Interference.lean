import Mathlib.Data.List.Forall2
import ScriptProxy.Proofs.Import.Findings

/-!
# What a scan does not look at

Of a class a scan reads the constant pool, the name, and the native methods: their names and
descriptors, and their attributes that are not bodies. `scan_noninterference`: two classes that are
`Alike` in this are scanned alike, and whatever the attributes of one native method are, well-formed or
not, what is found at all others is the same, in the same order.
-/

namespace ScriptProxy

namespace OrderedMap
variable {κ α : Type} [DecidableEq κ] {p : κ → Bool} {k : κ} (a : α) (l : List (κ × α))

theorem filter_put_of_pos (hk : p k = true) :
    (put k a l).filter (p ·.1) = put k a (l.filter (p ·.1)) := by
  induction l with
  | nil => simp [put, hk]
  | cons e l ih =>
    rw [put]
    split
    · next he => simp [he, hk, put]
    · next he => by_cases hp : p e.1 = true <;> simp [hp, ih, put, he]

theorem filter_put_of_neg (hk : p k = false) : (put k a l).filter (p ·.1) = l.filter (p ·.1) := by
  induction l with
  | nil => simp [put, hk]
  | cons e l ih =>
    rw [put]
    split
    · next he => simp [he, hk]
    · rw [List.filter_cons, List.filter_cons, ih]

end OrderedMap

namespace Import

open ClassFile Outcome

/-! ### What is read of a method -/

/-- Both methods are called the same, and both are native or neither is. -/
structure SameHead (m m' : Member) : Prop where
  name_eq : m'.name = m.name
  descriptor_eq : m'.descriptor = m.descriptor
  isNative_eq : m'.access.isNative = m.access.isNative

/-- The attributes of a method that are not bodies. -/
def otherAttributes (pool : Pool) (m : Member) : List Attribute :=
  m.attributes.filter (!·.isNamed pool Code.attributeName)

/-- Two methods that differ in bodies and flags only, or, if they are not native, in any attributes. -/
structure Alike (pool : Pool) (m m' : Member) : Prop extends SameHead m m' where
  attributes_eq : m.access.isNative = true → otherAttributes pool m' = otherAttributes pool m

section
variable {pool : Pool} {m m' : Member}

theorem eq_of_isNamed {a : Attribute} {name name' : String} (h : a.isNamed pool name = true)
    (h' : a.isNamed pool name' = true) : name = name' := by
  unfold Attribute.isNamed at h h'
  cases htext : pool.text a.name with
  | error f => simp [htext] at h
  | ok n =>
    rw [htext] at h h'
    exact (beq_iff_eq.1 h).symm.trans (beq_iff_eq.1 h')

theorem attribute?_eq_find?_otherAttributes {name : String} (hname : name ≠ Code.attributeName) :
    m.attribute? pool name = (otherAttributes pool m).find? (·.isNamed pool name) := by
  rw [otherAttributes, List.find?_filter, Member.attribute?]
  congr 1
  funext a
  cases h : a.isNamed pool name with
  | false => simp
  | true =>
    have hbody : a.isNamed pool Code.attributeName = false :=
      Bool.eq_false_iff.2 fun h' => hname (eq_of_isNamed h h')
    simp [hbody]

theorem findIn_congr {marker : String} {names : List String}
    (h : ∀ name ∈ names, m'.attribute? pool name = m.attribute? pool name) :
    findIn pool marker m' names = findIn pool marker m names := by
  induction names with
  | nil => rfl
  | cons name names ih =>
    rw [findIn, findIn, h name (by simp), ih fun n hn => h n (by simp [hn])]

/-- A search for an annotation passes over bodies. -/
theorem declaredBinding_congr {marker module name : String}
    (h : otherAttributes pool m' = otherAttributes pool m) :
    declaredBinding pool marker module name m' = declaredBinding pool marker module name m := by
  have hsearch : findIn pool marker m' searchedAttributes = findIn pool marker m searchedAttributes := by
    refine findIn_congr fun name hname => ?_
    have hne : name ≠ Code.attributeName := by
      rintro rfl
      exact absurd hname (by decide)
    rw [attribute?_eq_find?_otherAttributes hne, attribute?_eq_find?_otherAttributes hne, h]
  rw [declaredBinding, declaredBinding, hsearch]

end

/-! ### What is found at other methods -/

namespace Registry

/-- The part of a registry whose keys have a property, with an index of its own. -/
def restrict (r : Registry) (p : MethodKey → Bool) : Registry where
  entries := r.entries.filter (p ·.1)
  index := ⟨((r.entries.filter (p ·.1)).map (·.1)).zipIdx⟩
  agrees := ⟨r.agrees.nodup.sublist (List.filter_sublist.map _), rfl⟩

variable {r : Registry} {p : MethodKey → Bool} {key : MethodKey} (b : Binding)

theorem restrict_insert_of_pos (hp : p key = true) :
    (r.insert key b).restrict p = (r.restrict p).insert key b := by
  refine Registry.ext ?_
  rw [toOrderedMap_insert]
  exact (congrArg (·.entries.filter (p ·.1)) (r.toOrderedMap_insert key b)).trans
    (OrderedMap.filter_put_of_pos b r.entries hp)

theorem restrict_insert_of_neg (hp : p key = false) : (r.insert key b).restrict p = r.restrict p := by
  refine Registry.ext ?_
  exact (congrArg (·.entries.filter (p ·.1)) (r.toOrderedMap_insert key b)).trans
    (OrderedMap.filter_put_of_neg b r.entries hp)

end Registry

namespace Findings

/-- What is found at the methods that do not have the key. -/
def elsewhere (key? : Option MethodKey) (found : Findings) : Findings where
  registry := found.registry.restrict (some · ≠ key?)
  diagnostics := found.diagnostics.filter (some ·.method ≠ key?)

theorem elsewhere_none (found : Findings) : found.elsewhere none = found := by
  have hregistry : found.registry.restrict (some · ≠ none) = found.registry :=
    Registry.ext (by simp [Registry.restrict])
  simp only [elsewhere, hregistry]
  simp

/-- Takes note of what the method with a key declares. -/
def note (className : String) (key : MethodKey) (found : Findings) :
    Except Problem (Option Binding) → Findings
  | .ok (some b) => { found with registry := found.registry.insert key b }
  | .ok none => found
  | .error problem => { found with diagnostics := found.diagnostics ++ [⟨className, key, problem⟩] }

variable {className : String} {key : MethodKey} {key? : Option MethodKey} {found : Findings}

theorem elsewhere_note_of_eq (h : some key = key?) (x : Except Problem (Option Binding)) :
    (found.note className key x).elsewhere key? = found.elsewhere key? := by
  rcases x with problem | _ | b
  · simp [note, elsewhere, h]
  · rfl
  · have hrestrict := Registry.restrict_insert_of_neg (r := found.registry) (p := (some · ≠ key?)) b
      (by simpa using h)
    simp only [note, elsewhere, hrestrict]

theorem elsewhere_note_of_ne (h : some key ≠ key?) (x : Except Problem (Option Binding)) :
    (found.note className key x).elsewhere key? = (found.elsewhere key?).note className key x := by
  rcases x with problem | _ | b
  · simp [note, elsewhere, h]
  · rfl
  · have hrestrict := Registry.restrict_insert_of_pos (r := found.registry) (p := (some · ≠ key?)) b
      (by simpa using h)
    simp only [note, elsewhere, hrestrict]

end Findings

/-! ### Two scans -/

section
variable {c c' : ClassFile} {className marker : String} {found found' : Findings}
  {key? : Option MethodKey}

theorem scanMethod_eq (m : Member) : scanMethod c className marker found m =
    (do
      let key : MethodKey := ⟨← c.pool.text m.name, ← c.pool.text m.descriptor⟩
      return found.note className key
        (declaredBinding c.pool marker (simpleNameOf className) key.name m)) := by
  unfold scanMethod ClassFile.methodName ClassFile.methodDescriptor
  cases c.pool.text m.name with
  | error f => rfl
  | ok name =>
    cases c.pool.text m.descriptor with
    | error f => rfl
    | ok descriptor =>
      dsimp only [bind, Except.bind]
      rcases declaredBinding c.pool marker (simpleNameOf className) name m with problem | _ | b <;> rfl

theorem foldlM_congr {ε σ τ α : Type} {R : α → α → Prop} {f f' : σ → α → Except ε σ} {g : σ → τ}
    (hstep : ∀ s s' a a', R a a' → g s' = g s → (f' s' a').map g = (f s a).map g) {l l' : List α}
    (hl : List.Forall₂ R l l') {s s' : σ} (hs : g s' = g s) :
    (l'.foldlM f' s').map g = (l.foldlM f s).map g := by
  induction hl generalizing s s' with
  | nil => exact congrArg Except.ok hs
  | @cons a a' l l' ha hl ih =>
    rw [List.foldlM_cons, List.foldlM_cons]
    have h := hstep s s' a a' ha hs
    cases hf : f s a with
    | error e =>
      cases hf' : f' s' a' with
      | error e' =>
        rw [hf, hf'] at h
        exact h
      | ok t' =>
        rw [hf, hf'] at h
        cases h
    | ok t =>
      cases hf' : f' s' a' with
      | error e' =>
        rw [hf, hf'] at h
        cases h
      | ok t' =>
        rw [hf, hf'] at h
        exact ih (Except.ok.inj h)

theorem forall₂_filter {α : Type} {R : α → α → Prop} {p : α → Bool}
    (h : ∀ a a', R a a' → p a' = p a) {l l' : List α} (hl : List.Forall₂ R l l') :
    List.Forall₂ (fun a a' => R a a' ∧ p a = true) (l.filter p) (l'.filter p) := by
  induction hl with
  | nil => exact .nil
  | @cons a a' l l' ha hl ih =>
    rw [List.filter_cons, List.filter_cons, h a a' ha]
    split
    · next hp => exact .cons ⟨ha, hp⟩ ih
    · exact ih

/-- What is read of two methods is the same, up to the attributes if they have the key. -/
structure AlikeUnless (c : ClassFile) (key? : Option MethodKey) (m m' : Member) : Prop
    extends SameHead m m' where
  attributes_eq : m.access.isNative = true → keyOf? c m ≠ key? →
    otherAttributes c.pool m' = otherAttributes c.pool m

theorem Alike.alikeUnless {m m' : Member} (h : Alike c.pool m m') : AlikeUnless c key? m m' :=
  ⟨h.toSameHead, fun hnative _ => h.attributes_eq hnative⟩

theorem map_scanMethod_eq (hpool : c'.pool = c.pool) {m m' : Member} (h : AlikeUnless c key? m m')
    (hnative : m.access.isNative = true) (hfound : found'.elsewhere key? = found.elsewhere key?) :
    (scanMethod c' className marker found' m').map (·.elsewhere key?) =
      (scanMethod c className marker found m).map (·.elsewhere key?) := by
  rw [scanMethod_eq, scanMethod_eq, hpool, h.name_eq, h.descriptor_eq]
  cases hn : c.pool.text m.name with
  | error f => rfl
  | ok name =>
    cases hd : c.pool.text m.descriptor with
    | error f => rfl
    | ok descriptor =>
      have hkey : keyOf? c m = some ⟨name, descriptor⟩ := keyOf?_eq_some.2 ⟨hn, hd⟩
      refine congrArg Except.ok ?_
      dsimp only
      -- what is found at the exempt key does not count, and elsewhere both find the same
      by_cases ho : some ⟨name, descriptor⟩ = key?
      · rw [Findings.elsewhere_note_of_eq ho, Findings.elsewhere_note_of_eq ho, hfound]
      · rw [Findings.elsewhere_note_of_ne ho, Findings.elsewhere_note_of_ne ho, hfound,
          declaredBinding_congr (h.attributes_eq hnative (by rwa [hkey]))]

theorem map_scan_eq (hpool : c'.pool = c.pool) (hname : c'.className = c.className) (marker : String)
    (hms : List.Forall₂ (AlikeUnless c key?) c.methods c'.methods) :
    (scan c' marker).map (·.elsewhere key?) = (scan c marker).map (·.elsewhere key?) := by
  have hnatives := forall₂_filter (fun _ _ hm => hm.isNative_eq) hms
  unfold scan
  rw [hname]
  cases c.className with
  | error f => rfl
  | ok className =>
    exact foldlM_congr (fun _ _ _ _ h hfound => map_scanMethod_eq hpool h.1 h.2 hfound) hnatives rfl

/-- Two classes that have the constant pool, the name and the methods in common, up to what no scan
looks at, are scanned alike. If besides the attributes of one native method differ, what is found
elsewhere is the same, which is at all other methods if no two native ones have the same name and
descriptor. -/
theorem scan_noninterference (hpool : c'.pool = c.pool) (hname : c'.className = c.className)
    (marker : String) :
    (List.Forall₂ (Alike c.pool) c.methods c'.methods → scan c' marker = scan c marker) ∧
      ∀ before m after before' m' after', c.methods = before ++ m :: after →
        c'.methods = before' ++ m' :: after' → List.Forall₂ (Alike c.pool) before before' →
        SameHead m m' → List.Forall₂ (Alike c.pool) after after' →
        (scan c' marker).map (·.elsewhere (keyOf? c m)) =
          (scan c marker).map (·.elsewhere (keyOf? c m)) := by
  constructor
  · intro hms
    have hunless : List.Forall₂ (AlikeUnless c none) c.methods c'.methods :=
      hms.imp fun _ _ hm => hm.alikeUnless
    have h := map_scan_eq hpool hname marker hunless
    have hnone : (fun found : Findings => found.elsewhere none) = id := funext Findings.elsewhere_none
    rwa [hnone, Except.map_id] at h
  · intro before m after before' m' after' hc hc' hbefore hm hafter
    refine map_scan_eq hpool hname marker ?_
    rw [hc, hc']
    exact List.rel_append (hbefore.imp fun _ _ h => h.alikeUnless)
      (.cons ⟨hm, fun _ hne => absurd rfl hne⟩ (hafter.imp fun _ _ h => h.alikeUnless))

end

open Text.ModifiedUtf8 (encode) in
/-- A class of two native methods with the given attributes, of which names 6 and 8 are those of
annotations and of bodies, and a method with a body and the given flags. -/
def paired (access : UInt16) (attributes attributes' bodies : List Attribute) : ClassFile where
  minor := 0
  major := 52
  pool := ⟨#[none, some (.utf8 (encode "A")), some (.classRef 1), some (.utf8 (encode "LImport;")),
    some (.utf8 (encode "f")), some (.utf8 (encode "()V")),
    some (.utf8 (encode "RuntimeInvisibleAnnotations")), some (.utf8 (encode "g")),
    some (.utf8 (encode "Code"))]⟩
  access := ⟨access⟩
  thisClass := 2
  superClass := 0
  interfaces := []
  fields := []
  methods := [⟨⟨0x0109⟩, 4, 5, attributes⟩, ⟨⟨0x0100⟩, 7, 5, attributes'⟩, ⟨⟨access⟩, 7, 5, bodies⟩]
  attributes := bodies

/-- The first method is annotated. Bodies are put in, and then the annotations of the second method are
made unreadable, which is reported. -/
theorem scan_noninterference_paired :
    let marked : Attribute := ⟨6, [0, 1, 0, 3, 0, 0]⟩
    let c := paired 0x0001 [marked] [] [marked]
    let bodied := paired 0x0021 [⟨8, [0]⟩, marked, ⟨8, []⟩] [⟨8, []⟩] []
    let broken := paired 0x0021 [⟨8, [0]⟩, marked, ⟨8, []⟩] [⟨6, [0]⟩] []
    scan bodied "LImport;" = scan c "LImport;" ∧
      (scan broken "LImport;").map (·.elsewhere (some ⟨"g", "()V"⟩)) =
        (scan c "LImport;").map (·.elsewhere (some ⟨"g", "()V"⟩)) ∧
      (scan broken "LImport;").toOption.map Findings.reported = some [⟨"g", "()V"⟩] ∧
      (scan c "LImport;").toOption.map (·.registry.keys) = some [⟨"f", "()V"⟩] := by
  intro marked c bodied broken
  have hkey : keyOf? c ⟨⟨0x0100⟩, 7, 5, []⟩ = some ⟨"g", "()V"⟩ := by decide +kernel
  have hfirst : Alike c.pool ⟨⟨0x0109⟩, 4, 5, [marked]⟩
      ⟨⟨0x0109⟩, 4, 5, [⟨8, [0]⟩, marked, ⟨8, []⟩]⟩ := ⟨⟨rfl, rfl, rfl⟩, fun _ => by decide +kernel⟩
  have hsecond : Alike c.pool ⟨⟨0x0100⟩, 7, 5, []⟩ ⟨⟨0x0100⟩, 7, 5, [⟨8, []⟩]⟩ :=
    ⟨⟨rfl, rfl, rfl⟩, fun _ => by decide +kernel⟩
  have hthird : Alike c.pool ⟨⟨0x0001⟩, 7, 5, [marked]⟩ ⟨⟨0x0021⟩, 7, 5, []⟩ :=
    ⟨⟨rfl, rfl, by decide⟩, fun h => absurd h (by decide)⟩
  refine ⟨(scan_noninterference (show bodied.pool = c.pool from rfl) rfl _).1
    (.cons hfirst (.cons hsecond (.cons hthird .nil))), ?_, by decide +kernel, by decide +kernel⟩
  rw [← hkey]
  exact (scan_noninterference (show broken.pool = c.pool from rfl) rfl _).2 [_] _ [_] [_] _ [_] rfl rfl
    (.cons hfirst .nil) ⟨rfl, rfl, rfl⟩ (.cons hthird .nil)

end Import

end ScriptProxy
