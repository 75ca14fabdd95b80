import ScriptProxy.Proofs.Outcome
import ScriptProxy.Proofs.Script.Lookup
import ScriptProxy.Script.Library

/-!
# What refers to nothing that is not there

A value refers to an object by its place, and `places` are the places that a value, a property or an
object refers to. A realm is `Whole` if all of them are there, those of captured scopes and accessors
included, and such a realm is `Closed`.

An evaluation is `Sound` if it leaves the realm whole and loses no object, and only gives, or throws,
what is there. An engine that calls functions and runs texts so (`Evaluator.Respects`) also reads and
writes properties so. The realm that a page begins with is whole: `whole_start`.
-/

namespace ScriptProxy

theorem OrderedMap.mem_entries_insert {κ α : Type} [DecidableEq κ] {m : OrderedMap κ α} {k : κ} {a : α}
    {e : κ × α} (h : e ∈ (m.insert k a).entries) : e ∈ m.entries ∨ e.2 = a := by
  obtain ⟨entries⟩ := m
  replace h : e ∈ put k a entries := h
  show e ∈ entries ∨ e.2 = a
  induction entries with
  | nil =>
    obtain rfl := List.mem_singleton.1 h
    exact .inr rfl
  | cons e' rest ih =>
    rw [put] at h
    split at h
    all_goals rcases List.mem_cons.1 h with rfl | h
    · exact .inr rfl
    · exact .inl (List.mem_cons_of_mem _ h)
    · exact .inl List.mem_cons_self
    · exact (ih h).imp_left (List.mem_cons_of_mem _)

theorem OrderedMap.mem_entries_of_get? {κ α : Type} [DecidableEq κ] {m : OrderedMap κ α} {k : κ} {a : α}
    (h : m.get? k = some a) : ∃ e ∈ m.entries, e.2 = a :=
  List.mem_map.1 (mem_values_of_get? h)

namespace Script

variable {α β : Type} {r r' r₁ : Realm} {o : Object} {p : Property} {v : Value} {name : String}
  {place : Nat}

/-! ### Places -/

/-- The places of the objects that a value refers to. -/
def Value.places : Value → List Nat
  | object place => [place]
  | _ => []

def Content.places : Content → List Nat
  | value v _ => v.places
  | accessor getter setter => getter.places ++ setter.places

def Property.places (p : Property) : List Nat := p.content.places

section Places

variable (v : Value)

@[simp] theorem Value.places_object (place : Nat) : (object place).places = [place] := rfl

@[simp] theorem Value.places_globals : globals.places = [Base.globals.place] := rfl

@[simp] theorem Value.places_ofNat (n : Nat) : (ofNat n).places = [] := rfl

@[simp] theorem Value.places_string (s : String) : (string s).places = [] := rfl

@[simp] theorem Property.places_ofValue : (ofValue v).places = v.places := rfl

@[simp] theorem Property.places_unlisted : (unlisted v).places = v.places := rfl

@[simp] theorem Property.places_constant : (constant v).places = v.places := rfl

@[simp] theorem Property.places_fixed : (fixed v).places = v.places := rfl

end Places

def Scope.places (s : Scope) : List Nat :=
  s.self.places ++ (s.arguments.getD []).flatMap Value.places ++ s.names.flatMap (·.2.places)

def Kind.places : Kind → List Nat
  | boxed v => v.places
  | cursor source _ _ => (source.map Value.places).getD []
  | closure f => f.scope.places
  | bound f self first => f.places ++ self.places ++ first.flatMap Value.places
  | _ => []

namespace Object

/-- The places that an object refers to. -/
def places (o : Object) : List Nat :=
  o.kind.places ++ o.behind.toList ++ o.elements.toList.flatMap Value.places ++
    o.properties.entries.flatMap (·.2.places)

theorem places_ofProperties (kind : Kind) (behind : Option Nat) (properties : List (String × Property)) :
    (ofProperties kind behind properties).places =
      kind.places ++ behind.toList ++ properties.flatMap (·.2.places) := by
  simp [places, ofProperties]

/-- No place is referred to but by the kind, the elements, and so on, of one of two objects, or by a
value. -/
theorem places_subset {o' : Object} {ps : List Nat} (hkind : o'.kind = o.kind)
    (hbehind : o'.behind = o.behind)
    (helements : ∀ v ∈ o'.elements, v ∈ o.elements ∨ v.places ⊆ ps)
    (hproperties : ∀ e ∈ o'.properties.entries, e ∈ o.properties.entries ∨ e.2.places ⊆ ps) :
    o'.places ⊆ o.places ++ ps := by
  intro place h
  simp only [places, hkind, hbehind, List.mem_append, List.mem_flatMap, Array.mem_toList_iff] at h ⊢
  rcases h with (h | ⟨v, hv, h⟩) | ⟨e, he, h⟩
  · exact .inl (.inl (.inl h))
  · rcases helements v hv with hv | hsub
    · exact .inl (.inl (.inr ⟨v, hv, h⟩))
    · exact .inr (hsub h)
  · rcases hproperties e he with he | hsub
    · exact .inl (.inr ⟨e, he, h⟩)
    · exact .inr (hsub h)

theorem places_replace (o : Object) (name : String) (p : Property) :
    (o.replace name p).places ⊆ o.places ++ p.places :=
  places_subset rfl rfl (fun _ => .inl) fun e he =>
    (OrderedMap.mem_entries_insert he).imp_right fun h : e.2 = p => h ▸ List.Subset.refl _

theorem places_setLength (o : Object) (n : Nat) : (o.setLength n).places ⊆ o.places := by
  unfold setLength
  split
  · intro place h
    simpa [Property.places, Content.places, Value.places, Value.ofNat] using places_replace o _ _ h
  · exact List.Subset.refl _

theorem places_assign (o : Object) (name : String) (v : Value) :
    (o.assign name v).places ⊆ o.places ++ v.places := by
  have hput : (assign.put name v o).places ⊆ o.places ++ v.places := by
    unfold assign.put
    split
    · exact places_replace o _ _
    · exact List.subset_append_left _ _
  unfold assign
  split
  · split
    · refine places_subset rfl rfl (fun w hw => ?_) fun _ => .inl
      rcases Array.mem_or_eq_of_mem_setIfInBounds hw with hw | rfl
      · exact .inl hw
      · exact .inr (List.Subset.refl _)
    · exact hput
  · exact hput

/-- The object may have another length before it is given the property. -/
theorem add_cases (o : Object) (name : String) (p : Property) :
    ∃ o₁ : Object, (o₁ = o ∨ ∃ n, o₁ = o.setLength n) ∧
      (o.add name p = o₁.replace name p ∨
        ∃ v, p = .ofValue v ∧ o.add name p = { o₁ with elements := o₁.elements.push v }) := by
  have hlength (i : Nat) : (if o.length ≤ i then o.setLength (i + 1) else o) = o ∨
      ∃ n, (if o.length ≤ i then o.setLength (i + 1) else o) = o.setLength n := by
    split
    · exact .inr ⟨_, rfl⟩
    · exact .inl rfl
  unfold add
  split
  · next i _ =>
    refine ⟨_, hlength i, ?_⟩
    generalize (if o.length ≤ i then o.setLength (i + 1) else o) = o₁
    dsimp only
    split
    · next v =>
      split
      · exact .inr ⟨v, rfl, rfl⟩
      · exact .inl rfl
    · exact .inl rfl
  · exact ⟨o, .inl rfl, .inl rfl⟩

theorem places_add (o : Object) (name : String) (p : Property) :
    (o.add name p).places ⊆ o.places ++ p.places := by
  obtain ⟨o₁, ho₁, hadd⟩ := add_cases o name p
  have hsub : o₁.places ⊆ o.places := by
    rcases ho₁ with rfl | ⟨n, rfl⟩
    · exact List.Subset.refl _
    · exact places_setLength o n
  have hadd : (o.add name p).places ⊆ o₁.places ++ p.places := by
    rcases hadd with h | ⟨v, rfl, h⟩
    · exact h ▸ places_replace o₁ name p
    · rw [h]
      refine places_subset rfl rfl (fun w hw => ?_) fun _ => .inl
      rcases Array.mem_push.1 hw with hw | rfl
      · exact .inl hw
      · exact .inr (List.Subset.refl _)
  exact fun place h => List.mem_append.2 ((List.mem_append.1 (hadd h)).imp_left fun h => hsub h)

theorem places_truncate (o : Object) (n : Nat) : (o.truncate n).places ⊆ o.places := by
  unfold truncate
  refine List.Subset.trans (places_setLength _ _) ?_
  rw [← List.append_nil o.places]
  refine places_subset rfl rfl (fun v hv => .inl ?_) fun e he => .inl (List.mem_filter.1 he).1
  obtain ⟨i, hi, rfl⟩ := Array.mem_iff_getElem.1 hv
  simp

theorem places_of_own? (h : o.own? name = some p) : p.places ⊆ o.places := by
  intro place hp
  rcases Option.or_eq_some_iff.1 h with h | ⟨-, h⟩
  · rcases indexed?_cases h with ⟨s, hs⟩ | ⟨w, hw, rfl⟩
    · rw [Property.places, hs] at hp
      cases hp
    · simp only [places, List.mem_append, List.mem_flatMap]
      exact .inl (.inr ⟨w, Array.mem_toList_iff.2 hw, hp⟩)
  · obtain ⟨e, he, rfl⟩ := OrderedMap.mem_entries_of_get? h
    simp only [places, List.mem_append, List.mem_flatMap]
    exact .inr ⟨e, he, hp⟩

end Object

/-! ### Whole realms -/

namespace Realm

/-- All the places are those of objects. -/
def Has (r : Realm) (ps : List Nat) : Prop := ∀ place ∈ ps, place < r.objects.size

/-- Whatever is referred to is there, and so are the objects that the engine refers to. -/
structure Whole (r : Realm) : Prop where
  base : ∀ b : Base, b.place < r.objects.size
  objects : ∀ place o, r.object? place = some o → r.Has o.places

/-- The realm is whole, and no object was lost since. -/
structure Grows (r r' : Realm) : Prop where
  whole : r'.Whole
  size_le : r.objects.size ≤ r'.objects.size

@[simp] theorem has_nil (r : Realm) : r.Has [] := by simp [Has]

@[simp] theorem has_append {ps qs : List Nat} : r.Has (ps ++ qs) ↔ r.Has ps ∧ r.Has qs := by
  simp only [Has, List.forall_mem_append]

@[simp] theorem has_cons {ps : List Nat} : r.Has (place :: ps) ↔ place < r.objects.size ∧ r.Has ps := by
  simp only [Has, List.forall_mem_cons]

theorem Has.subset {ps qs : List Nat} (h : r.Has qs) (hs : ps ⊆ qs) : r.Has ps :=
  fun place hp => h place (hs hp)

theorem Grows.has {ps : List Nat} (hg : r.Grows r') (h : r.Has ps) : r'.Has ps :=
  fun place hp => (h place hp).trans_le hg.size_le

theorem Grows.trans (hg : r.Grows r₁) (hg' : r₁.Grows r') : r.Grows r' :=
  ⟨hg'.whole, hg.size_le.trans hg'.size_le⟩

theorem Whole.refl (hr : r.Whole) : r.Grows r := ⟨hr, le_rfl⟩

theorem Whole.closed (hr : r.Whole) : r.Closed where
  base := hr.base
  behind := fun place o place' ho hb => hr.objects place o ho place' (by simp [Object.places, hb])
  own := fun place o name v ho hd => by
    rw [Object.data?_eq] at hd
    obtain ⟨p, hp, hv⟩ := Option.bind_eq_some_iff.1 hd
    have hplaces := (hr.objects place o ho).subset (Object.places_of_own? hp)
    cases v with
    | object place' =>
      obtain ⟨content, l, c⟩ := p
      cases content with
      | value w writable =>
        cases hv
        exact decide_eq_true (hplaces place' (by simp [Property.places, Content.places, Value.places]))
      | accessor getter setter => cases hv
    | _ => rfl

theorem Whole.add (hr : r.Whole) (ho : r.Has o.places) : r.Grows (r.add o).2 := by
  have hsize : r.objects.size ≤ (r.add o).2.objects.size := by simp [Realm.add]
  have grow {ps : List Nat} (h : r.Has ps) : (r.add o).2.Has ps :=
    fun place hp => (h place hp).trans_le hsize
  refine ⟨⟨fun b => (hr.base b).trans_le hsize, fun place o' ho' => ?_⟩, hsize⟩
  rw [object?_add] at ho'
  split at ho'
  · cases ho'
    exact grow ho
  · exact grow (hr.objects place o' ho')

theorem Whole.change {f : Object → Object} (hr : r.Whole)
    (hf : ∀ o, r.object? place = some o → r.Has (f o).places) : r.Grows (r.change place f) := by
  have hsize : (r.change place f).objects.size = r.objects.size := Array.size_modify
  have same {ps : List Nat} (h : r.Has ps) : (r.change place f).Has ps :=
    fun place hp => hsize ▸ h place hp
  refine ⟨⟨fun b => hsize ▸ hr.base b, fun place' o' ho' => ?_⟩, hsize.ge⟩
  rw [object?_change] at ho'
  split at ho'
  · next heq =>
    obtain ⟨o, ho, rfl⟩ := Option.map_eq_some_iff.1 ho'
    exact same (hf o (heq ▸ ho))
  · exact same (hr.objects place' o' ho')

theorem Whole.nearestFrom? (hr : r.Whole) {n : Nat} {place? : Option Nat}
    (h : r.nearestFrom? name n place? = some p) : r.Has p.places := by
  induction n generalizing place? with
  | zero => cases h
  | succ n ih =>
    cases place? with
    | none => cases h
    | some place =>
      cases ho : r.object? place with
      | none =>
        rw [nearestFrom?_of_none ho] at h
        cases h
      | some o =>
        rw [nearestFrom?_succ ho] at h
        rcases Option.or_eq_some_iff.1 h with h | ⟨-, h⟩
        · exact (hr.objects place o ho).subset (Object.places_of_own? h)
        · exact ih h

/-- What a property refers to is there, wherever it is found. -/
theorem Whole.nearest? (hr : r.Whole) (h : r.nearest? v name = some p) : r.Has p.places := by
  rcases Option.or_eq_some_iff.1 h with h | ⟨-, h⟩
  · cases v with
    | string s =>
      rw [own?] at h
      split at h
      · cases h
        exact r.has_nil
      · obtain ⟨i, -, h⟩ := Option.bind_eq_some_iff.1 h
        obtain ⟨u, -, rfl⟩ := Option.map_eq_some_iff.1 h
        exact r.has_nil
    | object place =>
      obtain ⟨o, ho, h⟩ := Option.bind_eq_some_iff.1 h
      exact (hr.objects place o ho).subset (Object.places_of_own? h)
    | _ => cases h
  · exact hr.nearestFrom? h

theorem Whole.objectOf? (hr : r.Whole) (ho : r.objectOf? v = some o) : r.Has o.places := by
  cases v with
  | object place => exact hr.objects place o ho
  | _ => cases ho

/-- Whether whatever is referred to is there. -/
def isWhole (r : Realm) : Bool :=
  decide (Base.place (.error .engine) < r.objects.size) &&
    r.objects.toList.all fun o => o.places.all (· < r.objects.size)

theorem whole_of_isWhole (h : r.isWhole = true) : r.Whole := by
  simp only [isWhole, Bool.and_eq_true, decide_eq_true_iff, List.all_eq_true] at h
  obtain ⟨hsize, hobjects⟩ := h
  refine ⟨fun b => lt_of_le_of_lt ?_ hsize, fun place o ho =>
    hobjects o (Array.mem_toList_iff.2 (Array.mem_of_getElem? ho))⟩
  rcases b with _ | _ | _ | _ | _ | _ | k | _
  case error => cases k <;> decide
  all_goals decide

/-! ### The realm that a page begins with -/

theorem Whole.equip (hr : r.Whole) (place : Nat) (name : String) (hp : r.Has p.places) :
    r.Grows (r.equip place name p) :=
  hr.change fun o ho =>
    (has_append.2 ⟨hr.objects place o ho, hp⟩).subset (o.places_replace name p)

/-- A step of building made the realm larger and gave a place in it. -/
def Built (r : Realm) (x : Nat × Realm) : Prop := r.Grows x.2 ∧ x.1 < x.2.objects.size

theorem Whole.built_add (hr : r.Whole) (ho : r.Has o.places) : r.Built (r.add o) :=
  ⟨hr.add ho, by simp [Realm.add]⟩

theorem Whole.provide (hr : r.Whole) (name : String) (f : Provided) :
    r.Grows (r.provide name f).2 ∧ (r.provide name f).2.Has (r.provide name f).1.places := by
  have hadd := hr.built_add (o := .ofProperties (.native f.native) (some Base.function.place)
    [("length", .constant (.ofNat f.arity)), ("name", .constant (.string name))]) (by
      rw [Object.places_ofProperties]
      simp [Kind.places, hr.base .function])
  exact ⟨hadd.1, by simpa [Realm.provide] using hadd.2⟩

theorem Whole.equipAll (hr : r.Whole) (place : Nat) (fs : List Provided) :
    r.Grows (r.equipAll place fs) := by
  unfold Realm.equipAll
  induction fs generalizing r with
  | nil => exact hr.refl
  | cons f fs ih =>
    obtain ⟨hg, hf⟩ := hr.provide f.name f
    have hg := hg.trans (hg.whole.equip place f.name
      (p := .unlisted (r.provide f.name f).1) hf)
    exact hg.trans (ih hg.whole)

theorem Whole.equipAccessor (hr : r.Whole) (name : String) (getter setter : Native) :
    r.Grows (r.equipAccessor place name getter setter) := by
  obtain ⟨hg₁, hgetter⟩ := hr.provide ("get " ++ name) ⟨name, 0, getter⟩
  obtain ⟨hg₂, hsetter⟩ := hg₁.whole.provide ("set " ++ name) ⟨name, 1, setter⟩
  exact (hg₁.trans hg₂).trans (hg₂.whole.equip _ _ (has_append.2 ⟨hg₂.has hgetter, hsetter⟩))

theorem Whole.construct {behind : Nat} (hr : r.Whole) (f : Provided) (hb : behind < r.objects.size) :
    r.Built (r.construct f behind) := by
  obtain ⟨hg, hv⟩ := hr.provide f.name f
  have hg₁ := hg.whole.equip r.objects.size "prototype"
    (p := .fixed (.object behind)) (by simpa using hb.trans_le hg.size_le)
  have hg₂ := hg₁.whole.equip behind "constructor"
    (p := .unlisted (r.provide f.name f).1) (hg₁.has hv)
  have hg₃ := hg₂.whole.equip Base.globals.place f.name
    (p := .unlisted (r.provide f.name f).1) (hg₂.has (hg₁.has hv))
  have hplace : r.objects.size < (r.provide f.name f).2.objects.size := by simp [Realm.provide, Realm.add]
  exact ⟨hg.trans (hg₁.trans (hg₂.trans hg₃)),
    hplace.trans_le (hg₁.trans (hg₂.trans hg₃)).size_le⟩

theorem Whole.define (hr : r.Whole) (name : String) : r.Built (r.define name []) := by
  have hadd := hr.built_add (o := .ofProperties (.library name) (some Base.object.place) []) (by
    rw [Object.places_ofProperties]
    simp [Kind.places, hr.base .object])
  have hg := hadd.1.whole.equip Base.globals.place name
    (p := .unlisted (.object (r.add (.ofProperties (.library name) (some Base.object.place) [])).1))
    (by simpa using hadd.2)
  exact ⟨hadd.1.trans hg, hadd.2.trans_le hg.size_le⟩

theorem Whole.foldl (hr : r.Whole) (step : Realm → α → Realm) (as : List α)
    (hstep : ∀ r₁, ∀ a ∈ as, r.Grows r₁ → r₁.Grows (step r₁ a)) : r.Grows (as.foldl step r) := by
  induction as generalizing r with
  | nil => exact hr.refl
  | cons a as ih =>
    have hg := hstep r a List.mem_cons_self hr.refl
    exact hg.trans (ih hg.whole fun r₁ b hb hg₁ => hstep r₁ b (List.mem_cons_of_mem _ hb) (hg.trans hg₁))

theorem Whole.withPrototype (hr : r.Whole) (hv : r.Has v.places) : r.Grows (r.withPrototype v) := by
  cases v with
  | object place =>
    have hadd := hr.built_add (o := .ofProperties .plain (some Base.object.place)
      [("constructor", .unlisted (.object place))]) (by
        rw [Object.places_ofProperties]
        simpa [Kind.places, hr.base .object] using hv)
    refine hadd.1.trans (hadd.1.whole.equip _ _ ?_)
    simp [Property.places, Content.places, Realm.add]
  | _ => exact hr.refl

theorem whole_bases : Whole ⟨bases, #[]⟩ := whole_of_isWhole (by decide)

theorem Whole.equipErrors (hr : r.Whole) : r.Grows r.equipErrors := by
  unfold Realm.equipErrors
  extract_lets named
  have built {r : Realm} (hr : r.Whole) (k : ErrorKind) (arity : Nat) : r.Built (named r k arity) := by
    obtain ⟨hg, hp⟩ := hr.construct ⟨k.name, arity, .constructor (.error k)⟩ (hr.base (.error k))
    have hg₁ := hg.whole.equip (Base.error k).place "name"
      (p := .unlisted (.string k.name)) (has_nil _)
    have hg₂ := hg₁.trans (hg₁.whole.equip (Base.error k).place "message"
      (p := .unlisted (.string "")) (has_nil _))
    exact ⟨hg.trans hg₂, hp.trans_le hg₂.size_le⟩
  split
  next general r₁ hx =>
  obtain ⟨hg, hgeneral⟩ : Built r (general, r₁) := hx ▸ built hr .general 1
  have hg₁ := hg.whole.equipAll (Base.error .general).place
    [⟨"toString", 0, .errorMethod .text⟩]
  refine hg.trans (hg₁.trans (hg₁.whole.foldl _ _ fun r₂ k _ hg₂ => ?_))
  obtain ⟨hg₃, -⟩ := built hg₂.whole k 1
  refine hg₃.trans (hg₃.whole.change fun o ho => ?_)
  have ho := hg₃.whole.objects _ o ho
  simp only [Object.places, has_append, Option.toList_some, has_cons, has_nil, and_true] at ho ⊢
  exact ⟨⟨⟨ho.1.1.1, hgeneral.trans_le (hg₁.trans (hg₂.trans hg₃)).size_le⟩, ho.1.2⟩, ho.2⟩

theorem Whole.equipOthers (hr : r.Whole) : r.Grows r.equipOthers :=
  hr.foldl _ _ fun r₁ a _ hg => by
    have hadd := hg.whole.built_add (o := .ofProperties (.library a.1) (some Base.object.place) []) (by
      rw [Object.places_ofProperties]
      simp [Kind.places, hg.whole.base .object])
    exact hadd.1.trans (hadd.1.whole.construct ⟨a.1, a.2, .constructor .other⟩ hadd.2).1

theorem whole_start (wanted : Bool) : (start wanted).Whole := by
  unfold start
  extract_lets r₀ globals
  have h : r₀.Whole := whole_bases
  split
  next place r₁ hx =>
  obtain ⟨hg, -⟩ : Built r₀ (place, r₁) := hx ▸ h.construct _ (h.base .object)
  extract_lets r₂ r₃ r₄
  have h : r₄.Whole :=
    ((hg.whole.equipAll _ _).whole.equipAll _ _).whole.equipAccessor _ _ _ |>.whole
  split
  next place r₅ hx =>
  obtain ⟨hg, -⟩ : Built r₄ (place, r₅) := hx ▸ h.construct _ (h.base .function)
  extract_lets r₆
  have h : r₆.Whole := (hg.whole.equipAll _ _).whole
  split
  next refusing r₇ hx =>
  have hgiven := h.provide "" ⟨"", 0, .functionMethod .refuse⟩
  rw [hx] at hgiven
  obtain ⟨hg, hrefusing⟩ := hgiven
  extract_lets r₈ r₉
  have h : r₉.Whole :=
    (hg.whole.foldl (fun r name =>
      r.equip Base.function.place name ⟨.accessor refusing refusing, false, true⟩)
      ["caller", "arguments"] fun r' _ _ hg' =>
        hg'.whole.equip _ _ (has_append.2 ⟨hg'.has hrefusing, hg'.has hrefusing⟩)).whole.equipErrors.whole
  split
  next place r₁₀ hx =>
  obtain ⟨hg, -⟩ : Built r₉ (place, r₁₀) := hx ▸ h.construct _ (h.base .array)
  extract_lets r₁₁ r₁₂ r₁₃ r₁₄
  have h : r₁₃.Whole := (((hg.whole.equipAll _ _).whole.equipAll _ _).whole.equipAll _ _).whole
  have h : r₁₄.Whole := by
    have hconstants : ∀ c ∈ Library.constants, c.2.places = [] := by decide
    refine (h.foldl _ _ fun r' c hc hg' => hg'.whole.equip _ _ ?_).whole
    rw [Property.places_fixed, hconstants c hc]
    exact has_nil r'
  split
  next place r₁₅ hx =>
  obtain ⟨hg, -⟩ : Built r₁₄ (place, r₁₅) := hx ▸ h.construct _ (h.base .number)
  extract_lets r₁₆
  have h : r₁₆.Whole := (hg.whole.equipAll _ _).whole
  split
  next place r₁₇ hx =>
  obtain ⟨hg, -⟩ : Built r₁₆ (place, r₁₇) := hx ▸ h.construct _ (h.base .bool)
  extract_lets r₁₈
  have h : r₁₈.Whole := (hg.whole.equipAll _ _).whole
  split
  next place r₁₉ hx =>
  obtain ⟨hg, -⟩ : Built r₁₈ (place, r₁₉) := hx ▸ h.construct _ (h.base .string)
  extract_lets r₂₀
  have h : r₂₀.Whole := (hg.whole.equipAll _ _).whole
  split
  next place r₂₁ hx =>
  obtain ⟨hg, -⟩ : Built r₂₀ (place, r₂₁) := hx ▸ h.define "Math"
  extract_lets r₂₂ r₂₃
  have h : r₂₃.Whole :=
    ((hg.whole.equipAll _ _).whole.foldl _ _ fun r' c _ hg' => hg'.whole.equip _ _ (has_nil _)).whole
  split
  next place r₂₄ hx =>
  obtain ⟨hg, -⟩ : Built r₂₃ (place, r₂₄) := hx ▸ h.define "Reflect"
  extract_lets r₂₅ r₂₆
  have h : r₂₆.Whole :=
    (hg.whole.equip _ _ (by simpa using hg.whole.base .globals)).whole.equipOthers.whole
  split
  next place r₂₇ hx =>
  obtain ⟨hg, -⟩ : Built r₂₆ (place, r₂₇) := hx ▸ h.define "JSON"
  extract_lets r₂₈
  have h : r₂₈.Whole := (hg.whole.equipAll _ _).whole
  split
  next place r₂₉ hx =>
  obtain ⟨hg, hconsole⟩ : Built r₂₈ (place, r₂₉) := hx ▸ h.built_add (by
    rw [Object.places_ofProperties]
    simp [Kind.places, h.base .object])
  extract_lets r₃₀
  have hg₁ : r₂₉.Grows r₃₀ := hg.whole.foldl _ _ fun r' f _ hg' => by
    obtain ⟨hg₁, hf⟩ := hg'.whole.provide "" f
    have hg₂ := hg₁.whole.withPrototype hf
    exact (hg₁.trans hg₂).trans (hg₂.whole.equip _ _ (hg₂.has hf))
  exact (hg₁.whole.equip _ _ (by simpa using hconsole.trans_le hg₁.size_le)).whole

end Realm

/-! ### Sound evaluations -/

/-- The evaluation leaves the realm whole and loses no object, and the places in what it gives or throws
are there. -/
def Sound (places : α → List Nat) (m : Evaluation α) (r : Realm) : Prop :=
  Outcome.Ends Realm.Grows (fun a r' => r'.Has (places a)) (fun v r' => r'.Has v.places) r (m r)

/-- The places in what has none. -/
def nowhere (_ : α) : List Nat := []

namespace Sound

variable {places : α → List Nat} {places' : β → List Nat} {m : Evaluation α} {f : α → Evaluation β}

theorem pure (hr : r.Whole) {a : α} (ha : r.Has (places a)) : Sound places (pure a) r := ⟨hr.refl, ha⟩

theorem throw (hr : r.Whole) (hv : r.Has v.places) : Sound places (throw v) r := ⟨hr.refl, hv⟩

theorem bind (hm : Sound places m r)
    (hf : ∀ a r', r.Grows r' → r'.Has (places a) → Sound places' (f a) r') :
    Sound places' (m >>= f) r := Outcome.Ends.bind (fun _ _ _ => .trans) hm hf

theorem get {f : Realm → Evaluation α} (h : Sound places (f r) r) : Sound places (get >>= f) r := h

/-- What is made of the value afterwards refers to no other place. -/
theorem map {g : α → β} (hm : Sound places m r) (hg : ∀ a, places' (g a) ⊆ places a) :
    Sound places' (g <$> m) r := by
  have h : Sound places' (m >>= fun a => Pure.pure (g a)) r := hm.bind fun a r' hr ha =>
    pure hr.whole (ha.subset (hg a))
  rwa [← map_eq_pure_bind] at h

theorem tryCatch {handler : Value → Evaluation α} (hm : Sound places m r)
    (hh : ∀ v r', r.Grows r' → r'.Has v.places → Sound places (handler v) r') :
    Sound places (tryCatch m handler) r := Outcome.Ends.tryCatch (fun _ _ _ => .trans) hm hh

end Sound

namespace Evaluation

theorem sound_add (hr : r.Whole) (ho : r.Has o.places) : Sound Value.places (add o) r :=
  ⟨hr.add ho, by simp [Value.places]⟩

theorem sound_change {target : Value} {f : Object → Object} (hr : r.Whole)
    (hf : ∀ o, r.objectOf? target = some o → r.Has (f o).places) :
    Sound nowhere (change target f) r := by
  cases target with
  | object place => exact ⟨hr.change hf, Realm.has_nil _⟩
  | _ => exact Sound.pure hr r.has_nil

theorem sound_makeObject (hr : r.Whole) {properties : List (String × Value)}
    (hp : r.Has (properties.flatMap (·.2.places))) : Sound Value.places (makeObject properties) r := by
  refine sound_add hr ?_
  rw [Object.places_ofProperties]
  simpa [Kind.places, List.flatMap_map, Property.places, Property.ofValue, Content.places,
    hr.base .object] using hp

theorem sound_makeArray (hr : r.Whole) {vs : List Value} (hv : r.Has (vs.flatMap Value.places)) :
    Sound Value.places (makeArray vs) r := by
  refine sound_add hr ?_
  simpa [Object.places, Object.ofElements, Object.lengthProperty, Kind.places, Property.places,
    Content.places, Value.places, Value.ofNat, hr.base .array] using hv

section Raise

variable {places : α → List Nat} (hr : r.Whole)
include hr

theorem sound_raise (kind : ErrorKind) (message : String) : Sound places (raise kind message) r := by
  refine Sound.bind (sound_add hr ?_) fun v r' hg hv => Sound.throw hg.whole hv
  rw [Object.places_ofProperties]
  simp [Kind.places, Property.places, Property.unlisted, Content.places, Value.places,
    hr.base (.error kind)]

theorem sound_raiseType (message : String) : Sound places (raiseType message) r :=
  sound_raise hr .type message

theorem sound_raiseConversion (v : Value) (wanted : String) :
    Sound places (raiseConversion v wanted) r := .get (sound_raiseType hr _)

end Raise

theorem sound_extend {target : Value} (hr : r.Whole) (hp : r.Has p.places) :
    Sound nowhere (extend target o name p) r := by
  unfold extend
  split
  · exact sound_raiseType hr _
  · split
    · exact sound_raiseType hr _
    · refine sound_change hr fun o' ho' => ?_
      exact (Realm.has_append.2 ⟨hr.objectOf? ho', hp⟩).subset (Object.places_add o' name p)

end Evaluation

/-! ### Reading and writing -/

/-- What an engine can be expected to do: calls and runs only refer to what is there. -/
structure Evaluator.Respects (e : Evaluator) : Prop where
  call : ∀ {r : Realm} {f self : Value} {vs : List Value}, r.Whole → r.Has f.places →
    r.Has self.places → r.Has (vs.flatMap Value.places) → Sound Value.places (e.call f self vs) r
  run : ∀ {r : Realm}, r.Whole → ∀ text, Sound Value.places (e.run text) r

/-- An engine without any stack respects what there is. -/
example : Evaluator.Respects ⟨fun _ _ _ => Evaluation.tooDeep, fun _ => Evaluation.tooDeep⟩ :=
  ⟨fun hr _ _ _ => Evaluation.sound_raise hr _ _, fun hr _ => Evaluation.sound_raise hr _ _⟩

namespace Evaluator

open Evaluation

variable {e : Evaluator} (he : e.Respects) (hr : r.Whole)
include he hr

theorem sound_contentOf (hv : r.Has v.places) (hp : r.Has p.places) :
    Sound Value.places (e.contentOf v p) r := by
  obtain ⟨content, l, c⟩ := p
  unfold contentOf
  split
  · next h =>
    cases h
    exact .pure hr hp
  · exact .pure hr r.has_nil
  · next h =>
    cases h
    exact he.call hr (Realm.has_append.1 hp).1 hv r.has_nil

theorem sound_read (hv : r.Has v.places) (name : String) : Sound Value.places (e.read v name) r := by
  unfold read
  split
  · exact sound_raiseType hr _
  · exact sound_raiseType hr _
  · refine .get ?_
    split
    · next hn => exact sound_contentOf he hr hv (hr.nearest? hn)
    · exact .pure hr r.has_nil

theorem sound_primitiveFrom (hv : r.Has v.places) (methods : List String) :
    Sound Value.places (e.primitiveFrom v methods) r := by
  induction methods generalizing r with
  | nil => exact sound_raiseType hr _
  | cons m ms ih =>
    refine (sound_read he hr hv m).bind fun f r₁ hg hf => ?_
    refine .get ?_
    split
    · exact ih hg.whole (hg.has hv)
    · refine (he.call hg.whole hf (hg.has hv) (by simp)).bind fun w r₂ hg₂ hw => ?_
      split
      · exact ih hg₂.whole (hg₂.has (hg.has hv))
      · exact .pure hg₂.whole hw

theorem sound_primitive (asText : Bool) (hv : r.Has v.places) :
    Sound Value.places (e.primitive asText v) r := by
  unfold primitive
  split
  · exact .pure hr hv
  · exact sound_primitiveFrom he hr hv _

theorem sound_text (hv : r.Has v.places) : Sound nowhere (e.text v) r :=
  (sound_primitive he hr true hv).map fun _ => List.nil_subset _

theorem sound_messageOf (hv : r.Has v.places) : Sound nowhere (e.messageOf v) r := by
  refine .get ?_
  split
  · refine .bind (show Sound nowhere _ r from .tryCatch ((sound_read he hr hv _).bind fun m r₁ hg hm => ?_)
      fun _ r₁ hg _ => ⟨hg.whole.refl, r₁.has_nil⟩) fun found r₁ hg _ => ?_
    · split
      · exact ⟨hg.whole.refl, r₁.has_nil⟩
      · exact (sound_text he hg.whole hm).bind fun _ r₂ hg _ => ⟨hg.whole.refl, r₂.has_nil⟩
    · cases found <;> exact .pure hg.whole r₁.has_nil
  · exact .pure hr r.has_nil

theorem sound_number (hv : r.Has v.places) : Sound nowhere (e.number v) r :=
  (sound_primitive he hr false hv).map fun _ => List.nil_subset _

theorem sound_integer (hv : r.Has v.places) : Sound nowhere (e.integer v) r :=
  (sound_number he hr hv).bind fun _ r' hg _ => .pure hg.whole r'.has_nil

theorem sound_lengthOf (hv : r.Has v.places) : Sound nowhere (e.lengthOf v) r :=
  (sound_read he hr hv _).bind fun _ _ hg hw => (sound_integer he hg.whole hw).bind fun _ r' hg' _ =>
    .pure hg'.whole r'.has_nil

theorem sound_element (hv : r.Has v.places) (i : Nat) : Sound Value.places (e.element v i) r := by
  refine .get ?_
  split
  · next w hw =>
    obtain ⟨o, ho, hw⟩ := Option.bind_eq_some_iff.1 hw
    refine .pure hr ((hr.objectOf? ho).subset fun place hp => ?_)
    simp only [Object.places, List.mem_append, List.mem_flatMap]
    exact .inl (.inr ⟨w, Array.mem_toList_iff.2 (Array.mem_of_getElem? hw), hp⟩)
  · exact sound_read he hr hv _

theorem sound_arrayLength (hv : r.Has v.places) : Sound nowhere (e.arrayLength v) r :=
  (sound_number he hr hv).bind fun _ r' hg _ => by
    dsimp only
    split
    · exact .pure hg.whole r'.has_nil
    · exact sound_raise hg.whole _ _

theorem sound_writeLength {target : Value} (hv : r.Has v.places) :
    Sound nowhere (e.writeLength target v) r := by
  refine (sound_arrayLength he hr hv).bind fun n r₁ hg _ => ?_
  refine (sound_change hg.whole fun o ho =>
    (hg.whole.objectOf? ho).subset (o.places_truncate n)).bind fun _ r₂ hg₂ _ => ?_
  refine .get ?_
  split
  · exact sound_raiseType hg₂.whole _
  · exact .pure hg₂.whole r₂.has_nil

theorem sound_write {target : Value} (ht : r.Has target.places) (hv : r.Has v.places) (name : String) :
    Sound nowhere (e.write target name v) r := by
  unfold write
  split
  · exact sound_raiseType hr _
  · exact sound_raiseType hr _
  · refine .get ?_
    split
    · exact sound_raiseType hr _
    · next hn =>
      have hp := Realm.has_append.1 (hr.nearest? hn)
      exact (he.call hr hp.2 ht (by simpa using hv)).bind fun _ r' hg _ => .pure hg.whole r'.has_nil
    · exact sound_raiseType hr _
    · refine .get ?_
      split
      · exact sound_raiseType hr _
      · next o ho =>
        split
        · exact sound_extend hr hv
        · split
          · exact sound_writeLength he hr hv
          · exact sound_change hr fun o' ho' =>
              (Realm.has_append.2 ⟨hr.objectOf? ho', hv⟩).subset (o'.places_assign name v)

end Evaluator

end Script
end ScriptProxy
