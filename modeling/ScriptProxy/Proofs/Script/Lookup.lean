import Mathlib.Data.Finset.Card
import Mathlib.Order.Monotone.Basic
import ScriptProxy.Proofs.Script.Property

/-!
# Where properties are found

A property is looked for in an object and in those behind it, through as many objects as there are.
That is far enough, even if the objects stand behind each other in a circle: `nearest?_object`. So
what is found in an object that has no property of the name is what is found in the one behind it,
and no number of steps is left in `nearest?_eq`.

`value?` is what is read of an object where no accessor is in the way. It depends on what stands
behind the objects and on their properties of one name (`Alike.value?`). Where one object has been
`Given` a property, only what was read from this property has changed (`Given.value?_cases`), and an
object that is no array is given a property by `write`, unless an error is thrown (`write_cases`).
-/

namespace ScriptProxy

theorem OrderedMap.mem_values_of_get? {κ α : Type} [DecidableEq κ] {m : OrderedMap κ α} {k : κ} {a : α}
    (h : m.get? k = some a) : a ∈ m.values := by
  obtain ⟨entries⟩ := m
  show a ∈ entries.map (·.2)
  replace h : lookup k entries = some a := h
  induction entries with
  | nil => cases h
  | cons e rest ih =>
    obtain ⟨k', b⟩ := e
    rw [lookup] at h
    split at h
    · cases h
      exact List.mem_cons_self
    · exact List.mem_cons_of_mem _ (ih h)

namespace Script

variable {r r' : Realm} {place : Nat} {name : String} {v : Value} {o : Object} {p : Property}

namespace Realm

/-! ### The length of the way -/

theorem nearestFrom?_none (r : Realm) (name : String) (n : Nat) :
    r.nearestFrom? name n none = none := by
  cases n <;> rfl

theorem nearestFrom?_succ (ho : r.object? place = some o) (n : Nat) :
    r.nearestFrom? name (n + 1) (some place) =
      (o.own? name).or (r.nearestFrom? name n o.behind) := by
  simp only [nearestFrom?, ho]

theorem nearestFrom?_of_none (ho : r.object? place = none) (n : Nat) :
    r.nearestFrom? name n (some place) = none := by
  cases n with
  | zero => rfl
  | succ n => simp only [nearestFrom?, ho]

theorem nearestFrom?_mono {n m : Nat} (hnm : n ≤ m) {place? : Option Nat}
    (h : r.nearestFrom? name n place? = some p) : r.nearestFrom? name m place? = some p := by
  induction n generalizing m place? with
  | zero => cases h
  | succ n ih =>
    obtain ⟨m, rfl⟩ : ∃ k, m = k + 1 := ⟨m - 1, by omega⟩
    cases place? with
    | none => cases h
    | some place =>
      cases ho : r.object? place with
      | none =>
        rw [nearestFrom?_of_none ho] at h
        cases h
      | some o =>
        rw [nearestFrom?_succ ho] at h ⊢
        cases hp : o.own? name with
        | some q => rwa [hp] at h
        | none =>
          rw [hp] at h
          exact ih (by omega) h

/-- The places from which a property of the name is found in some number of steps. -/
def reaching (r : Realm) (name : String) (n : Nat) : Finset Nat :=
  (Finset.range r.objects.size).filter fun place => (r.nearestFrom? name n (some place)).isSome

theorem mem_reaching {n : Nat} :
    place ∈ r.reaching name n ↔ ∃ p, r.nearestFrom? name n (some place) = some p := by
  unfold reaching
  rw [Finset.mem_filter, Finset.mem_range, Option.isSome_iff_exists]
  refine ⟨And.right, fun h => ⟨?_, h⟩⟩
  cases ho : r.object? place with
  | some o => exact (Array.getElem?_eq_some_iff.1 ho).1
  | none =>
    rw [nearestFrom?_of_none ho] at h
    obtain ⟨p, ⟨⟩⟩ := h

theorem reaching_mono (r : Realm) (name : String) : Monotone (r.reaching name) := by
  intro n m hnm place h
  obtain ⟨p, hp⟩ := mem_reaching.1 h
  exact mem_reaching.2 ⟨p, nearestFrom?_mono hnm hp⟩

/-- Whether a step more leads anywhere is a matter of whether the step before it did. -/
theorem reaching_stable {n : Nat} (h : r.reaching name n = r.reaching name (n + 1)) :
    r.reaching name (n + 1) = r.reaching name (n + 2) := by
  refine (reaching_mono r name (by omega)).antisymm fun place hplace => ?_
  obtain ⟨p, hp⟩ := mem_reaching.1 hplace
  refine mem_reaching.2 ?_
  cases ho : r.object? place with
  | none =>
    rw [nearestFrom?_of_none ho] at hp
    cases hp
  | some o =>
    rw [nearestFrom?_succ ho] at hp ⊢
    cases hown : o.own? name with
    | some q => exact ⟨q, rfl⟩
    | none =>
      rw [hown] at hp
      cases hb : o.behind with
      | none =>
        rw [hb, Option.none_or, nearestFrom?_none] at hp
        cases hp
      | some place' =>
        rw [hb] at hp
        exact mem_reaching.1 (h ▸ mem_reaching.2 ⟨p, hp⟩ : place' ∈ r.reaching name n)

/-- As many steps as there are objects lead as far as any number of steps. -/
theorem nearestFrom?_of_size_le {n : Nat} (hn : r.objects.size ≤ n) (place? : Option Nat) :
    r.nearestFrom? name n place? = r.nearestFrom? name r.objects.size place? := by
  -- the sets grow, and one that does not grow never grows again
  have hcard : (r.reaching name n).card = (r.reaching name r.objects.size).card := by
    refine Nat.stabilises_of_monotone (f := fun n => (r.reaching name n).card)
      (fun n m hnm => Finset.card_le_card (reaching_mono r name hnm)) (fun n => ?_)
      (fun n h => ?_) hn
    · exact (Finset.card_filter_le _ _).trans (Finset.card_range _).le
    · exact congrArg Finset.card
        (reaching_stable (Finset.eq_of_subset_of_card_le (reaching_mono r name (by omega)) h.ge))
  have heq := Finset.eq_of_subset_of_card_le (reaching_mono r name hn) hcard.le
  -- more steps find the same property if they find one, and here they find none that fewer do not
  cases place? with
  | none => rw [nearestFrom?_none, nearestFrom?_none]
  | some place =>
    cases h : r.nearestFrom? name n (some place) with
    | some p =>
      obtain ⟨q, hq⟩ := mem_reaching.1 (heq ▸ mem_reaching.2 ⟨p, h⟩)
      rw [← h, hq, nearestFrom?_mono hn hq]
    | none =>
      cases hs : r.nearestFrom? name r.objects.size (some place) with
      | none => rfl
      | some q =>
        rw [nearestFrom?_mono hn hs] at h
        cases h

theorem nearest?_object (r : Realm) (place : Nat) (name : String) {n : Nat}
    (hn : r.objects.size ≤ n) :
    r.nearest? (.object place) name = r.nearestFrom? name n (some place) := by
  rw [nearestFrom?_of_size_le hn, ← nearestFrom?_of_size_le (Nat.le_succ _)]
  simp only [nearest?, own?, behind?]
  cases ho : r.object? place with
  | none => rw [nearestFrom?_of_none ho, Option.bind_none, Option.none_or, Option.bind_none,
      nearestFrom?_none]
  | some o => rw [nearestFrom?_succ ho, Option.bind_some, Option.bind_some]

/-- A property that an object does not have itself is that of the object behind it. -/
theorem nearest?_eq (ho : r.object? place = some o) (name : String) :
    r.nearest? (.object place) name =
      (o.own? name).or (o.behind.bind fun place => r.nearest? (.object place) name) := by
  rw [nearest?_object r place name (Nat.le_succ _), nearestFrom?_succ ho]
  cases o.behind with
  | none => rw [nearestFrom?_none]; rfl
  | some place' => rw [Option.bind_some, nearest?_object r place' name le_rfl]

end Realm

/-! ### What is read -/

/-- The value of a property that is no accessor. -/
def Property.value? (p : Property) : Option Value :=
  match p.content with
  | .value v _ => some v
  | .accessor _ _ => none

theorem Object.data?_eq (o : Object) (name : String) :
    o.data? name = (o.own? name).bind Property.value? := by
  unfold data?
  cases o.own? name with
  | none => rfl
  | some p =>
    obtain ⟨content, l, c⟩ := p
    cases content <;> rfl

/-- What an object has under a number is a piece of a text, or an element. -/
theorem Object.indexed?_cases (hp : o.indexed? name = some p) :
    (∃ s, p.content = .value (.string s) false) ∨ ∃ w ∈ o.elements, p = .ofValue w := by
  unfold indexed? at hp
  split at hp
  · obtain ⟨i, -, hu⟩ := Option.bind_eq_some_iff.1 hp
    obtain ⟨u, -, rfl⟩ := Option.map_eq_some_iff.1 hu
    exact .inl ⟨_, rfl⟩
  · split at hp
    · cases hp
    · obtain ⟨i, -, hi⟩ := Option.bind_eq_some_iff.1 hp
      obtain ⟨w, hw, rfl⟩ := Option.map_eq_some_iff.1 hi
      exact .inr ⟨w, Array.mem_of_getElem? hw, rfl⟩

namespace Realm

/-- What is read of the object at a place, unless an accessor is called for it. -/
def value? (r : Realm) (place : Nat) (name : String) : Option Value :=
  match r.nearest? (.object place) name with
  | some p => p.value?
  | none => some .undefined

theorem value?_of_data (ho : r.object? place = some o) (hd : o.data? name = some v) :
    r.value? place name = some v := by
  rw [Object.data?_eq] at hd
  obtain ⟨p, hp, hv⟩ := Option.bind_eq_some_iff.1 hd
  rw [value?, nearest?_eq ho, hp, Option.some_or]
  exact hv

theorem value?_of_behind {place' : Nat} (ho : r.object? place = some o) (hp : o.own? name = none)
    (hb : o.behind = some place') : r.value? place name = r.value? place' name := by
  rw [value?, nearest?_eq ho, hp, hb, Option.none_or, Option.bind_some, value?]

/-- Whether a value is there: an object has to be one of the realm. -/
def holds (r : Realm) : Value → Bool
  | .object place => place < r.objects.size
  | _ => true

/-- Whatever an object refers to is there, and so are the objects that the engine refers to. -/
structure Closed (r : Realm) : Prop where
  base : ∀ b : Base, b.place < r.objects.size
  behind : ∀ place o place', r.object? place = some o → o.behind = some place' →
    place' < r.objects.size
  own : ∀ place o name v, r.object? place = some o → o.data? name = some v → r.holds v = true

/-- Whether all objects that are referred to are there. -/
def isClosed (r : Realm) : Bool :=
  decide (Base.place (.error .engine) < r.objects.size) &&
    r.objects.toList.all fun o => o.behind.all (· < r.objects.size) &&
      o.elements.toList.all r.holds && o.properties.values.all (·.value?.all r.holds)

theorem closed_of_isClosed (h : r.isClosed = true) : r.Closed := by
  simp only [isClosed, Bool.and_eq_true, decide_eq_true_iff, List.all_eq_true] at h
  obtain ⟨hsize, hobjects⟩ := h
  have objects {place : Nat} {o : Object} (ho : r.object? place = some o) :=
    hobjects o (Array.mem_toList_iff.2 (Array.mem_of_getElem? ho))
  refine ⟨fun b => lt_of_le_of_lt ?_ hsize, fun place o place' ho hb => ?_,
    fun place o name v ho hd => ?_⟩
  · rcases b with _ | _ | _ | _ | _ | _ | k | _
    case error => cases k <;> decide
    all_goals decide
  · have := (objects ho).1.1
    rw [hb] at this
    exact of_decide_eq_true this
  · obtain ⟨⟨-, helements⟩, hproperties⟩ := objects ho
    rw [Object.data?_eq] at hd
    obtain ⟨p, hp, hv⟩ := Option.bind_eq_some_iff.1 hd
    rcases Option.or_eq_some_iff.1 hp with hi | ⟨-, hget⟩
    · rcases Object.indexed?_cases hi with ⟨s, hs⟩ | ⟨w, hw, rfl⟩
      · rw [Property.value?, hs] at hv
        cases hv
        rfl
      · cases hv
        exact helements v (Array.mem_toList_iff.2 hw)
    · have := hproperties p (OrderedMap.mem_values_of_get? hget)
      rwa [hv] at this

theorem exists_object? (h : place < r.objects.size) : ∃ o, r.object? place = some o :=
  ⟨_, Array.getElem?_eq_getElem h⟩

theorem lt_size (ho : r.object? place = some o) : place < r.objects.size :=
  (Array.getElem?_eq_some_iff.1 ho).1

theorem Closed.holds_of_value? (hc : r.Closed) (hp : place < r.objects.size)
    (h : r.value? place name = some v) : r.holds v = true := by
  have step (n : Nat) : ∀ place < r.objects.size, ∀ p,
      r.nearestFrom? name n (some place) = some p → ∀ v, p.value? = some v → r.holds v = true := by
    induction n with
    | zero => nofun
    | succ n ih =>
      intro place hp p h v hv
      obtain ⟨o, ho⟩ := exists_object? hp
      rw [nearestFrom?_succ ho] at h
      cases hown : o.own? name with
      | some q =>
        rw [hown] at h
        cases h
        exact hc.own place o name v ho (by rw [Object.data?_eq, hown]; exact hv)
      | none =>
        rw [hown, Option.none_or] at h
        cases hb : o.behind with
        | none =>
          rw [hb, nearestFrom?_none] at h
          cases h
        | some place' => exact ih place' (hc.behind place o place' ho hb) p (hb ▸ h) v hv
  unfold value? at h
  rw [nearest?_object r place name le_rfl] at h
  split at h
  · next p hn => exact step _ place hp p hn v h
  · cases h
    rfl

/-! ### Realms that are alike -/

/-- Every object is there afterwards, of the same kind, with the same object behind it and the same
properties of some names. -/
def Alike (names : String → Prop) (r r' : Realm) : Prop :=
  ∀ place o, r.object? place = some o → ∃ o', r'.object? place = some o' ∧ o'.kind = o.kind ∧
    o'.behind = o.behind ∧ ∀ name, names name → o'.own? name = o.own? name

theorem Keeps.alike (hk : r.Keeps r') : Alike (fun _ => True) r r' :=
  fun place o ho => ⟨o, hk place o ho, rfl, rfl, fun _ _ => rfl⟩

namespace Alike

variable {names : String → Prop} (h : Alike names r r')
include h

theorem size_le : r.objects.size ≤ r'.objects.size := by
  by_contra hlt
  obtain ⟨o, ho⟩ := exists_object? (Nat.lt_of_not_le hlt)
  obtain ⟨o', ho', -⟩ := h _ o ho
  exact absurd (lt_size ho') (Nat.lt_irrefl _)

theorem isFunction (hv : r.holds v = true) : r'.isFunction v = r.isFunction v := by
  cases v with
  | object place =>
    obtain ⟨o, ho⟩ := exists_object? (of_decide_eq_true hv)
    obtain ⟨o', ho', hkind, -⟩ := h place o ho
    simp only [Realm.isFunction, kind?, objectOf?, ho, ho', Option.map_some, hkind]
  | _ => rfl

theorem value? (hc : r.Closed) (hp : place < r.objects.size) (hn : names name) :
    r'.value? place name = r.value? place name := by
  have step (n : Nat) : ∀ place < r.objects.size,
      r'.nearestFrom? name n (some place) = r.nearestFrom? name n (some place) := by
    induction n with
    | zero => exact fun _ _ => rfl
    | succ n ih =>
      intro place hp
      obtain ⟨o, ho⟩ := exists_object? hp
      obtain ⟨o', ho', -, hb', hown⟩ := h place o ho
      rw [nearestFrom?_succ ho, nearestFrom?_succ ho', hown name hn, hb']
      cases hb : o.behind with
      | none => rw [nearestFrom?_none, nearestFrom?_none]
      | some place' => rw [ih place' (hc.behind place o place' ho hb)]
  rw [Realm.value?, Realm.value?, nearest?_object r place name h.size_le,
    nearest?_object r' place name le_rfl, step _ place hp]

end Alike

/-! ### An object that has been given a property -/

/-- The object at a place has been given a value for a property. Nothing else has changed. There may
be new objects. -/
structure Given (r r' : Realm) (place : Nat) (name : String) (v : Value) : Prop where
  others : ∀ place' o, place' ≠ place → r.object? place' = some o → r'.object? place' = some o
  object : ∃ o o', r.object? place = some o ∧ r'.object? place = some o' ∧ o'.kind = o.kind ∧
    o'.behind = o.behind ∧ o'.data? name = some v ∧
      ∀ name', name' ≠ name → o'.own? name' = o.own? name'

section Given

variable {r₀ r₁ : Realm}

theorem Keeps.given (hk : r₀.Keeps r) (hp : place < r₀.objects.size)
    (hg : Given r r' place name v) : Given r₀ r' place name v := by
  obtain ⟨o, o', ho, hrest⟩ := hg.object
  obtain ⟨o₀, ho₀⟩ := exists_object? hp
  obtain rfl := Option.some.inj ((hk _ _ ho₀).symm.trans ho)
  exact ⟨fun place' o hne ho => hg.others place' o hne (hk _ o ho), o₀, o', ho₀, hrest⟩

theorem Given.keeps (hg : Given r r' place name v) (hk : r'.Keeps r₁) :
    Given r r₁ place name v := by
  obtain ⟨o, o', ho, ho', hrest⟩ := hg.object
  exact ⟨fun place' o hne ho => hk _ o (hg.others place' o hne ho), o, o', ho, hk _ o' ho', hrest⟩

variable (hg : Given r r' place name v)
include hg

theorem Given.alike : Alike (· ≠ name) r r' := by
  intro place' o ho
  by_cases hp : place' = place
  · subst hp
    obtain ⟨o₁, o', ho₁, ho', hkind, hb, -, hrest⟩ := hg.object
    obtain rfl := Option.some.inj (ho₁.symm.trans ho)
    exact ⟨o', ho', hkind, hb, hrest⟩
  · exact ⟨o, hg.others place' o hp ho, rfl, rfl, fun _ _ => rfl⟩

/-- What is read is the same, or it was read from the property that has been given another value. -/
theorem Given.value?_cases (hc : r.Closed) {place' : Nat} (hp : place' < r.objects.size)
    (name' : String) : r'.value? place' name' = r.value? place' name' ∨
      name' = name ∧ r.value? place' name' = r.value? place name ∧
        r'.value? place' name' = some v := by
  by_cases hne : name' = name
  case neg => exact .inl (hg.alike.value? hc hp hne)
  subst hne
  have step (n : Nat) : ∀ place' < r.objects.size,
      r'.nearestFrom? name' n (some place') = r.nearestFrom? name' n (some place') ∨
        r.nearest? (.object place') name' = r.nearest? (.object place) name' ∧
          (r'.nearestFrom? name' n (some place')).bind Property.value? = some v := by
    induction n with
    | zero => exact fun _ _ => .inl rfl
    | succ n ih =>
      intro place' hp
      by_cases hplace : place' = place
      · -- the object itself has the property now
        obtain ⟨-, o', -, ho', -, -, hv, -⟩ := hg.object
        rw [Object.data?_eq] at hv
        obtain ⟨p, hp, hv⟩ := Option.bind_eq_some_iff.1 hv
        rw [hplace, nearestFrom?_succ ho', hp]
        exact .inr ⟨rfl, hv⟩
      · obtain ⟨o, ho⟩ := Realm.exists_object? hp
        rw [nearestFrom?_succ (hg.others place' o hplace ho), nearestFrom?_succ ho, nearest?_eq ho]
        cases o.own? name' with
        | some p => exact .inl rfl
        | none =>
          cases hb : o.behind with
          | none => exact .inl (by rw [nearestFrom?_none, nearestFrom?_none])
          | some place'' => exact ih place'' (hc.behind place' o place'' ho hb)
  refine (step r'.objects.size place' hp).imp (fun h => ?_) fun ⟨hold, hnew⟩ => ⟨rfl, ?_, ?_⟩
  · rw [value?, value?, nearest?_object r place' name' hg.alike.size_le,
      nearest?_object r' place' name' le_rfl, h]
  · rw [value?, value?, hold]
  · obtain ⟨p, hp, hv⟩ := Option.bind_eq_some_iff.1 hnew
    rw [value?, nearest?_object r' place' name' le_rfl, hp]
    exact hv

end Given

end Realm

/-! ### Reading and writing -/

theorem read_of_value? (e : Evaluator) (h : r.value? place name = some v) :
    e.read (.object place) name r = .ok v r := by
  rw [read_object]
  unfold Realm.value? at h
  cases hn : r.nearest? (.object place) name with
  | none =>
    rw [hn] at h
    cases h
    rfl
  | some p =>
    rw [hn] at h
    obtain ⟨content, l, c⟩ := p
    cases content with
    | value w writable =>
      cases h
      rfl
    | accessor getter setter => cases h

namespace Object

/-- A property under a number cannot be written, unless it is an element. -/
theorem indexed?_of_elements (he : o.elements = #[]) (hp : o.indexed? name = some p) :
    ∃ v, p.content = .value v false := by
  rcases indexed?_cases hp with ⟨s, hs⟩ | ⟨w, hw, -⟩
  · exact ⟨_, hs⟩
  · rw [he] at hw
    cases Array.not_mem_empty w hw

theorem own?_replace (o : Object) (name name' : String) (p : Property) :
    (o.replace name p).own? name' =
      (o.indexed? name').or (if name = name' then some p else o.properties.get? name') := by
  show (o.indexed? name').or _ = _
  rw [replace, OrderedMap.get?_insert]

theorem given_replace (hi : o.indexed? name = none) (hv : p.value? = some v) :
    (o.replace name p).data? name = some v ∧
      ∀ name', name' ≠ name → (o.replace name p).own? name' = o.own? name' := by
  refine ⟨?_, fun name' hne => ?_⟩
  · rw [data?_eq, own?_replace, hi, if_pos rfl]
    exact hv
  · rw [own?_replace, if_neg hne.symm, own?]

end Object

theorem Realm.given_change {f : Object → Object} (ho : r.object? place = some o)
    (hk : (f o).kind = o.kind) (hb : (f o).behind = o.behind)
    (hf : (f o).data? name = some v ∧ ∀ name', name' ≠ name → (f o).own? name' = o.own? name') :
    Realm.Given r (r.change place f) place name v := by
  refine ⟨fun place' o' hne ho' => ?_, o, f o, ho, ?_, hk, hb, hf⟩
  · rw [object?_change, if_neg hne.symm, ho']
  · rw [object?_change, if_pos rfl, ho, Option.map_some]

theorem extend_cases (ho : r.object? place = some o) (harr : o.isArray = false)
    (hown : o.own? name = none) (v : Value) :
    (∃ message, Evaluation.extend (.object place) o name (.ofValue v) r =
        Evaluation.raiseType message r) ∨
      ∃ r', Evaluation.extend (.object place) o name (.ofValue v) r = .ok () r' ∧
        Realm.Given r r' place name v := by
  have hgrow : (o.mustGrow name && !o.canGrow) = false := by simp [Object.mustGrow, harr]
  have hadd : o.add name (.ofValue v) = o.replace name (.ofValue v) := by simp [Object.add, harr]
  unfold Evaluation.extend
  cases hopen : o.isOpen with
  | false => exact .inl ⟨_, rfl⟩
  | true =>
    rw [hgrow]
    refine .inr ⟨_, rfl, Realm.given_change ho ?_ ?_ ?_⟩
    · rw [hadd, Object.replace]
    · rw [hadd, Object.replace]
    · rw [hadd]
      exact Object.given_replace (Option.or_eq_none_iff.1 hown).1 rfl

theorem given_assign (he : o.elements = #[]) {w : Value} {l c : Bool}
    (hown : o.own? name = some ⟨.value w true, l, c⟩) (v : Value) :
    (o.assign name v).kind = o.kind ∧ (o.assign name v).behind = o.behind ∧
      (o.assign name v).data? name = some v ∧
        ∀ name', name' ≠ name → (o.assign name v).own? name' = o.own? name' := by
  have hi : o.indexed? name = none := by
    cases hi : o.indexed? name with
    | none => rfl
    | some p =>
      obtain ⟨w', hw'⟩ := Object.indexed?_of_elements he hi
      rw [Object.own?, hi, Option.some_or] at hown
      cases hown
      cases hw'
  have hget : o.properties.get? name = some ⟨.value w true, l, c⟩ := by
    rwa [Object.own?, hi, Option.none_or] at hown
  have hassign : o.assign name v = o.replace name ⟨.value v true, l, c⟩ := by
    simp [Object.assign, Object.assign.put, he, hget]
  rw [hassign]
  exact ⟨rfl, rfl, Object.given_replace hi rfl⟩

/-- An object that is no array is given a value for a property, or an error is thrown. -/
theorem write_cases (e : Evaluator) (ho : r.object? place = some o) (harr : o.isArray = false)
    (he : o.elements = #[]) {w : Value} (hr : r.value? place name = some w) (v : Value) :
    (∃ message, e.write (.object place) name v r = Evaluation.raiseType message r) ∨
      ∃ r', e.write (.object place) name v r = .ok () r' ∧ Realm.Given r r' place name v := by
  have hobj : r.objectOf? (.object place) = some o := ho
  have hn := Realm.nearest?_eq ho name
  unfold Realm.value? at hr
  unfold Evaluator.write
  simp only [bind, EStateM.bind, Outcome.get_apply]
  cases hown : o.own? name with
  | none =>
    have hextend := extend_cases ho harr hown v
    cases hnear : r.nearest? (.object place) name with
    | none =>
      simp only [EStateM.bind, Outcome.get_apply, hobj, hown, Option.isNone_none, if_true]
      exact hextend
    | some p =>
      rw [hnear] at hr
      obtain ⟨content, l, c⟩ := p
      cases content with
      | accessor getter setter => cases hr
      | value w writable =>
        cases writable with
        | false => exact .inl ⟨_, rfl⟩
        | true =>
          simp only [EStateM.bind, Outcome.get_apply, hobj, hown, Option.isNone_none, if_true]
          exact hextend
  | some p =>
    rw [hown, Option.some_or] at hn
    rw [hn] at hr ⊢
    obtain ⟨content, l, c⟩ := p
    cases content with
    | accessor getter setter => cases hr
    | value w writable =>
      cases writable with
      | false => exact .inl ⟨_, rfl⟩
      | true =>
        obtain ⟨hkind, hb, hgiven⟩ := given_assign he hown v
        refine .inr ⟨_, ?_, Realm.given_change (f := (·.assign name v)) ho hkind hb hgiven⟩
        simp only [EStateM.bind, Outcome.get_apply, hobj, hown, harr]
        rfl

end Script
end ScriptProxy
