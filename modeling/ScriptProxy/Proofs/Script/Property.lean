import ScriptProxy.Proofs.Outcome
import ScriptProxy.Script.Run

/-!
# Reading and writing properties

What `read` and `write` come to where nothing is special about the object: a property that has a
value is read without any effect, and an object that takes a property is given it.

`Keeps` is the relation between a realm and a later one in which no object has changed.
-/

namespace ScriptProxy.Script

variable {r r' : Realm} {place : Nat} {name : String} {v : Value} {o : Object}

/-- The value of a property of an object itself, unless it is an accessor. -/
def Object.data? (o : Object) (name : String) : Option Value :=
  match o.own? name with
  | some ⟨.value v _, _, _⟩ => some v
  | _ => none

theorem Object.data?_eq_some : o.data? name = some v ↔
    ∃ w listed changeable, o.own? name = some ⟨.value v w, listed, changeable⟩ := by
  unfold data?
  split
  · next h => simp [h]
  · next h => simpa using fun w l c hw => h v w l c hw

/-- An object of the kind that scripts make with braces, whatever its properties are. -/
structure Object.IsOrdinary (o : Object) : Prop where
  kind : o.kind = .plain
  behind : o.behind = some Base.object.place
  isOpen : o.isOpen = true
  elements : o.elements = #[]

/-- A property of the name can be given to the object: nothing is special about it. -/
structure Object.Takes (o : Object) (name : String) : Prop extends o.IsOrdinary where
  writable : ∀ p, o.own? name = some p → ∃ v, p.content = .value v true

/-- An object that takes any property. -/
structure Object.IsPlain (o : Object) : Prop extends o.IsOrdinary where
  writable : ∀ name p, o.own? name = some p → ∃ v, p.content = .value v true

/-- The object that has been given a property. -/
def Object.written (o : Object) (name : String) (v : Value) : Object :=
  if (o.own? name).isNone then o.add name (.ofValue v) else o.assign name v

theorem Object.IsPlain.takes (h : o.IsPlain) (name : String) : o.Takes name :=
  ⟨h.toIsOrdinary, h.writable name⟩

theorem Object.IsOrdinary.own? (h : o.IsOrdinary) (name : String) :
    o.own? name = o.properties.get? name := by
  unfold Object.own? Object.indexed?
  rw [h.kind, h.elements]
  rfl

namespace Object.Takes

theorem own?_eq_none (h : o.Takes name) (hd : o.data? name = none) : o.own? name = none := by
  cases hp : o.own? name with
  | none => rfl
  | some p =>
    obtain ⟨content, l, c⟩ := p
    obtain ⟨v, hv⟩ := h.writable _ hp
    dsimp only at hv
    subst hv
    cases (Object.data?_eq_some.2 ⟨true, l, c, hp⟩).symm.trans hd

theorem written_eq (h : o.Takes name) (v : Value) :
    o.written name v = o.replace name (match o.own? name with
      | some p => { p with content := .value v true }
      | none => .ofValue v) := by
  unfold Object.written
  cases hp : o.own? name with
  | none => simp [Object.add, Object.isArray, h.kind]
  | some p =>
    have hp' : o.properties.get? name = some p := h.own? name ▸ hp
    simp [Object.assign, Object.assign.put, h.elements, hp']

theorem isOrdinary_written (h : o.Takes name) (v : Value) : (o.written name v).IsOrdinary := by
  rw [h.written_eq]
  exact ⟨h.kind, h.behind, h.isOpen, h.elements⟩

theorem own?_written (h : o.Takes name) (name' : String) (v : Value) :
    (o.written name v).own? name' = if name = name' then some (match o.own? name with
      | some p => { p with content := .value v true }
      | none => .ofValue v) else o.own? name' := by
  rw [(h.isOrdinary_written v).own?, h.written_eq, h.own? name', Object.replace,
    OrderedMap.get?_insert]

theorem data?_written (h : o.Takes name) (name' : String) (v : Value) :
    (o.written name v).data? name' = if name = name' then some v else o.data? name' := by
  unfold Object.data?
  rw [h.own?_written]
  by_cases hn : name = name'
  · rw [if_pos hn, if_pos hn]
    cases o.own? name <;> rfl
  · rw [if_neg hn, if_neg hn]

end Object.Takes

theorem Object.IsPlain.written (h : o.IsPlain) (name : String) (v : Value) :
    (o.written name v).IsPlain := by
  refine ⟨(h.takes name).isOrdinary_written v, fun name' p hp => ?_⟩
  rw [(h.takes name).own?_written] at hp
  split at hp
  · cases hp
    split
    · exact ⟨v, rfl⟩
    · exact ⟨v, rfl⟩
  · exact h.writable name' p hp

namespace Realm

/-- The value of a property of the object at a place, unless it is an accessor. -/
def data? (r : Realm) (place : Nat) (name : String) : Option Value :=
  (r.object? place).bind (·.data? name)

/-- Nothing is behind the object that is behind all others. -/
def Rooted (r : Realm) : Prop := ∃ o, r.object? Base.object.place = some o ∧ o.behind = none

/-- No object inherits a property of the name from the object that is behind all others. -/
def Uninherited (r : Realm) (name : String) : Prop :=
  ∀ o, r.object? Base.object.place = some o → o.own? name = none

/-- No object has changed. There may be new ones. -/
def Keeps (r r' : Realm) : Prop := ∀ place o, r.object? place = some o → r'.object? place = some o

theorem Keeps.refl (r : Realm) : r.Keeps r := fun _ _ h => h

theorem Keeps.trans {r₁ : Realm} (h : r.Keeps r₁) (h' : r₁.Keeps r') : r.Keeps r' :=
  fun place o ho => h' place o (h place o ho)

theorem keeps_add (r : Realm) (o : Object) : r.Keeps (r.add o).2 := by
  intro place o' h
  rw [object?_add, if_neg, h]
  rintro rfl
  simp [object?] at h

theorem Keeps.data? (h : r.Keeps r') (hd : r.data? place name = some v) :
    r'.data? place name = some v := by
  obtain ⟨o, ho, hv⟩ := Option.bind_eq_some_iff.1 hd
  exact Option.bind_eq_some_iff.2 ⟨o, h place o ho, hv⟩

theorem Keeps.rooted (h : r.Keeps r') (hr : r.Rooted) : r'.Rooted :=
  let ⟨o, ho, hb⟩ := hr
  ⟨o, h _ o ho, hb⟩

theorem Keeps.uninherited (h : r.Keeps r') (hr : r.Rooted) (hn : r.Uninherited name) :
    r'.Uninherited name := by
  obtain ⟨o, ho, -⟩ := hr
  intro o' ho'
  cases (h _ o ho).symm.trans ho'
  exact hn o ho

theorem nearest?_of_ordinary (hr : r.Rooted) (hn : r.Uninherited name)
    (ho : r.object? place = some o) (hp : o.IsOrdinary) :
    r.nearest? (.object place) name = o.own? name := by
  obtain ⟨root, hroot, hb⟩ := hr
  have hsize : ∃ n, r.objects.size = n + 1 := by
    refine ⟨r.objects.size - 1, ?_⟩
    have := (Array.getElem?_eq_some_iff.1 ho).1
    omega
  obtain ⟨n, hsize⟩ := hsize
  have hnone : r.nearestFrom? name n none = none := by cases n <;> rfl
  unfold nearest?
  rw [hsize]
  simp [own?, behind?, ho, hp.behind, nearestFrom?, hroot, hn root hroot, hb, hnone]

end Realm

/-! ### Evaluations -/

theorem read_object (e : Evaluator) (r : Realm) (place : Nat) (name : String) :
    e.read (.object place) name r = match r.nearest? (.object place) name with
      | some p => e.contentOf (.object place) p r
      | none => .ok .undefined r := by
  unfold Evaluator.read
  simp only [bind, EStateM.bind, Outcome.get_apply]
  cases r.nearest? (.object place) name <;> rfl

theorem read_of_data (e : Evaluator) (h : r.data? place name = some v) :
    e.read (.object place) name r = .ok v r := by
  obtain ⟨o, ho, hd⟩ := Option.bind_eq_some_iff.1 h
  obtain ⟨w, l, c, hp⟩ := Object.data?_eq_some.1 hd
  have hn : r.nearest? (.object place) name = some ⟨.value v w, l, c⟩ := by
    simp [Realm.nearest?, Realm.own?, ho, hp]
  rw [read_object, hn]
  rfl

/-- An object is given any property that it takes and does not inherit. Nothing else changes. -/
theorem write_of_takes (e : Evaluator) (hr : r.Rooted) (hn : r.Uninherited name)
    (ho : r.object? place = some o) (hp : o.Takes name) (v : Value) :
    ∃ r', e.write (.object place) name v r = .ok () r' ∧
      r'.object? place = some (o.written name v) ∧
      ∀ place', place' ≠ place → r'.object? place' = r.object? place' := by
  have hne := Realm.nearest?_of_ordinary hr hn ho hp.toIsOrdinary
  have hobj : r.objectOf? (.object place) = some o := ho
  have hgrow : (o.mustGrow name && !o.canGrow) = false := by
    simp [Object.mustGrow, Object.isArray, hp.kind]
  have harr : o.isArray = false := by simp [Object.isArray, hp.kind]
  have changed (f : Object → Object) (hf : f o = o.written name v) :
      (r.change place f).object? place = some (o.written name v) ∧
        ∀ place', place' ≠ place → (r.change place f).object? place' = r.object? place' := by
    refine ⟨?_, fun place' hp' => ?_⟩
    · rw [Realm.object?_change, if_pos rfl, ho, Option.map_some, hf]
    · rw [Realm.object?_change, if_neg hp'.symm]
  unfold Evaluator.write
  simp only [bind, EStateM.bind, Outcome.get_apply]
  rw [hne]
  cases hown : o.own? name with
  | none =>
    refine ⟨_, ?_, changed (·.add name (.ofValue v)) (by simp [Object.written, hown])⟩
    simp only [EStateM.bind, Outcome.get_apply, hobj, hown, Option.isNone_none, if_true,
      Evaluation.extend, hp.isOpen, hgrow]
    rfl
  | some p =>
    obtain ⟨content, l, c⟩ := p
    obtain ⟨w, hw⟩ := hp.writable _ hown
    dsimp only at hw
    subst hw
    refine ⟨_, ?_, changed (·.assign name v) (by simp [Object.written, hown])⟩
    simp only [EStateM.bind, Outcome.get_apply, hobj, hown, harr]
    rfl

end ScriptProxy.Script
