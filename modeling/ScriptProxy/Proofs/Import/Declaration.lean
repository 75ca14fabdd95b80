import ScriptProxy.Import.Scan
import ScriptProxy.Proofs.Outcome

/-!
# What a method declares

Two views of the search for an import, which say nothing of how it is carried out: what the search
comes to (`Unmarked`, `Reaches`) and what the elements of an annotation make of it (`Declares`).
`declaredBinding_eq_none` and `declaredBinding_eq_some` say that the search finds just that. All else
is a problem of the method.
-/

namespace ScriptProxy.Import

open ClassFile Outcome

theorem blame_eq_ok {α : Type} {problem : Failure → Problem} {x : Except Failure α} {a : α} :
    blame problem x = .ok a ↔ x = .ok a := by
  cases x with
  | ok b => simp [blame]
  | error f => simp [blame]

/-! ### The search -/

section
variable (pool : Pool) (marker : String) (m : Member)

/-- The type of an annotation can be read, and it is not the marked one. -/
def IsForeign (a : Annotation) : Prop := ∃ type, pool.text a.type = .ok type ∧ type ≠ marker

/-- All annotations of the first attribute of a name can be read, if there is such an attribute, and
none of them is marked. -/
def IsClear (name : String) : Prop :=
  ∀ listing, m.attribute? pool name = some listing →
    ∃ as, Annotation.listOfBytes listing.body = .ok as ∧ ∀ a ∈ as, IsForeign pool marker a

/-- The first attribute of a name can be read, `a` is the first marked annotation in it, and the
types of those before can be read. -/
def IsFirstIn (name : String) (a : Annotation) : Prop :=
  ∃ listing before after, m.attribute? pool name = some listing ∧
    Annotation.listOfBytes listing.body = .ok (before ++ a :: after) ∧
    (∀ x ∈ before, IsForeign pool marker x) ∧ pool.text a.type = .ok marker

/-- All that is searched can be read, and nothing of it is marked. -/
def Unmarked : Prop :=
  IsClear pool marker m "RuntimeInvisibleAnnotations" ∧
    IsClear pool marker m "RuntimeVisibleAnnotations"

/-- The search comes to the marked annotation `a`, and to nothing that cannot be read before. -/
def Reaches (a : Annotation) : Prop :=
  IsFirstIn pool marker m "RuntimeInvisibleAnnotations" a ∨
    IsClear pool marker m "RuntimeInvisibleAnnotations" ∧
      IsFirstIn pool marker m "RuntimeVisibleAnnotations" a

end

section
variable {pool : Pool} {marker : String} {m : Member} {a : Annotation}

@[simp] theorem findMarked_nil : findMarked pool marker [] = .ok none := rfl

@[simp] theorem findIn_nil : findIn pool marker m [] = .ok none := rfl

/-- One step of the search among annotations: a type that cannot be read ends it. -/
theorem findMarked_cons_eq_ok {as : List Annotation} {o : Option Annotation} :
    findMarked pool marker (a :: as) = .ok o ↔
      pool.text a.type = .ok marker ∧ o = some a ∨
        IsForeign pool marker a ∧ findMarked pool marker as = .ok o := by
  rw [findMarked, bind_eq_ok]
  constructor
  · rintro ⟨type, htype, h⟩
    have htype := blame_eq_ok.1 htype
    split at h
    · next hm =>
      cases h
      exact .inl ⟨hm ▸ htype, rfl⟩
    · next hm => exact .inr ⟨⟨type, htype, hm⟩, h⟩
  · rintro (⟨htype, rfl⟩ | ⟨⟨type, htype, hm⟩, h⟩)
    · exact ⟨marker, blame_eq_ok.2 htype, if_pos rfl⟩
    · exact ⟨type, blame_eq_ok.2 htype, by rw [if_neg hm]; exact h⟩

theorem findMarked_eq_none {as : List Annotation} :
    findMarked pool marker as = .ok none ↔ ∀ a ∈ as, IsForeign pool marker a := by
  induction as with
  | nil => simp
  | cons a as ih => simp [findMarked_cons_eq_ok, ih]

theorem findMarked_eq_some {as : List Annotation} :
    findMarked pool marker as = .ok (some a) ↔ ∃ before after, as = before ++ a :: after ∧
      (∀ x ∈ before, IsForeign pool marker x) ∧ pool.text a.type = .ok marker := by
  induction as with
  | nil => simp
  | cons x as ih =>
    rw [findMarked_cons_eq_ok, ih]
    constructor
    · rintro (⟨htype, hx⟩ | ⟨hx, before, after, rfl, hbefore, htype⟩)
      · cases hx
        exact ⟨[], as, rfl, by simp, htype⟩
      · exact ⟨x :: before, after, rfl, by simpa using ⟨hx, hbefore⟩, htype⟩
    · rintro ⟨before, after, hsplit, hbefore, htype⟩
      cases before with
      | nil =>
        cases hsplit
        exact .inl ⟨htype, rfl⟩
      | cons y before =>
        cases hsplit
        exact .inr ⟨hbefore x (by simp), before, after, rfl, fun z hz => hbefore z (by simp [hz]),
          htype⟩

/-- One step of the search among attributes: one that is there and cannot be read ends it. -/
theorem findIn_cons_eq_ok {name : String} {names : List String} {o : Option Annotation} :
    findIn pool marker m (name :: names) = .ok o ↔
      (∃ a, IsFirstIn pool marker m name a ∧ o = some a) ∨
        IsClear pool marker m name ∧ findIn pool marker m names = .ok o := by
  rw [findIn]
  cases hfound : m.attribute? pool name with
  | none => simp [IsClear, IsFirstIn, hfound]
  | some listing =>
    simp only [bind_eq_ok, blame_eq_ok, IsClear, IsFirstIn, hfound, Option.some.injEq, forall_eq']
    constructor
    · rintro ⟨as, has, found, hsearch, h⟩
      cases found with
      | none => exact .inr ⟨⟨as, has, findMarked_eq_none.1 hsearch⟩, h⟩
      | some a =>
        cases h
        obtain ⟨before, after, rfl, hfirst⟩ := findMarked_eq_some.1 hsearch
        exact .inl ⟨a, ⟨listing, before, after, rfl, has, hfirst⟩, rfl⟩
    · rintro (⟨a, ⟨_, before, after, rfl, has, hfirst⟩, rfl⟩ | ⟨⟨as, has, hall⟩, h⟩)
      · exact ⟨_, has, some a, findMarked_eq_some.2 ⟨before, after, rfl, hfirst⟩, rfl⟩
      · exact ⟨as, has, none, findMarked_eq_none.2 hall, h⟩

theorem findIn_searched_eq_none :
    findIn pool marker m searchedAttributes = .ok none ↔ Unmarked pool marker m := by
  rw [searchedAttributes, findIn_cons_eq_ok, findIn_cons_eq_ok]
  simp [Unmarked]

theorem findIn_searched_eq_some :
    findIn pool marker m searchedAttributes = .ok (some a) ↔ Reaches pool marker m a := by
  rw [searchedAttributes, findIn_cons_eq_ok, findIn_cons_eq_ok]
  simp [Reaches]

end

/-! ### Elements -/

section
variable (pool : Pool)

/-- The name of an element can be read, and if it says something of the import, so can its text. -/
def IsReadable (element : UInt16 × ElementValue) : Prop :=
  ∃ name, pool.text element.1 = .ok name ∧
    (name ∈ ["module", "name", "js", "script"] → ∃ index text,
      element.2 = .const ElementValue.stringTag index ∧ pool.text index = .ok text)

/-- The text of an element that has one of the given names. -/
def textUnder? (names : List String) (element : UInt16 × ElementValue) : Option String := do
  let name ← (pool.text element.1).toOption
  if name ∈ names then (element.2.asString pool).toOption else none

/-- The text of the last of the elements that have one of the given names. -/
def lastText? (names : List String) (elements : List (UInt16 × ElementValue)) : Option String :=
  (elements.filterMap (textUnder? pool names)).getLast?

/-- The elements of an annotation make the binding, for a method of the given name in a class whose
functions belong to the given module. -/
structure Declares (defaultModule methodName : String) (a : Annotation) (b : Binding) : Prop where
  readable : ∀ element ∈ a.elements, IsReadable pool element
  module_eq : b.module = (lastText? pool ["module"] a.elements).getD defaultModule
  name_eq : b.name = (lastText? pool ["name"] a.elements).getD methodName
  /-- A blank script is none. -/
  script_eq : b.script = (lastText? pool ["js", "script"] a.elements).filter (!Text.allBlank ·)
  isIdentifier_module : Text.isIdentifier b.module = true
  isIdentifier_name : Text.isIdentifier b.name = true

/-- What an element makes of what was said before it. -/
def Declared.after (d : Declared) (element : UInt16 × ElementValue) : Declared where
  module := (textUnder? pool ["module"] element).getD d.module
  name := (textUnder? pool ["name"] element).getD d.name
  script := (textUnder? pool ["js", "script"] element).or d.script

end

section
variable {pool : Pool} {marker : String} {m : Member}

theorem asString_eq_ok {v : ElementValue} {s : String} :
    v.asString pool = .ok s ↔
      ∃ index, v = .const ElementValue.stringTag index ∧ pool.text index = .ok s := by
  cases v with
  | const tag index =>
    rw [ElementValue.asString]
    split
    · next h => simp [h]
    · next h => simp [Defect.fail, h]
  | _ => simp [ElementValue.asString, Defect.fail]

theorem textUnder?_eq {names : List String} {element : UInt16 × ElementValue} {name : String}
    (hname : pool.text element.1 = .ok name) : textUnder? pool names element =
      if name ∈ names then (element.2.asString pool).toOption else none := by
  rw [textUnder?, hname]
  rfl

theorem isReadable_iff {element : UInt16 × ElementValue} {name : String}
    (hname : pool.text element.1 = .ok name) : IsReadable pool element ↔
      (name ∈ ["module", "name", "js", "script"] → ∃ text, element.2.asString pool = .ok text) := by
  simp only [IsReadable, hname, Except.ok.injEq, exists_eq_left', asString_eq_ok]
  rw [exists_comm]

theorem note_eq_ok {d d' : Declared} {element : UInt16 × ElementValue} :
    d.note pool element = .ok d' ↔ IsReadable pool element ∧ d.after pool element = d' := by
  rw [Declared.note]
  cases hname : pool.text element.1 with
  | error f => simp [blame, bind, Except.bind, IsReadable, hname]
  | ok name =>
    rw [isReadable_iff hname, Declared.after, textUnder?_eq hname, textUnder?_eq hname,
      textUnder?_eq hname]
    simp only [blame, bind, Except.bind, pure, Except.pure]
    by_cases hm : name = "module"
    · subst hm
      cases element.2.asString pool <;> simp [Except.toOption]
    by_cases hn : name = "name"
    · subst hn
      cases element.2.asString pool <;> simp [Except.toOption]
    by_cases hs : name = "js" ∨ name = "script"
    · cases element.2.asString pool <;> simp [Except.toOption, hm, hn, hs]
    · simp [hm, hn, hs]

theorem lastText?_cons (names : List String) (e : UInt16 × ElementValue)
    (elements : List (UInt16 × ElementValue)) : lastText? pool names (e :: elements) =
      (lastText? pool names elements).or (textUnder? pool names e) := by
  rw [lastText?, lastText?, List.filterMap_cons]
  cases textUnder? pool names e with
  | none => simp
  | some text => rw [List.getLast?_cons, Option.or_some]

/-- What elements make of what was said before them. -/
theorem foldlM_note_eq_ok {elements : List (UInt16 × ElementValue)} {d d' : Declared} :
    elements.foldlM (Declared.note pool) d = .ok d' ↔ (∀ e ∈ elements, IsReadable pool e) ∧
      (⟨(lastText? pool ["module"] elements).getD d.module,
        (lastText? pool ["name"] elements).getD d.name,
        (lastText? pool ["js", "script"] elements).or d.script⟩ : Declared) = d' := by
  induction elements generalizing d with
  | nil => simp [lastText?, pure, Except.pure]
  | cons e elements ih =>
    rw [List.foldlM_cons, bind_eq_ok]
    simp only [note_eq_ok, ih, lastText?_cons, Option.getD_or, Option.or_assoc, List.forall_mem_cons]
    constructor
    · rintro ⟨_, ⟨he, rfl⟩, hes, rfl⟩
      exact ⟨⟨he, hes⟩, rfl⟩
    · rintro ⟨⟨he, hes⟩, rfl⟩
      exact ⟨_, ⟨he, rfl⟩, hes, rfl⟩

theorem declaredBinding_eq_none {defaultModule methodName : String} :
    declaredBinding pool marker defaultModule methodName m = .ok none ↔ Unmarked pool marker m := by
  rw [declaredBinding, bind_eq_ok, ← findIn_searched_eq_none]
  constructor
  · rintro ⟨o, ho, h⟩
    cases o with
    | none => exact ho
    | some a =>
      obtain ⟨d, -, h⟩ := bind_eq_ok.1 h
      split at h
      · cases h
      · split at h <;> cases h
  · exact fun ho => ⟨none, ho, rfl⟩

theorem declaredBinding_eq_some {defaultModule methodName : String} {b : Binding} :
    declaredBinding pool marker defaultModule methodName m = .ok (some b) ↔
      ∃ a, Reaches pool marker m a ∧ Declares pool defaultModule methodName a b := by
  rw [declaredBinding, bind_eq_ok]
  constructor
  · rintro ⟨o, ho, h⟩
    cases o with
    | none => cases h
    | some a =>
      refine ⟨a, findIn_searched_eq_some.1 ho, ?_⟩
      obtain ⟨d, hd, h⟩ := bind_eq_ok.1 h
      obtain ⟨hreadable, rfl⟩ := foldlM_note_eq_ok.1 hd
      split at h
      · cases h
      next hm =>
      split at h
      · cases h
      next hn =>
      cases h
      exact ⟨hreadable, rfl, rfl, by simp [Binding.of], by simpa [Binding.of] using hm,
        by simpa [Binding.of] using hn⟩
  · rintro ⟨a, ha, hb⟩
    refine ⟨some a, findIn_searched_eq_some.2 ha, bind_eq_ok.2
      ⟨_, foldlM_note_eq_ok.2 ⟨hb.readable, rfl⟩, ?_⟩⟩
    have hm := hb.isIdentifier_module
    have hn := hb.isIdentifier_name
    rw [hb.module_eq] at hm
    rw [hb.name_eq] at hn
    obtain ⟨module, name, script⟩ := b
    obtain ⟨-, rfl, rfl, rfl, -, -⟩ := hb
    simp [hm, hn, Binding.of, pure, Except.pure]

end

end ScriptProxy.Import
