import ScriptProxy.ClassFile.Annotation
import ScriptProxy.Proofs.Bytes.Written

/-!
# Annotations and their bytes

Values nest, so a property of all values in a value is stated as `ElementValue.Everywhere`, and what is
proved of all values goes by `ElementValue.induction`. The reader of values is bounded by a depth; it
accepts exactly what is written for values that are not nested deeper (`ElementValue.reads`), and a value
is not nested deeper than it has bytes (`readable_of_write`). So `Annotation.listOfBytes` and
`Annotation.listToBytes` undo each other: `Annotation.listOfBytes_listToBytes`.
-/

namespace ScriptProxy.ClassFile
open Outcome

namespace ElementValue

/-- What holds of a value if it holds of all values that are directly in it, holds of every value. -/
@[elab_as_elim] theorem induction {motive : ElementValue → Prop}
    (const : ∀ tag index, motive (const tag index))
    (enumConstant : ∀ type name, motive (enumConstant type name))
    (classLiteral : ∀ descriptor, motive (classLiteral descriptor))
    (nested : ∀ type elements, (∀ e ∈ elements, motive e.2) → motive (nested type elements))
    (array : ∀ values, (∀ v ∈ values, motive v) → motive (array values)) (v : ElementValue) :
    motive v :=
  @ElementValue.rec motive (fun elements => ∀ e ∈ elements, motive e.2)
    (fun values => ∀ v ∈ values, motive v) (fun e => motive e.2)
    const enumConstant classLiteral nested array
    nofun (fun _ _ h hs => List.forall_mem_cons.2 ⟨h, hs⟩)
    nofun (fun _ _ h hs => List.forall_mem_cons.2 ⟨h, hs⟩) (fun _ _ h => h) v

/-- The value and every value in it, at any depth, has the property. -/
inductive Everywhere (P : ElementValue → Prop) : ElementValue → Prop where
  | const {tag : UInt8} {index : UInt16} (h : P (const tag index)) : Everywhere P (const tag index)
  | enumConstant {type name : UInt16} (h : P (enumConstant type name)) :
    Everywhere P (enumConstant type name)
  | classLiteral {descriptor : UInt16} (h : P (classLiteral descriptor)) :
    Everywhere P (classLiteral descriptor)
  | nested {type : UInt16} {elements : List (UInt16 × ElementValue)} (h : P (nested type elements))
    (hs : ∀ e ∈ elements, Everywhere P e.2) : Everywhere P (nested type elements)
  | array {values : List ElementValue} (h : P (array values)) (hs : ∀ v ∈ values, Everywhere P v) :
    Everywhere P (array values)

theorem everywhere_nested {P : ElementValue → Prop} {type : UInt16}
    {elements : List (UInt16 × ElementValue)} :
    Everywhere P (nested type elements) ↔
      P (nested type elements) ∧ ∀ e ∈ elements, Everywhere P e.2 :=
  ⟨fun | .nested h hs => ⟨h, hs⟩, fun ⟨h, hs⟩ => .nested h hs⟩

theorem everywhere_array {P : ElementValue → Prop} {values : List ElementValue} :
    Everywhere P (array values) ↔ P (array values) ∧ ∀ v ∈ values, Everywhere P v :=
  ⟨fun | .array h hs => ⟨h, hs⟩, fun ⟨h, hs⟩ => .array h hs⟩

/-- A constant has one of the tags of constants. -/
def HasConstantTag : ElementValue → Prop
  | const tag _ => tag ∈ constantTags
  | _ => True

/-- The number of elements or values that the value lists fits sixteen bits. -/
def CountFits : ElementValue → Prop
  | nested _ elements => elements.length ≤ 65535
  | array values => values.length ≤ 65535
  | _ => True

/-- All constants in the value have tags of constants. -/
abbrev Tagged : ElementValue → Prop := Everywhere HasConstantTag

/-- All lists in the value are short enough to be written. -/
abbrev Fits : ElementValue → Prop := Everywhere CountFits

/-! ### Writing -/

/-- The byte that tells what a value is. -/
def tag : ElementValue → UInt8
  | const tag _ => tag
  | enumConstant .. => enumTag
  | classLiteral _ => classTag
  | nested .. => annotationTag
  | array _ => arrayTag

/-- An element is the index of its name and its value. -/
def writeElement (e : UInt16 × ElementValue) : Except Failure Bytes :=
  (Written.word16 e.1 ++ ·) <$> e.2.write

/-- A table of elements. -/
def elementTable : List (UInt16 × ElementValue) → Except Failure Bytes :=
  Written.table (fun _ => .annotationTableTooLong) writeElement

/-- The bytes of a value after its tag. -/
def body : ElementValue → Except Failure Bytes
  | const _ index => .ok (Written.word16 index)
  | enumConstant type name => .ok (Written.word16 type ++ Written.word16 name)
  | classLiteral descriptor => .ok (Written.word16 descriptor)
  | nested type elements => (Written.word16 type ++ ·) <$> elementTable elements
  | array values => Written.table (fun _ => .annotationTableTooLong) write values

theorem writeElements_eq (es : List (UInt16 × ElementValue)) :
    writeElements es [] = Written.all writeElement es := by
  refine Written.eq_all (fun _ => rfl) (fun e es before => ?_) es
  rw [writeElements, writeElement]
  cases e.2.write <;> rfl

theorem writeValues_eq (vs : List ElementValue) : writeValues vs [] = Written.all write vs :=
  Written.eq_all (fun _ => rfl) (fun _ _ _ => rfl) vs

theorem write_eq (v : ElementValue) : v.write = (v.tag :: ·) <$> v.body := by
  cases v with
  | nested type elements =>
    rw [write, writeElements_eq]
    simp [tag, body, elementTable, Written.table]
  | array values =>
    rw [write, writeValues_eq]
    simp [tag, body, Written.table]
  | _ => rfl

theorem write_eq_ok {v : ElementValue} {bs : Bytes} :
    v.write = .ok bs ↔ ∃ back, v.body = .ok back ∧ bs = v.tag :: back := by
  rw [write_eq, map_eq_ok]
  simp only [eq_comm]

theorem okIff_elementTable {es : List (UInt16 × ElementValue)}
    (h : ∀ e ∈ es, OkIff e.2.write e.2.Fits) :
    OkIff (elementTable es) (es.length ≤ 65535 ∧ ∀ e ∈ es, e.2.Fits) :=
  Written.okIff_table fun e he => (h e he).map (Written.word16 e.1 ++ ·)

theorem okIff_write (v : ElementValue) : OkIff v.write v.Fits := by
  rw [write_eq]
  refine OkIff.map _ ?_
  induction v using ElementValue.induction with
  | const tag index => exact (OkIff.pure _).congr ⟨fun _ => .const trivial, fun _ => trivial⟩
  | enumConstant type name =>
    exact (OkIff.pure _).congr ⟨fun _ => .enumConstant trivial, fun _ => trivial⟩
  | classLiteral descriptor =>
    exact (OkIff.pure _).congr ⟨fun _ => .classLiteral trivial, fun _ => trivial⟩
  | nested type elements ih =>
    rw [Fits, everywhere_nested]
    refine (okIff_elementTable fun e he => ?_).map (Written.word16 type ++ ·)
    rw [write_eq]
    exact (ih e he).map (e.2.tag :: ·)
  | array values ih =>
    rw [Fits, everywhere_array, body]
    refine Written.okIff_table fun v hv => ?_
    rw [write_eq]
    exact (ih v hv).map (v.tag :: ·)

/-! ### Reading -/

/-- The value nests less than `depth` deep, and its constants have tags of constants. -/
def Readable : (depth : Nat) → ElementValue → Prop
  | 0, _ => False
  | depth + 1, nested _ elements => ∀ e ∈ elements, Readable depth e.2
  | depth + 1, array values => ∀ v ∈ values, Readable depth v
  | _ + 1, v => v.HasConstantTag

theorem Readable.hasConstantTag {depth : Nat} {v : ElementValue} (h : v.Readable depth) :
    v.HasConstantTag := by
  cases depth with
  | zero => exact h.elim
  | succ depth =>
    cases v with
    | const tag index => exact h
    | _ => trivial

theorem Readable.tagged {depth : Nat} {v : ElementValue} (h : v.Readable depth) : v.Tagged := by
  induction depth generalizing v with
  | zero => exact h.elim
  | succ depth ih =>
    cases v with
    | const tag index => exact .const h
    | enumConstant type name => exact .enumConstant trivial
    | classLiteral descriptor => exact .classLiteral trivial
    | nested type elements => exact .nested trivial fun e he => ih (h e he)
    | array values => exact .array trivial fun v hv => ih (h v hv)

theorem exists_of_elementTable {es : List (UInt16 × ElementValue)} {bs : Bytes}
    (h : elementTable es = .ok bs) {e : UInt16 × ElementValue} (he : e ∈ es) :
    ∃ b, e.2.write = .ok b ∧ b.length ≤ bs.length := by
  obtain ⟨_, hwrite, hl⟩ := Written.exists_of_table h he
  obtain ⟨b, hb, rfl⟩ := map_eq_ok.1 hwrite
  rw [List.length_append] at hl
  exact ⟨b, hb, by omega⟩

/-- Each level of nesting takes a byte. -/
theorem readable_of_write {depth : Nat} {v : ElementValue} {bs : Bytes} (ht : v.Tagged)
    (h : v.write = .ok bs) (hd : bs.length ≤ depth) : v.Readable depth := by
  induction depth generalizing v bs with
  | zero =>
    obtain ⟨back, -, rfl⟩ := write_eq_ok.1 h
    exact absurd hd (Nat.not_succ_le_zero _)
  | succ depth ih =>
    obtain ⟨back, hb, rfl⟩ := write_eq_ok.1 h
    have hback : back.length ≤ depth := Nat.le_of_succ_le_succ hd
    cases ht with
    | const ht => exact ht
    | enumConstant ht => exact ht
    | classLiteral ht => exact ht
    | nested _ hs =>
      obtain ⟨table, htable, rfl⟩ := map_eq_ok.1 (show _ <$> elementTable _ = _ from hb)
      intro e he
      obtain ⟨b, hb, hl⟩ := exists_of_elementTable htable he
      rw [List.length_append] at hback
      exact ih (hs e he) hb (by omega)
    | array _ hs =>
      intro v hv
      obtain ⟨b, hb, hl⟩ :=
        Written.exists_of_table (show Written.table (fun _ => _) write _ = _ from hb) hv
      exact ih (hs v hv) hb (by omega)

/-- The values that have the tag and nest less than `depth + 1` deep, by what stands behind the tag. -/
def behind (depth : Nat) (tag : UInt8) : Form ElementValue :=
  fun v bs => v.tag = tag ∧ v.Readable (depth + 1) ∧ v.body = .ok bs

section
variable {α : Type} {depth : Nat} {tag : UInt8} {step : Read α} {F : Form α}

/-- A kind of values with one part. -/
theorem reads_one {kind : α → ElementValue} (h : Reads step F)
    (htag : ∀ v, HasConstantTag v → v.tag = tag → ∃ a, v = kind a)
    (hbehind : ∀ a bs, behind depth tag (kind a) bs ↔ F a bs) :
    Reads (step >>= fun a => Pure.pure (kind a)) (behind depth tag) := by
  refine (h.map kind).congr fun v bs => ?_
  constructor
  · rintro ⟨a, ha, rfl⟩
    exact (hbehind a bs).2 ha
  · intro hv
    obtain ⟨a, rfl⟩ := htag v hv.2.1.hasConstantTag hv.1
    exact ⟨a, (hbehind a bs).1 hv, rfl⟩

/-- A kind of values with an index and another part. -/
theorem reads_two {kind : UInt16 → α → ElementValue} (h : Reads step F)
    (htag : ∀ v, HasConstantTag v → v.tag = tag → ∃ i a, v = kind i a)
    (hbehind : ∀ i a bs, behind depth tag (kind i a) bs ↔
      ∃ back, F a back ∧ bs = Written.word16 i ++ back) :
    Reads (Read.u16 >>= fun i => step >>= fun a => Pure.pure (kind i a)) (behind depth tag) := by
  refine (Reads.u16.bind fun i => h.map (kind i)).congr fun v bs => ?_
  constructor
  · rintro ⟨i, _, rfl, back, ⟨a, ha, rfl⟩, rfl⟩
    exact (hbehind i a _).2 ⟨back, ha, rfl⟩
  · intro hv
    obtain ⟨i, a, rfl⟩ := htag v hv.2.1.hasConstantTag hv.1
    obtain ⟨back, ha, rfl⟩ := (hbehind i a bs).1 hv
    exact ⟨i, _, rfl, back, ⟨a, ha, rfl⟩, rfl⟩

end

theorem reads_elements {step : Read ElementValue} {P : ElementValue → Prop}
    (h : Reads step fun v bs => P v ∧ v.write = .ok bs) :
    Reads (readElements step) fun es bs => (∀ e ∈ es, P e.2) ∧ elementTable es = .ok bs := by
  have helement : Reads (Read.u16 >>= fun name => step >>= fun v => Pure.pure (name, v))
      fun e bs => P e.2 ∧ writeElement e = .ok bs := by
    refine (Reads.u16.bind fun name => h.map (Prod.mk name)).congr fun e bs => ?_
    rw [writeElement, map_eq_ok]
    constructor
    · rintro ⟨name, _, rfl, back, ⟨v, ⟨hP, hv⟩, rfl⟩, rfl⟩
      exact ⟨hP, back, hv, rfl⟩
    · rintro ⟨hP, back, hv, rfl⟩
      exact ⟨e.1, _, rfl, back, ⟨e.2, ⟨hP, hv⟩, rfl⟩, rfl⟩
  exact helement.someTable _

section
attribute [local simp] behind tag HasConstantTag Readable body constantTags enumTag classTag
  annotationTag arrayTag

theorem reads (depth : Nat) :
    Reads (read depth) fun v bs => v.Readable depth ∧ v.write = .ok bs := by
  induction depth with
  | zero => exact (Reads.throw _).congr fun v bs => ⟨False.elim, fun h => h.1⟩
  | succ depth ih =>
    refine (Reads.u8.bind (G := behind depth) fun tag => ?_).congr fun v bs => ?_
    · refine .ite ?_ fun hconst => .ite ?_ fun henum => .ite ?_ fun hclass => .ite ?_ fun hnested =>
        .ite ?_ fun harray => ?_
      · intro htag
        exact reads_one Reads.u16 (fun v _ hv => by subst hv; cases v <;> simp_all) fun index bs => by
          simpa [eq_comm] using fun _ => htag
      · rintro rfl
        exact reads_two Reads.u16 (fun v _ _ => by cases v <;> simp_all) fun type name bs => by
          simp [eq_comm]
      · rintro rfl
        exact reads_one Reads.u16 (fun v _ _ => by cases v <;> simp_all) fun descriptor bs => by
          simp [eq_comm]
      · rintro rfl
        refine reads_two (reads_elements ih) (fun v _ _ => by cases v <;> simp_all)
          fun type elements bs => ?_
        show _ ∧ _ ∧ (Written.word16 type ++ ·) <$> elementTable elements = .ok bs ↔ _
        rw [map_eq_ok]
        simp [eq_comm, and_assoc]
      · rintro rfl
        exact reads_one (Reads.someTable ih fun _ => .annotationTableTooLong)
          (fun v _ _ => by cases v <;> simp_all) fun values bs => by simp
      · refine (Reads.fail _).congr fun v bs => ⟨False.elim, ?_⟩
        rintro ⟨rfl, hr, -⟩
        cases v with
        | const tag index => exact hconst hr
        | enumConstant type name => exact henum rfl
        | classLiteral descriptor => exact hclass rfl
        | nested type elements => exact hnested rfl
        | array values => exact harray rfl
    · rw [write_eq_ok]
      constructor
      · rintro ⟨_, _, rfl, back, ⟨rfl, hr, hb⟩, rfl⟩
        exact ⟨hr, back, hb, rfl⟩
      · rintro ⟨hr, back, hb, rfl⟩
        exact ⟨_, _, rfl, back, ⟨rfl, hr, hb⟩, rfl⟩

end

end ElementValue

namespace Annotation
open ElementValue

/-- All constants in the values of the annotation's elements have tags of constants. -/
def Tagged (a : Annotation) : Prop := ∀ e ∈ a.elements, e.2.Tagged

/-- The annotation's elements, and all lists in their values, are short enough to be written. -/
def Fits (a : Annotation) : Prop := a.elements.length ≤ 65535 ∧ ∀ e ∈ a.elements, e.2.Fits

theorem write_eq (a : Annotation) :
    a.write = (Written.word16 a.type ++ ·) <$> elementTable a.elements := by
  rw [write, writeElements_eq]
  simp [elementTable, Written.table]

theorem okIff_write (a : Annotation) : OkIff a.write a.Fits := by
  rw [write_eq]
  exact (okIff_elementTable fun e _ => e.2.okIff_write).map (Written.word16 a.type ++ ·)

theorem okIff_listToBytes (l : List Annotation) :
    OkIff (listToBytes l) (l.length ≤ 65535 ∧ ∀ a ∈ l, a.Fits) :=
  Written.okIff_table fun a _ => a.okIff_write

/-- The values of the annotation's elements nest less than `depth` deep, and their constants have
tags of constants. -/
def Readable (depth : Nat) (a : Annotation) : Prop := ∀ e ∈ a.elements, e.2.Readable depth

theorem readable_of_write {depth : Nat} {a : Annotation} {bs : Bytes} (ht : a.Tagged)
    (h : a.write = .ok bs) (hd : bs.length ≤ depth) : a.Readable depth := by
  intro e he
  rw [write_eq, map_eq_ok] at h
  obtain ⟨table, htable, rfl⟩ := h
  obtain ⟨b, hb, hl⟩ := exists_of_elementTable htable he
  rw [List.length_append] at hd
  exact ElementValue.readable_of_write (ht e he) hb (by omega)

theorem reads (depth : Nat) :
    Reads (read depth) fun a bs => a.Readable depth ∧ a.write = .ok bs := by
  refine (Reads.u16.bind fun type =>
    (reads_elements (ElementValue.reads depth)).map (mk type)).congr fun a bs => ?_
  rw [write_eq, map_eq_ok]
  constructor
  · rintro ⟨type, _, rfl, back, ⟨elements, ⟨hr, hb⟩, rfl⟩, rfl⟩
    exact ⟨hr, back, hb, rfl⟩
  · rintro ⟨hr, back, hb, rfl⟩
    exact ⟨a.type, _, rfl, back, ⟨a.elements, ⟨hr, hb⟩, rfl⟩, rfl⟩

/-- At the start of the input the depth that the reader allows is the number of bytes of it. -/
theorem listOfBytes_eq (bs : Bytes) : listOfBytes bs =
    ((Read.table (read bs.length)).toEnd .trailingAnnotationBytes).run bs := by
  have hdepth : (Cursor.ofList bs).remaining = bs.length := by
    rw [← Cursor.length_rest, Cursor.rest_ofList]
  rw [listOfBytes, Read.run, readList, bind_of_ok (get_apply _), hdepth]
  rfl

theorem listOfBytes_eq_ok {bs : Bytes} {l : List Annotation} :
    listOfBytes bs = .ok l ↔ (∀ a ∈ l, a.Tagged) ∧ listToBytes l = .ok bs := by
  rw [listOfBytes_eq, ((reads bs.length).someTable fun _ => .annotationTableTooLong).run_to_end]
  constructor
  · rintro ⟨hr, hb⟩
    exact ⟨fun a ha e he => (hr a ha e he).tagged, hb⟩
  · rintro ⟨ht, hb⟩
    refine ⟨fun a ha => ?_, hb⟩
    obtain ⟨b, hwrite, hl⟩ := Written.exists_of_table hb ha
    exact readable_of_write (ht a ha) hwrite hl

/-- A list of annotations has a written form exactly if it and all lists in it have at most 65535
entries. If its constants have tags of constants it is read from this form, and from nothing else. -/
theorem listOfBytes_listToBytes (l : List Annotation) :
    ((∃ bs, listToBytes l = .ok bs) ↔ l.length ≤ 65535 ∧ ∀ a ∈ l, a.Fits) ∧
    (¬ (l.length ≤ 65535 ∧ ∀ a ∈ l, a.Fits) → ∃ d, listToBytes l = .error (.malformed d)) ∧
    ∀ bs, listOfBytes bs = .ok l ↔ (∀ a ∈ l, a.Tagged) ∧ listToBytes l = .ok bs :=
  ⟨(okIff_listToBytes l).isOk_iff, (okIff_listToBytes l).defect, fun _ => listOfBytes_eq_ok⟩

example : listOfBytes [0, 1, 0, 4, 0, 1, 0, 5, 0x5B, 0, 2, 0x49, 0, 6, 0x63, 0, 7] =
    .ok [⟨4, [(5, .array [.const 0x49 6, .classLiteral 7])]⟩] := by
  cbv

end Annotation

end ScriptProxy.ClassFile
