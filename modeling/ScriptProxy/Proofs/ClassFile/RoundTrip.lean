import ScriptProxy.Proofs.ClassFile.Codec

/-!
# Class files survive reading and writing

`toBytes_of_ofBytes`: a class that was read is written byte for byte as it was. `toBytes_of_reachable`:
a class that was put together is written if and only if it fits the lengths of the format, and is
read back as it was.
-/

namespace ScriptProxy.ClassFile
open Outcome

variable {c : ClassFile} {bs : Bytes}

/-- A class that was read is written as the bytes that it was read from. -/
theorem toBytes_of_ofBytes (h : ofBytes bs = .ok c) : c.toBytes = .ok bs := (ofBytes_eq_ok.1 h).2

/-- A class with a long constant, a text that is not in its shortest form, unknown flags and a field
that has an attribute. -/
def sample : ClassFile where
  minor := 3
  major := 52
  pool := ⟨#[none, some (.long (-2)), none, some (.utf8 [0xC1, 0x81]), some (.classRef 3),
    some (.float 0x7FC00001)]⟩
  access := ⟨0xF021⟩
  thisClass := 4
  superClass := 0
  interfaces := [9]
  fields := [⟨⟨0x8000⟩, 3, 3, [⟨3, [1, 2, 3]⟩]⟩]
  methods := []
  attributes := []

/-- The file that holds `sample`. -/
def sampleBytes : Bytes :=
  [0xCA, 0xFE, 0xBA, 0xBE, 0, 3, 0, 52, 0, 6, 5, 0xFF, 0xFF, 0xFF, 0xFF, 0xFF, 0xFF, 0xFF, 0xFE,
    1, 0, 2, 0xC1, 0x81, 7, 0, 3, 4, 0x7F, 0xC0, 0, 1, 0xF0, 0x21, 0, 4, 0, 0, 0, 1, 0, 9,
    0, 1, 0x80, 0, 0, 3, 0, 3, 0, 1, 0, 3, 0, 0, 0, 3, 1, 2, 3, 0, 0, 0, 0]

theorem toBytes_of_ofBytes_sample :
    ofBytes sampleBytes = .ok sample ∧ sample.toBytes = .ok sampleBytes := by
  have h : ofBytes sampleBytes = .ok sample := eq_ok_of_toOption (by decide +kernel)
  exact ⟨h, toBytes_of_ofBytes h⟩

/-- The lengths that a class file stores in sixteen or thirty-two bits are not beyond them. -/
structure Fits (c : ClassFile) : Prop where
  texts : c.pool.TextsFit
  interfaces : c.interfaces.length ≤ 65535
  fields : c.fields.length ≤ 65535
  fieldAttributes : ∀ m ∈ c.fields, Attribute.ListFits m.attributes
  methods : c.methods.length ≤ 65535
  methodAttributes : ∀ m ∈ c.methods, Attribute.ListFits m.attributes
  attributes : Attribute.ListFits c.attributes

theorem okIff_toBytes (c : ClassFile) : OkIff c.toBytes c.Fits := by
  refine ((Pool.okIff_write c.pool).bind fun _ =>
    (Written.okIff_table fun i _ => OkIff.pure (Written.word16 i)).bind fun _ =>
    (Written.okIff_table fun m _ => Member.okIff_write m).bind fun _ =>
    (Written.okIff_table fun m _ => Member.okIff_write m).bind fun _ =>
    (Attribute.okIff_writeList c.attributes).map _).congr ?_
  constructor
  · rintro ⟨ht, ⟨hi, -⟩, ⟨hf, hfa⟩, ⟨hm, hma⟩, ha⟩
    exact ⟨ht, hi, hf, hfa, hm, hma, ha⟩
  · rintro ⟨ht, hi, hf, hfa, hm, hma, ha⟩
    exact ⟨ht, ⟨hi, fun _ _ => trivial⟩, ⟨hf, hfa⟩, ⟨hm, hma⟩, ha⟩

/-- A class whose pool was read or made by additions has a written form exactly if it fits, is
refused as malformed otherwise, and is read back from its written form. -/
theorem toBytes_of_reachable (hp : c.pool.Reachable) :
    ((∃ bs, c.toBytes = .ok bs) ↔ c.Fits) ∧
    (¬ c.Fits → ∃ d, c.toBytes = .error (.malformed d)) ∧
    ∀ bs, c.toBytes = .ok bs → ofBytes bs = .ok c := by
  refine ⟨(okIff_toBytes c).isOk_iff, (okIff_toBytes c).defect, fun bs hbs => ?_⟩
  exact ofBytes_eq_ok.2 ⟨hp.wellFormed, hbs⟩

/-- A class whose pool holds what naming a class adds, with the given interfaces. -/
def made (interfaces : List UInt16) : ClassFile where
  minor := 0
  major := 52
  pool := left ((Pool.Addition.classRef "A").edit .empty)
  access := ⟨1⟩
  thisClass := 2
  superClass := 0
  interfaces
  fields := []
  methods := [⟨⟨0x0108⟩, 1, 1, [⟨1, [7]⟩]⟩]
  attributes := []

theorem toBytes_of_reachable_made :
    (made []).pool.Reachable ∧
    (∃ bs, (made []).toBytes = .ok bs ∧ ofBytes bs = .ok (made [])) ∧
    ∃ d, (made (List.replicate 65536 2)).toBytes = .error (.malformed d) := by
  have hp : (made []).pool.Reachable := .add .empty _
  have hfits : (made []).Fits := by
    refine ⟨fun bytes hb => ?_, by decide, by decide, by decide, by decide, by decide, by decide⟩
    have hs : (made []).pool.slots.toList = [none, some (.utf8 [65]), some (.classRef 1)] := by
      decide +kernel
    rw [hs] at hb
    obtain rfl : bytes = [65] := by simpa using hb
    decide
  obtain ⟨bs, hbs⟩ := (toBytes_of_reachable hp).1.2 hfits
  refine ⟨hp, ⟨bs, hbs, (toBytes_of_reachable hp).2.2 bs hbs⟩, ?_⟩
  refine (toBytes_of_reachable (c := made (List.replicate 65536 2)) hp).2.1 fun h => ?_
  have := h.interfaces
  rw [made, List.length_replicate] at this
  omega

end ScriptProxy.ClassFile
