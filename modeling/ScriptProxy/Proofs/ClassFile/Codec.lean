import ScriptProxy.ClassFile.Basic
import ScriptProxy.Proofs.ClassFile.PoolCodec

/-!
# Class files and their bytes

Part by part, each reader accepts exactly the bytes that the writer gives: `Attribute.reads`,
`Member.reads`, `reads_contents`. `ofBytes_eq_ok` puts the parts together: a byte string is read as a
class if and only if the class has a well-formed pool and is written as that byte string. The
`okIff` lemmas tell which lengths decide whether a part has a written form.
-/

namespace ScriptProxy

open Outcome

namespace ClassFile

/-! ### Attributes -/

namespace Attribute

theorem write_eq_ok {a : Attribute} {bs : Bytes} :
    a.write = .ok bs ↔ a.body.length < UInt32.size ∧
      bs = Written.word16 a.name ++ (BigEndian.digits 4 a.body.length ++ a.body) := by
  rw [write, bind_eq_ok]
  simp only [Written.count32_eq_ok]
  constructor
  · rintro ⟨_, ⟨hl, rfl⟩, ⟨⟩⟩
    exact ⟨hl, rfl⟩
  · rintro ⟨hl, rfl⟩
    exact ⟨_, ⟨hl, rfl⟩, rfl⟩

theorem okIff_write (a : Attribute) : OkIff a.write (a.body.length < UInt32.size) :=
  Written.okIff_count32.map _

theorem reads : Reads read (Form.of write) := by
  refine (Reads.u16.bind fun name => Reads.longBlock.map (Attribute.mk name)).congr fun a bs => ?_
  rw [Form.of, write_eq_ok]
  constructor
  · rintro ⟨name, _, rfl, _, ⟨body, ⟨hl, rfl⟩, rfl⟩, rfl⟩
    exact ⟨hl, rfl⟩
  · rintro ⟨hl, rfl⟩
    exact ⟨a.name, _, rfl, _, ⟨a.body, ⟨hl, rfl⟩, rfl⟩, rfl⟩

theorem reads_list : Reads readList (Form.of writeList) := reads.writtenTable _

/-- The list and the bodies of its attributes are short enough to be written. -/
def ListFits (as : List Attribute) : Prop :=
  as.length ≤ 65535 ∧ ∀ a ∈ as, a.body.length < UInt32.size

instance (as : List Attribute) : Decidable (ListFits as) :=
  inferInstanceAs (Decidable (_ ∧ _))

theorem okIff_writeList (as : List Attribute) : OkIff (writeList as) (ListFits as) :=
  Written.okIff_table fun a _ => okIff_write a

end Attribute

/-! ### Fields and methods -/

namespace Member

theorem write_eq_ok {m : Member} {bs : Bytes} :
    m.write = .ok bs ↔ ∃ attributes, Attribute.writeList m.attributes = .ok attributes ∧
      bs = Written.word16 m.access.bits ++
        (Written.word16 m.name ++ (Written.word16 m.descriptor ++ attributes)) := by
  rw [write, bind_eq_ok]
  constructor
  · rintro ⟨attributes, ha, ⟨⟩⟩
    exact ⟨attributes, ha, rfl⟩
  · rintro ⟨attributes, ha, rfl⟩
    exact ⟨attributes, ha, rfl⟩

theorem okIff_write (m : Member) : OkIff m.write (Attribute.ListFits m.attributes) :=
  (Attribute.okIff_writeList m.attributes).map _

theorem reads : Reads read (Form.of write) := by
  refine (Reads.u16.bind fun access => Reads.u16.bind fun name => Reads.u16.bind fun descriptor =>
    Attribute.reads_list.map (Member.mk ⟨access⟩ name descriptor)).congr fun m bs => ?_
  rw [Form.of, write_eq_ok]
  constructor
  · rintro ⟨access, _, rfl, _, ⟨name, _, rfl, _, ⟨descriptor, _, rfl, body, ⟨_, ha, rfl⟩, rfl⟩, rfl⟩,
      rfl⟩
    exact ⟨body, ha, rfl⟩
  · rintro ⟨body, ha, rfl⟩
    exact ⟨_, _, rfl, _, ⟨_, _, rfl, _, ⟨_, _, rfl, body, ⟨_, ha, rfl⟩, rfl⟩, rfl⟩, rfl⟩

end Member

/-! ### Method bodies -/

theorem Handler.reads : Reads Handler.read (Form.of fun h => .ok h.write) := by
  refine (Reads.u16.bind fun start => Reads.u16.bind fun stop => Reads.u16.bind fun target =>
    Reads.u16.map (Handler.mk start stop target)).congr fun h bs => ?_
  rw [Form.of, Except.ok.injEq]
  constructor
  · rintro ⟨start, _, rfl, _, ⟨stop, _, rfl, _, ⟨target, _, rfl, _, ⟨caught, rfl, rfl⟩, rfl⟩, rfl⟩, rfl⟩
    rfl
  · rintro rfl
    exact ⟨_, _, rfl, _, ⟨_, _, rfl, _, ⟨_, _, rfl, _, ⟨_, rfl, rfl⟩, rfl⟩, rfl⟩, rfl⟩

namespace Code

/-- The parts of a body, one after the other. -/
def form : Form Code := fun c bs => ∃ handlers attributes,
  Written.table (fun _ => .tooManyHandlers) (fun h => .ok h.write) c.handlers = .ok handlers ∧
  Attribute.writeList c.attributes = .ok attributes ∧
  bs = Written.word16 c.maxStack ++ (Written.word16 c.maxLocals ++
    (BigEndian.digits 4 c.instructions.length ++ (c.instructions ++ (handlers ++ attributes))))

theorem toBytes_eq_ok {c : Code} {bs : Bytes} :
    c.toBytes = .ok bs ↔ (c.instructions ≠ [] ∧ c.instructions.length ≤ 65535) ∧ form c bs := by
  have hlimit : ¬ (c.instructions.length = 0 ∨ 65535 < c.instructions.length) ↔
      c.instructions ≠ [] ∧ c.instructions.length ≤ 65535 := by
    rw [not_or, List.length_eq_zero_iff, Nat.not_lt]
  rw [← hlimit]
  unfold toBytes
  dsimp only
  constructor
  · intro h
    split at h
    · cases h
    · next hl =>
      obtain ⟨handlers, hh, h⟩ := bind_eq_ok.1 h
      obtain ⟨attributes, ha, h⟩ := bind_eq_ok.1 h
      cases h
      exact ⟨hl, handlers, attributes, hh, ha, rfl⟩
  · rintro ⟨hl, handlers, attributes, hh, ha, rfl⟩
    rw [if_neg hl]
    exact bind_eq_ok.2 ⟨_, hh, bind_eq_ok.2 ⟨_, ha, rfl⟩⟩

/-- A reader does not mind more instructions than a writer gives. -/
theorem reads : Reads read fun c bs =>
    (c.instructions ≠ [] ∧ c.instructions.length < UInt32.size) ∧ form c bs := by
  refine (Reads.u16.bind fun maxStack => Reads.u16.bind fun maxLocals => Reads.longBlock.bind
    (G := fun instructions c bs => instructions ≠ [] ∧ ∃ handlers attributes hs as,
      c = ⟨maxStack, maxLocals, instructions, handlers, attributes⟩ ∧
      Written.table (fun _ => .tooManyHandlers) (fun h => .ok h.write) handlers = .ok hs ∧
      Attribute.writeList attributes = .ok as ∧ bs = hs ++ as)
    fun instructions => ?_).congr fun c bs => ?_
  · refine .ite (fun he => ?_) fun he => ?_
    · refine (Reads.fail _).congr fun c bs => ⟨False.elim, fun h => ?_⟩
      exact h.1 (List.isEmpty_iff.1 he)
    · refine ((Handler.reads.writtenTable fun _ => .tooManyHandlers).bind fun handlers =>
        Attribute.reads_list.map (Code.mk maxStack maxLocals instructions handlers)).congr
        fun c bs => ?_
      constructor
      · rintro ⟨handlers, hs, hh, as, ⟨attributes, ha, rfl⟩, rfl⟩
        exact ⟨fun h => he (List.isEmpty_iff.2 h), handlers, attributes, hs, as, rfl, hh, ha, rfl⟩
      · rintro ⟨-, handlers, attributes, hs, as, rfl, hh, ha, rfl⟩
        exact ⟨handlers, hs, hh, as, ⟨attributes, ha, rfl⟩, rfl⟩
  · constructor
    · rintro ⟨_, _, rfl, _, ⟨_, _, rfl, _, ⟨_, _, ⟨hl, rfl⟩, _,
        ⟨hne, handlers, attributes, hs, as, rfl, hh, ha, rfl⟩, rfl⟩, rfl⟩, rfl⟩
      exact ⟨⟨hne, hl⟩, hs, as, hh, ha, by simp⟩
    · rintro ⟨⟨hne, hl⟩, hs, as, hh, ha, rfl⟩
      exact ⟨_, _, rfl, _, ⟨_, _, rfl, _, ⟨c.instructions, _, ⟨hl, rfl⟩, _,
        ⟨hne, c.handlers, c.attributes, hs, as, rfl, hh, ha, rfl⟩, rfl⟩, by simp⟩, rfl⟩

/-- A body that is written is read back, whatever follows it. -/
theorem ofBytes_of_toBytes {c : Code} {bs : Bytes} (h : c.toBytes = .ok bs) (more : Bytes) :
    ofBytes (bs ++ more) = .ok c := by
  obtain ⟨⟨hne, hl⟩, hform⟩ := toBytes_eq_ok.1 h
  exact reads.run_eq_ok.2 ⟨bs, more, ⟨⟨hne, Nat.lt_of_le_of_lt hl (by decide)⟩, hform⟩, rfl⟩

end Code

/-! ### Classes -/

variable {c : ClassFile} {bs : Bytes}

/-- All of a class file behind its magic number, part by part. -/
def contents (c : ClassFile) (bs : Bytes) : Prop := ∃ pool interfaces fields methods attributes,
  c.pool.write = .ok pool ∧
  Written.table (.tableTooLong .interfaces) (fun i => .ok (Written.word16 i)) c.interfaces =
    .ok interfaces ∧
  Written.table (.tableTooLong .fields) Member.write c.fields = .ok fields ∧
  Written.table (.tableTooLong .methods) Member.write c.methods = .ok methods ∧
  Attribute.writeList c.attributes = .ok attributes ∧
  bs = Written.word16 c.minor ++ (Written.word16 c.major ++ (pool ++
    (Written.word16 c.access.bits ++ (Written.word16 c.thisClass ++ (Written.word16 c.superClass ++
      (interfaces ++ (fields ++ (methods ++ attributes))))))))

theorem toBytes_eq_ok :
    c.toBytes = .ok bs ↔ ∃ back, contents c back ∧ bs = Written.word32 magic ++ back := by
  unfold toBytes
  constructor
  · intro h
    obtain ⟨pool, hp, h⟩ := bind_eq_ok.1 h
    obtain ⟨interfaces, hi, h⟩ := bind_eq_ok.1 h
    obtain ⟨fields, hf, h⟩ := bind_eq_ok.1 h
    obtain ⟨methods, hm, h⟩ := bind_eq_ok.1 h
    obtain ⟨attributes, ha, h⟩ := bind_eq_ok.1 h
    cases h
    exact ⟨_, ⟨pool, interfaces, fields, methods, attributes, hp, hi, hf, hm, ha, rfl⟩, rfl⟩
  · rintro ⟨_, ⟨pool, interfaces, fields, methods, attributes, hp, hi, hf, hm, ha, rfl⟩, rfl⟩
    exact bind_eq_ok.2 ⟨_, hp, bind_eq_ok.2 ⟨_, hi, bind_eq_ok.2 ⟨_, hf,
      bind_eq_ok.2 ⟨_, hm, bind_eq_ok.2 ⟨_, ha, rfl⟩⟩⟩⟩⟩

theorem reads_contents : Reads readContents fun c bs => c.pool.WellFormed ∧ contents c bs := by
  refine (Reads.u16.bind fun minor => Reads.u16.bind fun major => Pool.reads.bind fun pool =>
    Reads.u16.bind fun access => Reads.u16.bind fun this => Reads.u16.bind fun super =>
    (Reads.written16.writtenTable (.tableTooLong .interfaces)).bind fun interfaces =>
    (Member.reads.writtenTable (.tableTooLong .fields)).bind fun fields =>
    (Member.reads.writtenTable (.tableTooLong .methods)).bind fun methods =>
    Attribute.reads_list.map (ClassFile.mk minor major pool ⟨access⟩ this super interfaces fields
      methods)).congr fun c bs => ?_
  constructor
  · rintro ⟨_, _, rfl, _, ⟨_, _, rfl, _, ⟨_, pool, ⟨hwf, hp⟩, _, ⟨_, _, rfl, _, ⟨_, _, rfl, _,
      ⟨_, _, rfl, _, ⟨_, interfaces, hi, _, ⟨_, fields, hf, _, ⟨_, methods, hm, attributes,
        ⟨_, ha, rfl⟩, rfl⟩, rfl⟩, rfl⟩, rfl⟩, rfl⟩, rfl⟩, rfl⟩, rfl⟩, rfl⟩
    exact ⟨hwf, pool, interfaces, fields, methods, attributes, hp, hi, hf, hm, ha, rfl⟩
  · rintro ⟨hwf, pool, interfaces, fields, methods, attributes, hp, hi, hf, hm, ha, rfl⟩
    exact ⟨_, _, rfl, _, ⟨_, _, rfl, _, ⟨_, pool, ⟨hwf, hp⟩, _, ⟨_, _, rfl, _, ⟨_, _, rfl, _,
      ⟨_, _, rfl, _, ⟨_, interfaces, hi, _, ⟨_, fields, hf, _, ⟨_, methods, hm, attributes,
        ⟨_, ha, rfl⟩, rfl⟩, rfl⟩, rfl⟩, rfl⟩, rfl⟩, rfl⟩, rfl⟩, rfl⟩, rfl⟩

/-- Reads a class and leaves what stands behind it. -/
def readFront : Read ClassFile := Read.u32 >>= fun found =>
  if found ≠ magic then Read.fail (.badMagic found) else readContents

theorem read_eq : read = readFront.toEnd .trailingBytes := by
  unfold read readFront Read.toEnd
  rw [bind_assoc]
  refine congrArg (Read.u32 >>= ·) (funext fun found => ?_)
  split <;> rfl

theorem reads_front : Reads readFront fun c bs => c.pool.WellFormed ∧ c.toBytes = .ok bs := by
  refine (Reads.u32.bind (G := fun found c bs => found = magic ∧ c.pool.WellFormed ∧ contents c bs)
    fun found => .ite (fun h => ?_) fun h => ?_).congr fun c bs => ?_
  · exact (Reads.fail _).congr fun c bs => ⟨False.elim, fun hc => h hc.1⟩
  · have h : found = magic := Classical.not_not.1 h
    exact reads_contents.congr fun c bs => ⟨fun hc => ⟨h, hc⟩, And.right⟩
  · rw [toBytes_eq_ok]
    constructor
    · rintro ⟨_, _, rfl, back, ⟨rfl, hwf, hc⟩, rfl⟩
      exact ⟨hwf, back, hc, rfl⟩
    · rintro ⟨hwf, back, hc, rfl⟩
      exact ⟨_, _, rfl, back, ⟨rfl, hwf, hc⟩, rfl⟩

/-- A byte string is read as a class exactly if the class is well formed and written as it. -/
theorem ofBytes_eq_ok : ofBytes bs = .ok c ↔ c.pool.WellFormed ∧ c.toBytes = .ok bs := by
  unfold ofBytes
  split
  · next he =>
    obtain rfl := List.isEmpty_iff.1 he
    constructor
    · intro h
      cases h
    · rintro ⟨-, h⟩
      obtain ⟨back, -, hb⟩ := toBytes_eq_ok.1 h
      cases hb
  · rw [read_eq]
    exact reads_front.run_to_end .trailingBytes

end ClassFile

end ScriptProxy
