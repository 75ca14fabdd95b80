import ScriptProxy.Proofs.ClassFile.Codec

/-!
# How long method bodies are

A method body says where its parts end, but neither that nothing follows it nor that it has no more
instructions than may be written: `Code.ofBytes` leaves both open, as the readers of class files and of
annotations do not. `Code.toBytes_iff_of_ofBytes` says which of the bodies that it reads are written as
they were, and what becomes of the others.
-/

namespace ScriptProxy

namespace ClassFile

/-- The number of bytes of an attribute. -/
def Attribute.size (a : Attribute) : Nat := 6 + a.body.length

theorem Attribute.length_of_write {a : Attribute} {bs : Bytes} (h : a.write = .ok bs) :
    bs.length = a.size := by
  obtain ⟨-, rfl⟩ := write_eq_ok.1 h
  simp [Written.word16, size]
  omega

namespace Code

variable {c : Code} {bs : Bytes}

/-- The number of bytes that the parts of a method body take. -/
def size (c : Code) : Nat :=
  12 + c.instructions.length + 8 * c.handlers.length +
    c.attributes.foldr (fun a n => a.size + n) 0

theorem length_of_form (h : form c bs) : bs.length = c.size := by
  obtain ⟨handlers, attributes, hh, ha, rfl⟩ := h
  have hhandlers := Written.length_of_table (fun _ => 8)
    (fun h bs hb => by cases hb; simp [Handler.write, Written.word16]) hh
  have hattributes := Written.length_of_table Attribute.size (fun _ _ => Attribute.length_of_write) ha
  have heights : ∀ hs : List Handler, hs.foldr (fun _ n => 8 + n) 0 = 8 * hs.length := by
    intro hs
    induction hs with
    | nil => rfl
    | cons _ hs ih => rw [List.foldr_cons, ih, List.length_cons]; omega
  rw [heights] at hhandlers
  simp only [List.length_append, Written.word16, BigEndian.length_digits, hhandlers, hattributes,
    size]
  omega

/-- A method body that was read is written without what stands behind it, unless it has more
instructions than may be written. So it is written as it was exactly if nothing stands behind it and
the instructions are not too long. -/
theorem toBytes_iff_of_ofBytes (h : ofBytes bs = .ok c) :
    c.size ≤ bs.length ∧
    c.toBytes = (if c.instructions.length ≤ 65535 then .ok (bs.take c.size)
      else (Defect.codeLength c.instructions.length).fail) ∧
    (c.toBytes = .ok bs ↔ c.instructions.length ≤ 65535 ∧ c.size = bs.length) := by
  obtain ⟨front, back, ⟨⟨hne, -⟩, hform⟩, rfl⟩ := reads.run_eq_ok.1 h
  have hsize := length_of_form hform
  have htake : (front ++ back).take c.size = front := by rw [← hsize, List.take_left]
  have hwritten : c.toBytes = if c.instructions.length ≤ 65535 then .ok ((front ++ back).take c.size)
      else (Defect.codeLength c.instructions.length).fail := by
    rw [htake]
    split
    · next hl => exact toBytes_eq_ok.2 ⟨⟨hne, hl⟩, hform⟩
    · next hl => exact if_pos (.inr (Nat.not_le.1 hl))
  refine ⟨by rw [List.length_append]; omega, hwritten, ?_⟩
  constructor
  · intro hbs
    obtain ⟨⟨-, hl⟩, hform'⟩ := toBytes_eq_ok.1 hbs
    exact ⟨hl, (length_of_form hform').symm⟩
  · rintro ⟨hl, hall⟩
    rw [hwritten, if_pos hl, hall, List.take_length]

/-- The body of a method that returns, with one byte more. -/
def padded : Bytes := [0, 0, 0, 0, 0, 0, 0, 1, 0xB1, 0, 0, 0, 0, 0xFF]

theorem toBytes_iff_of_ofBytes_padded :
    ofBytes padded = .ok ⟨0, 0, [0xB1], [], []⟩ ∧
    (toBytes ⟨0, 0, [0xB1], [], []⟩ = .ok (padded.take 13)) ∧
    toBytes ⟨0, 0, [0xB1], [], []⟩ ≠ .ok padded := by
  have h : ofBytes padded = .ok ⟨0, 0, [0xB1], [], []⟩ :=
    Outcome.eq_ok_of_toOption (by decide +kernel)
  obtain ⟨-, hwritten, hiff⟩ := toBytes_iff_of_ofBytes h
  exact ⟨h, hwritten, fun hbs => absurd (hiff.1 hbs).2 (by decide)⟩

end Code

end ClassFile

end ScriptProxy
