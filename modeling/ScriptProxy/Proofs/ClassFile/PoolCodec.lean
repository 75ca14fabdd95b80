import ScriptProxy.Proofs.Bytes.Written
import ScriptProxy.Proofs.ClassFile.PoolGrowth

/-!
# Constant pools and their bytes

`Constant.read` accepts exactly the bytes that `Constant.write` gives, and `Pool.read` accepts exactly
the bytes that `Pool.write` gives for a well-formed pool. A pool has a written form if and only if its
texts fit their sixteen-bit lengths.
-/

namespace ScriptProxy.ClassFile
open Outcome

namespace Constant

/-- The length of a text constant fits sixteen bits. -/
def Fits : Constant → Prop
  | utf8 bytes => bytes.length ≤ 65535
  | _ => True

theorem write_eq_ok {c : Constant} {bs : Bytes} :
    c.write = .ok bs ↔ ∃ back, c.body = .ok back ∧ bs = c.tag :: back := by
  rw [write, bind_eq_ok]
  constructor
  · rintro ⟨back, hb, ⟨⟩⟩
    exact ⟨back, hb, rfl⟩
  · rintro ⟨back, hb, rfl⟩
    exact ⟨back, hb, rfl⟩

theorem okIff_write (c : Constant) : OkIff c.write c.Fits := by
  have hbody : OkIff c.body c.Fits := by
    cases c with
    | utf8 bytes => exact Written.okIff_count16.map (· ++ bytes)
    | _ => exact OkIff.pure _
  exact hbody.map (c.tag :: ·)

/-! ### Reading by tag -/

/-- The constants that have the tag, by what stands behind it. -/
def tagged (tag : UInt8) : Form Constant := fun c bs => c.tag = tag ∧ c.body = .ok bs

section
variable {α β : Type} {tag : UInt8}

/-- A kind of constants with one part. -/
theorem reads_one {step : Read α} {F : Form α} {kind : α → Constant} (h : Reads step F)
    (htag : ∀ c : Constant, c.tag = tag ↔ ∃ a, c = kind a)
    (hbody : ∀ a bs, F a bs ↔ (kind a).body = .ok bs) :
    Reads (step >>= fun a => Pure.pure (kind a)) (tagged tag) := by
  refine (h.map kind).congr fun c bs => ?_
  rw [tagged, htag]
  constructor
  · rintro ⟨a, ha, rfl⟩
    exact ⟨⟨a, rfl⟩, (hbody a bs).1 ha⟩
  · rintro ⟨⟨a, rfl⟩, ha⟩
    exact ⟨a, (hbody a bs).2 ha, rfl⟩

/-- A kind of constants with two parts. -/
theorem reads_two {step : Read α} {step' : Read β} {F : α → Bytes} {F' : β → Bytes}
    {kind : α → β → Constant} (h : Reads step fun a bs => bs = F a)
    (h' : Reads step' fun b bs => bs = F' b)
    (htag : ∀ c : Constant, c.tag = tag ↔ ∃ a b, c = kind a b)
    (hbody : ∀ a b, (kind a b).body = .ok (F a ++ F' b)) :
    Reads (step >>= fun a => step' >>= fun b => Pure.pure (kind a b)) (tagged tag) := by
  refine (h.bind fun a => h'.map (kind a)).congr fun c bs => ?_
  rw [tagged, htag]
  constructor
  · rintro ⟨a, _, rfl, _, ⟨b, rfl, rfl⟩, rfl⟩
    exact ⟨⟨a, b, rfl⟩, hbody a b⟩
  · rintro ⟨⟨a, b, rfl⟩, hb⟩
    rw [hbody, Except.ok.injEq] at hb
    exact ⟨a, _, rfl, _, ⟨b, rfl, rfl⟩, hb.symm⟩

end

/-- A kind of constants whose only part is an index. -/
theorem reads_index {kind : UInt16 → Constant} (tag : UInt8)
    (htag : ∀ c : Constant, c.tag = tag ↔ ∃ i, c = kind i)
    (hbody : ∀ i, (kind i).body = .ok (Written.word16 i)) :
    Reads (Read.u16 >>= fun i => Pure.pure (kind i)) (tagged tag) :=
  reads_one Reads.u16 htag fun i bs => by rw [hbody, Except.ok.injEq, eq_comm]

/-- A kind of constants whose parts are two indices. -/
theorem reads_indices {kind : UInt16 → UInt16 → Constant} (tag : UInt8)
    (htag : ∀ c : Constant, c.tag = tag ↔ ∃ i j, c = kind i j)
    (hbody : ∀ i j, (kind i j).body = .ok (Written.word16 i ++ Written.word16 j)) :
    Reads (Read.u16 >>= fun i => Read.u16 >>= fun j => Pure.pure (kind i j)) (tagged tag) :=
  reads_two Reads.u16 Reads.u16 htag hbody

theorem utf8_body_eq_ok {bytes bs : Bytes} :
    (utf8 bytes).body = .ok bs ↔
      bytes.length ≤ 65535 ∧ bs = BigEndian.digits 2 bytes.length ++ bytes := by
  rw [body, bind_eq_ok]
  simp only [Written.count16_eq_ok]
  constructor
  · rintro ⟨_, ⟨hl, rfl⟩, ⟨⟩⟩
    exact ⟨hl, rfl⟩
  · rintro ⟨hl, rfl⟩
    exact ⟨_, ⟨hl, rfl⟩, rfl⟩

theorem reads : Reads read (Form.of write) := by
  refine (Reads.u8.bind (G := tagged) fun tag => ?_).congr fun c bs => ?_
  · refine .ite ?_ fun h1 => .ite ?_ fun h3 => .ite ?_ fun h4 => .ite ?_ fun h5 => .ite ?_ fun h6 =>
      .ite ?_ fun h7 => .ite ?_ fun h8 => .ite ?_ fun h9 => .ite ?_ fun h10 => .ite ?_ fun h11 =>
      .ite ?_ fun h12 => .ite ?_ fun h15 => .ite ?_ fun h16 => .ite ?_ fun h17 => .ite ?_ fun h18 =>
      .ite ?_ fun h19 => .ite ?_ fun h20 => ?_
    · rintro rfl
      exact reads_one Reads.shortBlock (fun c => by cases c <;> simp [tag]) fun bytes bs =>
        utf8_body_eq_ok.symm
    · rintro rfl
      refine reads_one Reads.u32 (fun c => ⟨fun h => ?_, ?_⟩) fun w bs => ?_
      · cases c <;> simp [tag] at h
        next v => exact ⟨v.toUInt32, by simp⟩
      · rintro ⟨w, rfl⟩
        rfl
      · simp [body, Pure.pure, Except.pure, eq_comm]
    · rintro rfl
      exact reads_one Reads.u32 (fun c => by cases c <;> simp [tag]) fun w bs => by
        simp [body, Pure.pure, Except.pure, eq_comm]
    · rintro rfl
      refine reads_one Reads.u64 (fun c => ⟨fun h => ?_, ?_⟩) fun w bs => ?_
      · cases c <;> simp [tag] at h
        next v => exact ⟨v.toUInt64, by simp⟩
      · rintro ⟨w, rfl⟩
        rfl
      · simp [body, Pure.pure, Except.pure, eq_comm]
    · rintro rfl
      exact reads_one Reads.u64 (fun c => by cases c <;> simp [tag]) fun w bs => by
        simp [body, Pure.pure, Except.pure, eq_comm]
    · rintro rfl
      exact reads_index 7 (fun c => by cases c <;> simp [tag]) fun _ => rfl
    · rintro rfl
      exact reads_index 8 (fun c => by cases c <;> simp [tag]) fun _ => rfl
    · rintro rfl
      exact reads_indices 9 (fun c => by cases c <;> simp [tag]) fun _ _ => rfl
    · rintro rfl
      exact reads_indices 10 (fun c => by cases c <;> simp [tag]) fun _ _ => rfl
    · rintro rfl
      exact reads_indices 11 (fun c => by cases c <;> simp [tag]) fun _ _ => rfl
    · rintro rfl
      exact reads_indices 12 (fun c => by cases c <;> simp [tag]) fun _ _ => rfl
    · rintro rfl
      exact reads_two Reads.u8 Reads.u16 (fun c => by cases c <;> simp [tag]) fun _ _ => rfl
    · rintro rfl
      exact reads_index 16 (fun c => by cases c <;> simp [tag]) fun _ => rfl
    · rintro rfl
      exact reads_indices 17 (fun c => by cases c <;> simp [tag]) fun _ _ => rfl
    · rintro rfl
      exact reads_indices 18 (fun c => by cases c <;> simp [tag]) fun _ _ => rfl
    · rintro rfl
      exact reads_index 19 (fun c => by cases c <;> simp [tag]) fun _ => rfl
    · rintro rfl
      exact reads_index 20 (fun c => by cases c <;> simp [tag]) fun _ => rfl
    · refine (Reads.failAt _).congr fun c bs => ?_
      -- no kind of constants has a tag other than these
      refine ⟨False.elim, fun h => ?_⟩
      obtain ⟨rfl, -⟩ := h
      cases c <;> contradiction
  · rw [Form.of, write_eq_ok]
    constructor
    · rintro ⟨_, _, rfl, back, ⟨rfl, hb⟩, rfl⟩
      exact ⟨back, hb, rfl⟩
    · rintro ⟨back, hb, rfl⟩
      exact ⟨_, _, rfl, back, ⟨rfl, hb⟩, rfl⟩

end Constant

namespace Pool

/-! ### Slots -/

/-- The slots that follow the first one begin with those of a constant. -/
theorem Laid.exists_slotsOf {slots : List (Option Constant)} (h : Laid slots) (hne : slots ≠ []) :
    ∃ c more, slots = slotsOf c ++ more ∧ Laid more := by
  cases h with
  | nil => exact absurd rfl hne
  | @narrow c more hc hs => exact ⟨c, more, by rw [slotsOf, if_neg (by simp [hc])]; rfl, hs⟩
  | @wide c more hc hs => exact ⟨c, more, by rw [slotsOf, if_pos hc]; rfl, hs⟩

theorem sequence_slotsOf {c : Constant} {bs : Bytes} :
    (Form.of writeSlot).sequence (slotsOf c) bs ↔ c.write = .ok bs := by
  unfold slotsOf
  constructor
  · intro h
    split at h
    · obtain ⟨front, _, hf, ⟨_, _, ⟨⟩, rfl, rfl⟩, rfl⟩ := h
      rw [List.append_nil, List.append_nil]
      exact hf
    · obtain ⟨front, _, hf, rfl, rfl⟩ := h
      rw [List.append_nil]
      exact hf
  · intro h
    split
    · exact ⟨bs, [], h, ⟨[], [], rfl, rfl, rfl⟩, (List.append_nil bs).symm⟩
    · exact ⟨bs, [], h, rfl, (List.append_nil bs).symm⟩

/-- What `readSlots` puts behind the slots that it is given. -/
def slotsForm (n : Nat) (slots : List (Option Constant)) : Form (Array (Option Constant)) :=
  fun out bs => ∃ more, out.toList = slots ++ more ∧ more.length = n ∧ Laid more ∧
    (Form.of writeSlot).sequence more bs

theorem slotsForm_succ {n : Nat} {slots : List (Option Constant)} {out : Array (Option Constant)}
    {bs : Bytes} :
    slotsForm (n + 1) slots out bs ↔ ∃ c front, c.write = .ok front ∧ ∃ back,
      (width c ≤ n + 1 ∧ slotsForm (n + 1 - width c) (slots ++ slotsOf c) out back) ∧
      bs = front ++ back := by
  constructor
  · rintro ⟨more, ho, hl, hlaid, hs⟩
    have hne : more ≠ [] := by rintro rfl; cases hl
    obtain ⟨c, later, rfl, hlater⟩ := hlaid.exists_slotsOf hne
    obtain ⟨front, back, hf, hb, rfl⟩ := Form.sequence_append.1 hs
    rw [List.length_append, length_slotsOf] at hl
    exact ⟨c, front, sequence_slotsOf.1 hf, back,
      ⟨by omega, later, by rw [ho, List.append_assoc], by omega, hlater, hb⟩, rfl⟩
  · rintro ⟨c, front, hf, back, ⟨hw, later, ho, hl, hlaid, hs⟩, rfl⟩
    refine ⟨slotsOf c ++ later, by rw [ho, List.append_assoc], ?_, (laid_slotsOf c).append hlaid, ?_⟩
    · rw [List.length_append, length_slotsOf]
      omega
    · exact Form.sequence_append.2 ⟨front, back, sequence_slotsOf.2 hf, hs, rfl⟩

theorem reads_slots : (n : Nat) → (slots : Array (Option Constant)) →
    Reads (readSlots n slots) (slotsForm n slots.toList)
  | 0, slots => by
    refine (Reads.pure slots).congr fun out bs => ?_
    constructor
    · rintro ⟨rfl, rfl⟩
      exact ⟨[], (List.append_nil _).symm, rfl, .nil, rfl⟩
    · rintro ⟨more, ho, hl, -, hs⟩
      obtain rfl := List.length_eq_zero_iff.1 hl
      exact ⟨Array.ext' (by simpa using ho), hs⟩
  | n + 1, slots => by
    unfold readSlots
    refine (Constant.reads.bind (G := fun c out bs => width c ≤ n + 1 ∧
      slotsForm (n + 1 - width c) (slots.toList ++ slotsOf c) out bs) fun c => ?_).congr
      fun out bs => slotsForm_succ.symm
    refine .ite (fun hc => ?_) fun hc => ?_
    · rw [show width c = 2 from if_pos hc]
      match n with
      | 0 =>
        -- one slot is left, and no well-formed pool has half of a wide constant in it
        refine (Reads.fail _).congr fun out bs => ⟨False.elim, fun h => ?_⟩
        exact absurd h.1 (by decide)
      | n + 1 =>
        refine (reads_slots n _).congr fun out bs => ?_
        rw [Array.toList_push, Array.toList_push, List.append_assoc, slotsOf, if_pos hc]
        exact ⟨fun h => ⟨by omega, h⟩, fun h => h.2⟩
    · rw [show width c = 1 from if_neg hc]
      refine (reads_slots n _).congr fun out bs => ?_
      rw [Array.toList_push, slotsOf, if_neg hc]
      exact ⟨fun h => ⟨by omega, h⟩, fun h => h.2⟩

/-! ### Pools -/

theorem write_eq_ok {p : Pool} {bs : Bytes} :
    p.write = .ok bs ↔ ∃ body, (Form.of writeSlot).sequence p.slots.toList body ∧
      bs = Written.word16 p.countWord ++ body := by
  rw [write, bind_eq_ok]
  simp only [Written.all_eq_ok]
  constructor
  · rintro ⟨body, hb, ⟨⟩⟩
    exact ⟨body, hb, rfl⟩
  · rintro ⟨body, hb, rfl⟩
    exact ⟨body, hb, rfl⟩

/-- The unusable slot at index 0 is not written. -/
theorem sequence_cons_none {slots : List (Option Constant)} {bs : Bytes} :
    (Form.of writeSlot).sequence (none :: slots) bs ↔ (Form.of writeSlot).sequence slots bs := by
  constructor
  · rintro ⟨_, later, ⟨⟩, hs, rfl⟩
    exact hs
  · intro hs
    exact ⟨[], bs, rfl, hs, rfl⟩

/-- What is read is a well-formed pool, from the bytes that it is written as. -/
theorem reads : Reads read fun p bs => p.WellFormed ∧ p.write = .ok bs := by
  refine (Reads.u16.bind (G := fun w p bs => w ≠ 0 ∧ slotsForm (w.toNat - 1) [none] p.slots bs)
    fun w => ?_).congr fun p bs => ?_
  · refine .ite (fun hw => ?_) fun hw => ?_
    · exact (Reads.fail _).congr fun p bs => ⟨False.elim, fun h => absurd hw h.1⟩
    · refine ((reads_slots (w.toNat - 1) #[none]).map Pool.mk).congr fun p bs => ?_
      constructor
      · rintro ⟨out, h, rfl⟩
        exact ⟨hw, h⟩
      · rintro ⟨-, h⟩
        exact ⟨p.slots, h, rfl⟩
  · rw [write_eq_ok]
    constructor
    · rintro ⟨w, _, rfl, back, ⟨hw, more, ho, hl, hlaid, hs⟩, rfl⟩
      have hpos : w.toNat ≠ 0 := fun h => hw (UInt16.toNat_inj.1 h)
      have hlt := w.toNat_lt
      have hcount : p.count = w.toNat := by
        rw [count, ← Array.length_toList, ho, List.length_append, hl]
        simp
        omega
      have hp : p.WellFormed := ⟨⟨more, ho, hlaid⟩, by rw [hcount, limit]; omega⟩
      refine ⟨hp, back, ?_, by rw [countWord_eq hp, hcount, UInt16.ofNat_toNat]⟩
      rw [ho]
      exact sequence_cons_none.2 hs
    · rintro ⟨hp, body, hs, rfl⟩
      have hcount := toNat_count hp
      obtain ⟨more, ho, hlaid⟩ := hp.laid
      refine ⟨UInt16.ofNat p.count, _, rfl, body, ⟨?_, more, ho, ?_, hlaid, ?_⟩, ?_⟩
      · intro h
        have := hp.count_pos
        rw [← hcount, h] at this
        exact absurd this (by decide)
      · rw [hcount, count, ← Array.length_toList, ho]
        rfl
      · rw [ho] at hs
        exact sequence_cons_none.1 hs
      · rw [countWord_eq hp]

theorem Reachable.wellFormed {p : Pool} (h : p.Reachable) : p.WellFormed := by
  induction h with
  | empty => exact wellFormed_empty
  | read h =>
    obtain ⟨_, ⟨hp, -⟩, -⟩ := (reads _ _ _).1 h
    exact hp
  | add _ a ih => exact (a.grows ih).wellFormed

/-- The lengths of all text constants fit sixteen bits. -/
def TextsFit (p : Pool) : Prop :=
  ∀ bytes, some (.utf8 bytes) ∈ p.slots.toList → bytes.length ≤ 65535

theorem okIff_writeSlot (slot : Option Constant) :
    OkIff (writeSlot slot) (∀ c, slot = some c → c.Fits) := by
  cases slot with
  | none => exact (OkIff.pure _).congr (by simp)
  | some c => exact (Constant.okIff_write c).congr (by simp)

theorem okIff_write (p : Pool) : OkIff p.write p.TextsFit := by
  refine ((Written.okIff_all fun slot _ => okIff_writeSlot slot).map _).congr ?_
  constructor
  · intro h bytes hb
    exact h _ hb _ rfl
  · rintro h _ hc c rfl
    cases c with
    | utf8 bytes => exact h bytes hc
    | _ => trivial

/-- A well-formed pool is read from its written form. -/
theorem WellFormed.read_of_write {p : Pool} {bs : Bytes} (hp : p.WellFormed) (h : p.write = .ok bs) :
    ∃ d, read (Cursor.ofList bs) = .ok p d := by
  obtain ⟨d, hd, -⟩ := Cursor.exists_passes ((Cursor.rest_ofList bs).trans (List.append_nil bs).symm)
  exact ⟨d, (reads _ _ _).2 ⟨bs, ⟨hp, h⟩, hd⟩⟩

theorem WellFormed.reachable {p : Pool} (hp : p.WellFormed) (ht : p.TextsFit) : p.Reachable := by
  obtain ⟨bs, hbs⟩ := (okIff_write p).ok ht
  obtain ⟨d, hd⟩ := hp.read_of_write hbs
  exact .read hd

end Pool

end ScriptProxy.ClassFile
