import ScriptProxy.ClassFile.Pool
import ScriptProxy.Proofs.Outcome

/-!
# The shape of constant pools

Every pool that is read or made has an unusable slot at index 0 and one behind each long or double
constant, and nowhere else, and at most 65535 slots: `Pool.WellFormed`. Pools only grow, at their
end: `Pool.Extends`. What an index refers to in a pool, it refers to in every pool that extends it.
-/

namespace ScriptProxy.ClassFile.Pool
open Outcome

/-- Constants in their slots, each wide one with an unusable slot behind it. -/
inductive Laid : List (Option Constant) → Prop where
  | nil : Laid []
  | narrow {c : Constant} {slots : List (Option Constant)} (hc : c.isWide = false) (hs : Laid slots) :
    Laid (some c :: slots)
  | wide {c : Constant} {slots : List (Option Constant)} (hc : c.isWide = true) (hs : Laid slots) :
    Laid (some c :: none :: slots)

theorem Laid.append {slots more : List (Option Constant)} (h : Laid slots) (hm : Laid more) :
    Laid (slots ++ more) := by
  induction h with
  | nil => exact hm
  | narrow hc _ ih => exact ih.narrow hc
  | wide hc _ ih => exact ih.wide hc

/-- The slots that a constant at the end of a pool takes up. -/
def slotsOf (c : Constant) : List (Option Constant) := if c.isWide then [some c, none] else [some c]

theorem laid_slotsOf (c : Constant) : Laid (slotsOf c) := by
  unfold slotsOf
  split
  · next hc => exact Laid.nil.wide hc
  · next hc => exact Laid.nil.narrow (by simpa using hc)

theorem length_slotsOf (c : Constant) : (slotsOf c).length = width c := by
  unfold slotsOf width
  split <;> rfl

structure WellFormed (p : Pool) : Prop where
  laid : ∃ more, p.slots.toList = none :: more ∧ Laid more
  count_le : p.count ≤ limit

theorem wellFormed_empty : empty.WellFormed := ⟨⟨[], rfl, .nil⟩, by decide⟩

theorem WellFormed.count_pos {p : Pool} (h : p.WellFormed) : 0 < p.count := by
  obtain ⟨more, hs, -⟩ := h.laid
  rw [count, ← Array.length_toList, hs]
  exact Nat.succ_pos _

/-! ### Growth -/

/-- `q` is `p` with more slots at its end. -/
def Extends (p q : Pool) : Prop := p.slots.toList <+: q.slots.toList

variable {p q r : Pool} {i : UInt16}

theorem Extends.refl (p : Pool) : p.Extends p := List.prefix_refl _

theorem Extends.trans (h : p.Extends q) (h' : q.Extends r) : p.Extends r := List.IsPrefix.trans h h'

theorem get_eq_ok {c : Constant} : p.get i = .ok c ↔ p.slots[i.toNat]? = some (some c) := by
  unfold get
  split
  · next h => rw [h]; simp
  · next h =>
    constructor
    · intro hc; cases hc
    · intro hc; exact absurd hc (h c)

theorem Extends.get (h : p.Extends q) {c : Constant} (hc : p.get i = .ok c) : q.get i = .ok c := by
  rw [get_eq_ok, ← Array.getElem?_toList] at hc ⊢
  obtain ⟨more, hs⟩ := h
  rw [← hs, List.getElem?_append_left (List.getElem?_eq_some_iff.1 hc).1]
  exact hc

theorem text_eq_ok {s : String} :
    p.text i = .ok s ↔ ∃ bytes, p.get i = .ok (.utf8 bytes) ∧
      Text.ModifiedUtf8.decode bytes = .ok s := by
  rw [text, bind_eq_ok]
  constructor
  · rintro ⟨c, hc, hs⟩
    split at hs
    · exact ⟨_, hc, hs⟩
    · cases hs
  · rintro ⟨bytes, hc, hs⟩
    exact ⟨_, hc, hs⟩

theorem className_eq_ok {s : String} :
    p.className i = .ok s ↔ ∃ name, p.get i = .ok (.classRef name) ∧ p.text name = .ok s := by
  rw [className, bind_eq_ok]
  constructor
  · rintro ⟨c, hc, hs⟩
    split at hs
    · exact ⟨_, hc, hs⟩
    · cases hs
  · rintro ⟨name, hc, hs⟩
    exact ⟨_, hc, hs⟩

theorem methodParts_eq_ok {parts : UInt16 × UInt16} :
    p.methodParts i = .ok parts ↔
      p.get i = .ok (.methodRef parts.1 parts.2) ∨
      p.get i = .ok (.interfaceMethodRef parts.1 parts.2) := by
  rw [methodParts, bind_eq_ok]
  constructor
  · rintro ⟨c, hc, hs⟩
    split at hs
    · cases hs; exact .inl hc
    · cases hs; exact .inr hc
    · cases hs
  · rintro (hc | hc)
    · exact ⟨_, hc, rfl⟩
    · exact ⟨_, hc, rfl⟩

theorem method_eq_ok {m : MethodSymbol} :
    p.method i = .ok m ↔ ∃ owner nameAndType name descriptor,
      p.methodParts i = .ok (owner, nameAndType) ∧
      p.get nameAndType = .ok (.nameAndType name descriptor) ∧
      p.className owner = .ok m.owner ∧ p.text name = .ok m.name ∧
      p.text descriptor = .ok m.descriptor := by
  rw [method, bind_eq_ok]
  constructor
  · rintro ⟨⟨owner, nameAndType⟩, hp, h⟩
    obtain ⟨c, hc, h⟩ := bind_eq_ok.1 h
    split at h
    · next name descriptor =>
      obtain ⟨o, ho, h⟩ := bind_eq_ok.1 h
      obtain ⟨n, hn, h⟩ := bind_eq_ok.1 h
      obtain ⟨d, hd, h⟩ := bind_eq_ok.1 h
      cases h
      exact ⟨owner, nameAndType, name, descriptor, hp, hc, ho, hn, hd⟩
    · cases h
  · rintro ⟨owner, nameAndType, name, descriptor, hp, hc, ho, hn, hd⟩
    refine ⟨_, hp, bind_eq_ok.2 ⟨_, hc, ?_⟩⟩
    exact bind_eq_ok.2 ⟨_, ho, bind_eq_ok.2 ⟨_, hn, bind_eq_ok.2 ⟨_, hd, rfl⟩⟩⟩

namespace Extends
variable (h : p.Extends q)
include h

theorem text {s : String} (hs : p.text i = .ok s) : q.text i = .ok s := by
  obtain ⟨bytes, hc, hd⟩ := text_eq_ok.1 hs
  exact text_eq_ok.2 ⟨bytes, h.get hc, hd⟩

theorem className {s : String} (hs : p.className i = .ok s) : q.className i = .ok s := by
  obtain ⟨name, hc, hn⟩ := className_eq_ok.1 hs
  exact className_eq_ok.2 ⟨name, h.get hc, h.text hn⟩

theorem methodParts {parts : UInt16 × UInt16} (hp : p.methodParts i = .ok parts) :
    q.methodParts i = .ok parts :=
  methodParts_eq_ok.2 ((methodParts_eq_ok.1 hp).imp h.get h.get)

theorem method {m : MethodSymbol} (hm : p.method i = .ok m) : q.method i = .ok m := by
  obtain ⟨owner, nameAndType, name, descriptor, hp, hc, ho, hn, hd⟩ := method_eq_ok.1 hm
  exact method_eq_ok.2 ⟨owner, nameAndType, name, descriptor, h.methodParts hp, h.get hc,
    h.className ho, h.text hn, h.text hd⟩

end Extends

end ScriptProxy.ClassFile.Pool
