import ScriptProxy.Proofs.ClassFile.PoolShape
import ScriptProxy.Proofs.Text.ModifiedUtf8

/-!
# Adding to constant pools

Whether it succeeds or fails, an edit of a pool only adds slots at its end and keeps the pool well
formed, and an index that it gives refers to what was to be added: `Grows`. A pool is reachable if it
is empty or was read, and constants were added to it since.
-/

namespace ScriptProxy.ClassFile.Pool
open Outcome Text

variable {α β : Type} {p : Pool}

/-- What comes out of an edit of `p`. If it is a value, `Q` holds of it and of the pool then. -/
structure Grows (p : Pool) (out : EStateM.Result Failure Pool α) (Q : α → Pool → Prop) : Prop where
  wellFormed : (left out).WellFormed
  extends_left : p.Extends (left out)
  found : ∀ a q, out = .ok a q → Q a q

namespace Grows
variable {out : EStateM.Result Failure Pool α} {Q R : α → Pool → Prop}

theorem imp (h : Grows p out Q) (hQ : ∀ a q, q.WellFormed → p.Extends q → Q a q → R a q) :
    Grows p out R := by
  refine ⟨h.wellFormed, h.extends_left, ?_⟩
  rintro a q rfl
  exact hQ a q h.wellFormed h.extends_left (h.found a q rfl)

theorem pure (hp : p.WellFormed) (a : α) (ha : Q a p) : Grows p (.ok a p) Q := by
  refine ⟨hp, .refl p, ?_⟩
  rintro b q ⟨⟩
  exact ha

theorem throw (hp : p.WellFormed) (f : Failure) : Grows p (.error f p) Q :=
  ⟨hp, .refl p, fun _ _ h => nomatch h⟩

theorem bind {x : Edit α} {f : α → Edit β} {R : β → Pool → Prop} (hx : Grows p (x p) Q)
    (hf : ∀ a q, q.WellFormed → p.Extends q → Q a q → Grows q (f a q) R) :
    Grows p ((x >>= f) p) R := by
  show Grows p (EStateM.bind x f p) R
  unfold EStateM.bind
  split
  · next a q ha =>
    rw [ha] at hx
    have hfa := hf a q hx.wellFormed hx.extends_left (hx.found a q rfl)
    exact ⟨hfa.wellFormed, hx.extends_left.trans hfa.extends_left, hfa.found⟩
  · next f q ha =>
    rw [ha] at hx
    exact ⟨hx.wellFormed, hx.extends_left, fun _ _ h => nomatch h⟩

end Grows

/-! ### The operations -/

theorem push_eq {c : Constant} (h : p.count + width c ≤ limit) :
    ∃ q, push c p = .ok (UInt16.ofNat p.count) q ∧ q.slots.toList = p.slots.toList ++ slotsOf c := by
  rw [push, if_pos h]
  refine ⟨_, rfl, ?_⟩
  unfold slotsOf
  split <;> simp

section
variable (hp : p.WellFormed)
include hp

theorem toNat_count : (UInt16.ofNat p.count).toNat = p.count := by
  have h : p.count ≤ 65535 := hp.count_le
  rw [UInt16.toNat_ofNat', Nat.mod_eq_of_lt (by omega)]

/-- The count of a pool fits the sixteen bits in which files hold it. -/
theorem countWord_eq : p.countWord = UInt16.ofNat p.count := by
  have h : p.count ≤ 65535 := hp.count_le
  rw [countWord, if_pos (by rw [UInt16.size]; omega)]

theorem grows_push (c : Constant) : Grows p (push c p) fun i q => q.get i = .ok c := by
  by_cases h : p.count + width c ≤ limit
  · obtain ⟨q, hq, hs⟩ := push_eq h
    rw [hq]
    refine ⟨⟨?_, ?_⟩, ⟨slotsOf c, hs.symm⟩, ?_⟩
    · obtain ⟨more, hm, laid⟩ := hp.laid
      exact ⟨more ++ slotsOf c, by rw [left, hs, hm]; rfl, laid.append (laid_slotsOf c)⟩
    · show q.slots.size ≤ limit
      rw [← Array.length_toList, hs, List.length_append, length_slotsOf]
      exact h
    · rintro i r ⟨⟩
      rw [get_eq_ok, toNat_count hp, ← Array.getElem?_toList, hs, count, ← Array.length_toList,
        List.getElem?_append_right (Nat.le_refl _), Nat.sub_self, slotsOf]
      split <;> rfl
  · rw [push, if_neg h]
    exact Grows.throw hp _

theorem get_of_find? {c : Constant} {i : Nat} (h : p.find? c = some i) :
    p.get (UInt16.ofNat i) = .ok c := by
  obtain ⟨hi, hc, -⟩ := Array.findIdx?_eq_some_iff_getElem.1 h
  have hcount : p.slots.size ≤ 65535 := hp.count_le
  rw [get_eq_ok, UInt16.toNat_ofNat', Nat.mod_eq_of_lt (by omega), Array.getElem?_eq_getElem hi,
    eq_of_beq hc]

theorem grows_intern (c : Constant) : Grows p (intern c p) fun i q => q.get i = .ok c := by
  unfold intern
  split
  · next i hi => exact Grows.pure hp _ (get_of_find? hp hi)
  · exact grows_push hp c

theorem grows_addText (s : String) : Grows p (addText s p) fun i q => q.text i = .ok s :=
  (grows_intern hp _).imp fun _ _ _ _ hi => text_eq_ok.2 ⟨_, hi, ModifiedUtf8.decode_encode s⟩

theorem grows_addClass (name : String) :
    Grows p (addClass name p) fun i q => q.className i = .ok name :=
  (grows_addText hp name).bind fun _ _ hq _ ht =>
    (grows_intern hq _).imp fun _ _ _ hqr hi => className_eq_ok.2 ⟨_, hi, hqr.text ht⟩

theorem grows_addString (s : String) :
    Grows p (addString s p) fun i q => ∃ text, q.get i = .ok (.string text) ∧ q.text text = .ok s :=
  (grows_addText hp s).bind fun _ _ hq _ ht =>
    (grows_intern hq _).imp fun _ _ _ hqr hi => ⟨_, hi, hqr.text ht⟩

theorem grows_addInteger (v : Int32) : Grows p (addInteger v p) fun i q => q.get i = .ok (.integer v) :=
  grows_intern hp _

theorem grows_addNameAndType (name descriptor : String) :
    Grows p (addNameAndType name descriptor p) fun i q => ∃ n d,
      q.get i = .ok (.nameAndType n d) ∧ q.text n = .ok name ∧ q.text d = .ok descriptor :=
  (grows_addText hp name).bind fun n _ hq _ hn =>
    (grows_addText hq descriptor).bind fun d _ hr hqr hd =>
      (grows_intern hr _).imp fun _ _ _ hrs hi =>
        ⟨n, d, hi, (hqr.trans hrs).text hn, hrs.text hd⟩

theorem grows_addMethod (m : MethodSymbol) : Grows p (addMethod m p) fun i q => q.method i = .ok m :=
  (grows_addClass hp m.owner).bind fun owner _ hq _ ho =>
    (grows_addNameAndType hq m.name m.descriptor).bind fun nameAndType _ hr hqr hnt =>
      (grows_intern hr _).imp fun _ _ _ hrs hi => by
        obtain ⟨n, d, hc, hn, hd⟩ := hnt
        exact method_eq_ok.2 ⟨owner, nameAndType, n, d, methodParts_eq_ok.2 (.inl hi), hrs.get hc,
          (hqr.trans hrs).className ho, hrs.text hn, hrs.text hd⟩

end

/-! ### Reachable pools -/

/-- An operation that adds a constant, and those that it refers to. -/
inductive Addition where
  | text (s : String)
  | classRef (name : String)
  | string (s : String)
  | integer (v : Int32)
  | nameAndType (name descriptor : String)
  | method (m : MethodSymbol)

namespace Addition

def edit : Addition → Edit UInt16
  | text s => addText s
  | classRef name => addClass name
  | string s => addString s
  | integer v => addInteger v
  | nameAndType name descriptor => addNameAndType name descriptor
  | method m => addMethod m

/-- What the index refers to in the pool is what was to be added. -/
def Names (i : UInt16) (q : Pool) : Addition → Prop
  | text s => q.text i = .ok s
  | classRef name => q.className i = .ok name
  | string s => ∃ text, q.get i = .ok (.string text) ∧ q.text text = .ok s
  | integer v => q.get i = .ok (.integer v)
  | nameAndType name descriptor => ∃ n d,
    q.get i = .ok (.nameAndType n d) ∧ q.text n = .ok name ∧ q.text d = .ok descriptor
  | method m => q.method i = .ok m

theorem grows (hp : p.WellFormed) (a : Addition) : Grows p (a.edit p) fun i q => a.Names i q := by
  cases a with
  | text s => exact grows_addText hp s
  | classRef name => exact grows_addClass hp name
  | string s => exact grows_addString hp s
  | integer v => exact grows_addInteger hp v
  | nameAndType n d => exact grows_addNameAndType hp n d
  | method m => exact grows_addMethod hp m

end Addition

/-- The pools that come from reading or from nothing by additions, of which some may fail. -/
inductive Reachable : Pool → Prop where
  | empty : Reachable empty
  | read {c d : Cursor} {p : Pool} (h : Pool.read c = .ok p d) : Reachable p
  | add {p : Pool} (h : Reachable p) (a : Addition) : Reachable (left (a.edit p))

end ScriptProxy.ClassFile.Pool
