import Mathlib.Data.List.TakeWhile
import ScriptProxy.ClassFile.Descriptor
import ScriptProxy.Proofs.Outcome

/-!
# The grammar of descriptors

A reader of kinds takes the characters of a well-formed kind from the front of a text, and nothing else
(`ValueKind.readFront_eq_ok`). So a text is read as a kind or a method type exactly if that is well
formed and written as the text: `ofDescriptor_grammar`.
-/

namespace ScriptProxy.ClassFile
open Outcome

namespace ValueKind
variable {whole : String} {cs rest : List Char} {k : ValueKind}

/-! ### Well-formed kinds -/

/-- A class name that a descriptor may hold. -/
structure ProperName (name : String) : Prop where
  nonempty : name ≠ ""
  noSemicolon : ';' ∉ name.toList
  noDot : '.' ∉ name.toList
  noBracket : '[' ∉ name.toList

/-- A kind that is no array, with a proper name if it is that of a class. -/
def Simple : ValueKind → Prop
  | primitive _ => True
  | object name => ProperName name
  | array _ => False

/-- The number of dimensions of an array kind. -/
def dimensions : ValueKind → Nat
  | array component => component.dimensions + 1
  | _ => 0

/-- The kind of what is in the last dimension of an array. -/
def element : ValueKind → ValueKind
  | array component => component.element
  | k => k

structure WellFormed (k : ValueKind) : Prop where
  dimensions_le : k.dimensions ≤ maxDimensions
  simple : k.element.Simple

theorem arrays_element : (k : ValueKind) → arrays k.dimensions k.element = k
  | primitive _ | object _ => rfl
  | array component => congrArg array (arrays_element component)

theorem chars_arrays (n : Nat) (k : ValueKind) :
    (arrays n k).chars = List.replicate n '[' ++ k.chars := by
  induction n with
  | zero => rfl
  | succ n ih => rw [arrays, chars, ih, List.replicate_succ, List.cons_append]

namespace Simple
variable (h : k.Simple)
include h

theorem dimensions_arrays (n : Nat) : (arrays n k).dimensions = n := by
  induction n with
  | zero =>
    cases k with
    | array => exact h.elim
    | _ => rfl
  | succ n ih => exact congrArg (· + 1) ih

theorem element_arrays (n : Nat) : (arrays n k).element = k := by
  induction n with
  | zero =>
    cases k with
    | array => exact h.elim
    | _ => rfl
  | succ n ih => exact ih

theorem wellFormed_arrays {n : Nat} (hn : n ≤ maxDimensions) : (arrays n k).WellFormed :=
  ⟨by rwa [h.dimensions_arrays], by rwa [h.element_arrays]⟩

theorem exists_chars : ∃ c tail, k.chars = c :: tail ∧ c ≠ '[' := by
  cases k with
  | primitive p => exact ⟨p.letter, [], rfl, by cases p <;> decide⟩
  | object name => exact ⟨'L', _, rfl, by decide⟩
  | array => exact h.elim

end Simple

/-- No kind is written with a character in front that has another meaning in a method descriptor. -/
theorem exists_chars (k : ValueKind) : ∃ c tail, k.chars = c :: tail ∧ c ≠ ')' ∧ c ≠ 'V' := by
  cases k with
  | primitive p => exact ⟨p.letter, [], rfl, by cases p <;> decide, by cases p <;> decide⟩
  | object name => exact ⟨'L', _, rfl, by decide, by decide⟩
  | array component => exact ⟨'[', _, rfl, by decide, by decide⟩

/-! ### Reading kinds -/

/-- What is taken from the front of a text and what is left, where the first character that is not
taken is known. -/
theorem takeWhile_dropWhile_append_cons {p : Char → Bool} {front : List Char} {c : Char}
    (hfront : ∀ d ∈ front, p d = true) (hc : ¬ p c = true) (rest : List Char) :
    (front ++ c :: rest).takeWhile p = front ∧ (front ++ c :: rest).dropWhile p = c :: rest := by
  rw [List.takeWhile_append_of_pos hfront, List.takeWhile_cons_of_neg hc, List.append_nil,
    List.dropWhile_append_of_pos hfront, List.dropWhile_cons_of_neg hc]
  exact ⟨rfl, rfl⟩

theorem properName_ofList {name : List Char} :
    ProperName (String.ofList name) ↔
      ';' ∉ name ∧ ¬ ((name.isEmpty || name.any fun c => c == '.' || c == '[') = true) := by
  simp only [Bool.or_eq_true, List.isEmpty_iff, List.any_eq_true, beq_iff_eq, not_or, not_exists,
    not_and]
  constructor
  · rintro ⟨hne, hsemicolon, hdot, hbracket⟩
    rw [String.toList_ofList] at hsemicolon hdot hbracket
    refine ⟨hsemicolon, ?_, fun c hc => ⟨?_, ?_⟩⟩
    · rintro rfl
      exact hne rfl
    · rintro rfl
      exact hdot hc
    · rintro rfl
      exact hbracket hc
  · rintro ⟨hsemicolon, hne, hother⟩
    constructor
    · exact fun h => hne (by simpa using congrArg String.toList h)
    all_goals rw [String.toList_ofList]
    · exact hsemicolon
    · exact fun hc => (hother _ hc).1 rfl
    · exact fun hc => (hother _ hc).2 rfl

/-- The name of a class ends at the first semicolon. -/
theorem readElement_object_eq_ok :
    readElement whole ('L' :: cs) = .ok (k, rest) ↔
      ∃ name, cs = name ++ ';' :: rest ∧ k = object (String.ofList name) ∧
        ProperName (String.ofList name) := by
  rw [readElement, show Primitive.ofLetter? 'L' = none from rfl]
  simp only [if_true]
  constructor
  · intro h
    have hsplit := List.takeWhile_append_dropWhile (p := (· != ';')) (l := cs)
    split at h
    · cases h
    next last after hafter =>
    have hlast : last = ';' := by
      have hnot := List.head_dropWhile_not (· != ';') (l := cs) (by rw [hafter]; simp)
      simpa [hafter] using hnot
    split at h
    · cases h
    next hproper =>
    cases h
    rw [hafter, hlast] at hsplit
    refine ⟨_, hsplit.symm, rfl, properName_ofList.2 ⟨fun hm => ?_, hproper⟩⟩
    simpa using List.mem_takeWhile_imp hm
  · rintro ⟨name, rfl, rfl, hname⟩
    obtain ⟨hsemicolon, hproper⟩ := properName_ofList.1 hname
    have hfront : ∀ c ∈ name, (c != ';') = true := fun c hc => by
      rw [bne_iff_ne]
      rintro rfl
      exact hsemicolon hc
    obtain ⟨htake, hdrop⟩ :=
      takeWhile_dropWhile_append_cons (p := (· != ';')) (c := ';') hfront (by decide) rest
    simp only [htake, hdrop, if_neg hproper]

theorem readElement_eq_ok :
    readElement whole cs = .ok (k, rest) ↔ cs = k.chars ++ rest ∧ k.Simple := by
  constructor
  · intro h
    cases cs with
    | nil => cases h
    | cons c cs =>
      by_cases hL : c = 'L'
      · subst hL
        obtain ⟨name, rfl, rfl, hname⟩ := readElement_object_eq_ok.1 h
        exact ⟨by simp [chars], hname⟩
      · rw [readElement] at h
        cases hp : Primitive.ofLetter? c with
        | some p =>
          rw [hp] at h
          cases h
          rw [Primitive.ofLetter?_eq_some_iff.1 hp]
          exact ⟨rfl, trivial⟩
        | none =>
          simp only [hp, if_neg hL] at h
          split at h <;> cases h
  · rintro ⟨rfl, hk⟩
    cases k with
    | primitive p =>
      rw [chars, List.singleton_append, readElement]
      simp only [Primitive.ofLetter?_eq_some_iff.2 rfl]
    | object name =>
      rw [chars, List.cons_append, List.append_assoc, List.singleton_append]
      refine readElement_object_eq_ok.2 ⟨name.toList, rfl, ?_⟩
      rw [String.ofList_toList]
      exact ⟨rfl, hk⟩
    | array => exact hk.elim

theorem readFront_eq_ok :
    readFront whole cs = .ok (k, rest) ↔ cs = k.chars ++ rest ∧ k.WellFormed := by
  unfold readFront
  dsimp only
  constructor
  · intro h
    split at h
    · cases h
    next hdimensions =>
    split at h
    · next e rest he =>
      cases h
      obtain ⟨hafter, hsimple⟩ := readElement_eq_ok.1 he
      have hopen : cs.takeWhile (· == '[') = List.replicate (cs.takeWhile (· == '[')).length '[' :=
        List.eq_replicate_iff.2 ⟨rfl, fun c hc => by simpa using List.mem_takeWhile_imp hc⟩
      refine ⟨?_, hsimple.wellFormed_arrays (Nat.le_of_not_lt hdimensions)⟩
      rw [chars_arrays, List.append_assoc, ← hafter, ← hopen, List.takeWhile_append_dropWhile]
    · cases h
  · rintro ⟨rfl, hk⟩
    obtain ⟨c, tail, hc, hne⟩ := hk.simple.exists_chars
    have hchars : k.chars ++ rest = List.replicate k.dimensions '[' ++ (k.element.chars ++ rest) := by
      rw [← List.append_assoc, ← chars_arrays, arrays_element]
    have hopen : ∀ d ∈ List.replicate k.dimensions '[', (d == '[') = true := fun d hd => by
      rw [List.eq_of_mem_replicate hd, BEq.rfl]
    obtain ⟨htake, hdrop⟩ := takeWhile_dropWhile_append_cons (p := (· == '[')) hopen
      (by simpa using hne) (tail ++ rest)
    rw [← List.cons_append, ← hc, ← hchars] at htake hdrop
    rw [htake, hdrop, List.length_replicate, if_neg (Nat.not_lt.2 hk.dimensions_le),
      readElement_eq_ok.2 ⟨rfl, hk.simple⟩]
    exact congrArg (fun a => Except.ok (a, rest)) (arrays_element k)

theorem ofDescriptor_eq_ok_iff {d : String} :
    ofDescriptor d = .ok k ↔ k.descriptor = d ∧ k.WellFormed := by
  rw [ofDescriptor, bind_eq_ok, descriptor, ← String.toList_inj, String.toList_ofList]
  constructor
  · rintro ⟨⟨k', rest⟩, hfront, h⟩
    obtain ⟨hd, hk⟩ := readFront_eq_ok.1 hfront
    dsimp only at h
    split at h
    · next hrest =>
      cases h
      rw [List.isEmpty_iff.1 hrest, List.append_nil] at hd
      exact ⟨hd.symm, hk⟩
    · cases h
  · rintro ⟨hd, hk⟩
    exact ⟨(k, []), readFront_eq_ok.2 ⟨by rw [hd, List.append_nil], hk⟩, rfl⟩

end ValueKind

namespace MethodType
variable {whole : String} {cs rest : List Char}

/-- No kind in the type is malformed. That no parameter is void need not be said: no kind of a value is. -/
structure WellFormed (t : MethodType) : Prop where
  parameters : ∀ k ∈ t.parameters, k.WellFormed
  result : ∀ k, t.result = .value k → k.WellFormed

theorem readParameters_eq_ok {before ks : List ValueKind} :
    readParameters whole cs before = .ok (ks, rest) ↔
      ∃ more, ks = before.reverse ++ more ∧ cs = more.flatMap ValueKind.chars ++ ')' :: rest ∧
        ∀ k ∈ more, k.WellFormed := by
  constructor
  · intro h
    fun_induction readParameters whole cs before with
    | case1 => cases h
    | case2 rest before =>
      cases h
      exact ⟨[], by simp, rfl, nofun⟩
    | case3 before c cs _ k rest hfront _ ih =>
      obtain ⟨more, rfl, hrest, hmore⟩ := ih h
      obtain ⟨hcs, hk⟩ := ValueKind.readFront_eq_ok.1 hfront
      refine ⟨k :: more, by simp, ?_, List.forall_mem_cons.2 ⟨hk, hmore⟩⟩
      rw [hcs, hrest, List.flatMap_cons, List.append_assoc]
    | case4 => cases h
  · rintro ⟨more, rfl, rfl, hmore⟩
    induction more generalizing before with
    | nil =>
      rw [List.flatMap_nil, List.nil_append, readParameters, List.append_nil]
    | cons k more ih =>
      obtain ⟨hk, hmore⟩ := List.forall_mem_cons.1 hmore
      have hfront : ValueKind.readFront whole
          (k.chars ++ (more.flatMap ValueKind.chars ++ ')' :: rest)) =
            .ok (k, more.flatMap ValueKind.chars ++ ')' :: rest) :=
        ValueKind.readFront_eq_ok.2 ⟨rfl, hk⟩
      obtain ⟨c, tail, hc, hne, -⟩ := k.exists_chars
      rw [List.flatMap_cons, List.append_assoc]
      rw [hc, List.cons_append] at hfront ⊢
      rw [readParameters]
      · split
        · next k' rest' h =>
          rw [hfront] at h
          cases h
          rw [ih hmore, List.reverse_cons, List.append_assoc, List.singleton_append]
        · next f h =>
          rw [hfront] at h
          cases h
      · exact hne

theorem readResult_eq_ok {r : ReturnKind} :
    readResult whole cs = .ok r ↔ cs = r.chars ∧ ∀ k, r = .value k → k.WellFormed := by
  unfold readResult
  constructor
  · intro h
    split at h
    · next hv =>
      cases h
      exact ⟨hv, nofun⟩
    · obtain ⟨⟨k, rest⟩, hfront, h⟩ := bind_eq_ok.1 h
      obtain ⟨hcs, hk⟩ := ValueKind.readFront_eq_ok.1 hfront
      dsimp only at h
      split at h
      · next hrest =>
        cases h
        rw [List.isEmpty_iff.1 hrest, List.append_nil] at hcs
        refine ⟨hcs, ?_⟩
        rintro _ ⟨⟩
        exact hk
      · cases h
  · rintro ⟨rfl, hr⟩
    cases r with
    | void => rfl
    | value k =>
      obtain ⟨c, tail, hc, -, hne⟩ := k.exists_chars
      have hv : (ReturnKind.value k).chars ≠ ['V'] := by
        rw [ReturnKind.chars, hc]
        exact fun h => hne (List.cons.inj h).1
      rw [if_neg hv]
      refine bind_eq_ok.2 ⟨(k, []), ValueKind.readFront_eq_ok.2 ⟨?_, hr k rfl⟩, rfl⟩
      rw [List.append_nil]
      rfl

theorem ofDescriptor_eq_ok_iff {d : String} {t : MethodType} :
    ofDescriptor d = .ok t ↔ t.descriptor = d ∧ t.WellFormed := by
  rw [descriptor, ← String.toList_inj, String.toList_ofList]
  unfold ofDescriptor
  constructor
  · intro h
    split at h
    · next cs hd =>
      obtain ⟨⟨ks, rest⟩, hks, h⟩ := bind_eq_ok.1 h
      obtain ⟨r, hr, h⟩ := bind_eq_ok.1 h
      cases h
      obtain ⟨more, rfl, hcs, hmore⟩ := readParameters_eq_ok.1 hks
      obtain ⟨hrest, hresult⟩ := readResult_eq_ok.1 hr
      rw [hd, hcs, hrest]
      exact ⟨rfl, hmore, hresult⟩
    · cases h
  · rintro ⟨hd, hparameters, hresult⟩
    rw [← hd, chars]
    refine bind_eq_ok.2 ⟨(t.parameters, t.result.chars), ?_, ?_⟩
    · exact readParameters_eq_ok.2 ⟨t.parameters, rfl, rfl, hparameters⟩
    · exact bind_eq_ok.2 ⟨t.result, readResult_eq_ok.2 ⟨rfl, hresult⟩, rfl⟩

theorem toList_of_ofDescriptor {d : String} {t : MethodType} (h : ofDescriptor d = .ok t) :
    d.toList = t.chars := by
  rw [← (ofDescriptor_eq_ok_iff.1 h).1, descriptor, String.toList_ofList]

end MethodType

/-- The descriptors that are read are the written forms of the well-formed method types and kinds, and
each is read as what it is the written form of. So no two of these are written alike. -/
theorem ofDescriptor_grammar :
    (∀ d t, MethodType.ofDescriptor d = .ok t ↔ t.descriptor = d ∧ t.WellFormed) ∧
    (∀ d k, ValueKind.ofDescriptor d = .ok k ↔ k.descriptor = d ∧ k.WellFormed) ∧
    (∀ t u : MethodType, t.WellFormed → u.WellFormed → t.descriptor = u.descriptor → t = u) ∧
    ∀ k l : ValueKind, k.WellFormed → l.WellFormed → k.descriptor = l.descriptor → k = l := by
  refine ⟨fun _ _ => MethodType.ofDescriptor_eq_ok_iff, fun _ _ => ValueKind.ofDescriptor_eq_ok_iff,
    fun t u ht hu h => ?_, fun k l hk hl h => ?_⟩
  · have hread := MethodType.ofDescriptor_eq_ok_iff.2 ⟨rfl, ht⟩
    rw [h, MethodType.ofDescriptor_eq_ok_iff.2 ⟨rfl, hu⟩] at hread
    exact (Except.ok.inj hread).symm
  · have hread := ValueKind.ofDescriptor_eq_ok_iff.2 ⟨rfl, hk⟩
    rw [h, ValueKind.ofDescriptor_eq_ok_iff.2 ⟨rfl, hl⟩] at hread
    exact (Except.ok.inj hread).symm

/-- A name may hold what has a meaning elsewhere in a descriptor. -/
example : MethodType.ofDescriptor "(IL)ä(V;[[J)V" =
    .ok ⟨[.primitive .int, .object ")ä(V", .array (.array (.primitive .long))], .void⟩ := by cbv

end ScriptProxy.ClassFile
