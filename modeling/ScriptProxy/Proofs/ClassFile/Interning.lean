import ScriptProxy.Proofs.ClassFile.PoolCodec

/-!
# Interning constants

An edit that adds a constant gives the first index that holds it, and the first index stays the first
while the pool grows (`Extends.first`). So an edit that has succeeded does the same in every later pool
and adds nothing there: `Settles`. No constant stands twice in a pool that was made by additions only:
`Distinct`. `interning` puts it all together.
-/

namespace ScriptProxy.ClassFile.Pool
open Outcome

variable {α β : Type} {p q r : Pool} {c : Constant} {i : UInt16}

/-! ### The first index of a constant -/

/-- The constant is found at the index. -/
def First (p : Pool) (c : Constant) (i : UInt16) : Prop := p.find? c = some i.toNat

theorem find?_eq (p : Pool) (c : Constant) :
    p.find? c = p.slots.toList.findIdx? (· == some c) := by
  rw [find?, ← List.findIdx?_toArray]

theorem find?_eq_none : p.find? c = none ↔ some c ∉ p.slots.toList := by
  rw [find?_eq, List.findIdx?_eq_none_iff]
  exact ⟨fun h hc => by simpa using h _ hc, fun h slot hs => beq_false_of_ne (by rintro rfl; exact h hs)⟩

theorem first_iff : p.First c i ↔ p.get i = .ok c ∧ ∀ j, p.get j = .ok c → i ≤ j := by
  simp only [First, find?_eq, List.findIdx?_eq_some_iff_getElem, get_eq_ok, ← Array.getElem?_toList,
    UInt16.le_iff_toNat_le]
  constructor
  · rintro ⟨hi, hc, hbefore⟩
    refine ⟨List.getElem?_eq_some_iff.2 ⟨hi, eq_of_beq hc⟩, fun j hj => Nat.le_of_not_lt fun hlt => ?_⟩
    obtain ⟨hj, hc⟩ := List.getElem?_eq_some_iff.1 hj
    exact hbefore j.toNat hlt (by simp [hc])
  · rintro ⟨hc, hleast⟩
    obtain ⟨hi, hc⟩ := List.getElem?_eq_some_iff.1 hc
    refine ⟨hi, by simp [hc], fun j hj hcj => ?_⟩
    -- an index before `i` is a word of sixteen bits as `i` is
    have hword : (UInt16.ofNat j).toNat = j :=
      UInt16.toNat_ofNat_of_lt (Nat.lt_trans hj i.toNat_lt)
    have hle := hleast (UInt16.ofNat j) (by
      rw [hword]
      exact List.getElem?_eq_some_iff.2 ⟨Nat.lt_trans hj hi, eq_of_beq hcj⟩)
    omega

theorem Extends.first (h : p.Extends q) (hi : p.First c i) : q.First c i := by
  obtain ⟨more, hs⟩ := h
  rw [First, find?_eq] at hi ⊢
  rw [← hs, List.findIdx?_append, hi]
  rfl

theorem intern_of_first (h : p.First c i) : intern c p = .ok i p := by
  unfold intern
  rw [h]
  exact congrArg (EStateM.Result.ok · p) (UInt16.ofNat_toNat)

/-- Interning gives the first index of the constant. -/
theorem grows_first (hp : p.WellFormed) (c : Constant) :
    Grows p (intern c p) fun i q => q.First c i := by
  refine ⟨(grows_intern hp c).wellFormed, (grows_intern hp c).extends_left, fun i q h => ?_⟩
  unfold intern at h
  split at h
  · next n hn =>
    cases h
    have hcount : p.slots.size ≤ 65535 := hp.count_le
    have hlt : n < p.slots.size := (Array.findIdx?_eq_some_iff_getElem.1 hn).1
    rw [First, UInt16.toNat_ofNat', Nat.mod_eq_of_lt (by omega)]
    exact hn
  · next hnone =>
    by_cases hroom : p.count + width c ≤ limit
    · obtain ⟨q', hq, hs⟩ := push_eq hroom
      rw [hq] at h
      cases h
      rw [find?_eq] at hnone
      rw [First, find?_eq, hs, List.findIdx?_append, hnone, toNat_count hp]
      have hhead : (slotsOf c).findIdx? (· == some c) = some 0 := by
        unfold slotsOf
        split <;> simp [List.findIdx?_cons]
      rw [hhead]
      simp [count]
    · rw [push, if_neg hroom] at h
      cases h

/-- The pool has the constant already, or room for it. -/
def Admits (p : Pool) (c : Constant) : Prop := (∃ i, p.get i = .ok c) ∨ p.count + width c ≤ limit

theorem find?_eq_none_iff_get (hp : p.WellFormed) : p.find? c = none ↔ ¬ ∃ i, p.get i = .ok c := by
  constructor
  · rintro hnone ⟨i, hi⟩
    exact find?_eq_none.1 hnone (Array.mem_def.1 (Array.mem_of_getElem? (get_eq_ok.1 hi)))
  · intro habsent
    cases hn : p.find? c with
    | none => rfl
    | some n => exact absurd ⟨_, get_of_find? hp hn⟩ habsent

theorem Admits.intern (h : p.Admits c) (hp : p.WellFormed) : ∃ i q, intern c p = .ok i q := by
  unfold Pool.intern
  split
  · next n _ => exact ⟨UInt16.ofNat n, p, rfl⟩
  · next hnone =>
    have hroom := h.resolve_left ((find?_eq_none_iff_get hp).1 hnone)
    obtain ⟨q, hq, -⟩ := push_eq hroom
    exact ⟨_, q, hq⟩

/-- A full pool refuses what it does not hold, and stays as it is. -/
theorem intern_of_not_admits (h : ¬ p.Admits c) (hp : p.WellFormed) :
    Pool.intern c p = .error (.notSupported .fullPool) p := by
  rw [Admits, not_or] at h
  unfold Pool.intern
  rw [(find?_eq_none_iff_get hp).2 h.1]
  exact if_neg h.2

/-- An addition is interning after interning, of constants that take up one slot. -/
theorem Addition.edit_induction {motive : Edit UInt16 → Prop}
    (intern : ∀ c, c.isWide = false → motive (intern c))
    (bind : ∀ x f, motive x → (∀ i, motive (f i)) → motive (x >>= f)) (a : Addition) :
    motive a.edit := by
  have text : ∀ s, motive (addText s) := fun _ => intern _ rfl
  have owner : ∀ name, motive (addClass name) := fun name =>
    bind _ _ (text name) fun _ => intern _ rfl
  have nameAndType : ∀ n d, motive (addNameAndType n d) := fun n d =>
    bind _ _ (text n) fun _ => bind _ _ (text d) fun _ => intern _ rfl
  cases a with
  | text s => exact text s
  | classRef name => exact owner name
  | string s => exact bind _ _ (text s) fun _ => intern _ rfl
  | integer v => exact intern _ rfl
  | nameAndType n d => exact nameAndType n d
  | method m =>
    exact bind _ _ (owner m.owner) fun _ =>
      bind _ _ (nameAndType m.name m.descriptor) fun _ => intern _ rfl

/-- What an addition gives is the first index of its constant. -/
theorem Addition.grows_first (hp : p.WellFormed) (a : Addition) :
    Grows p (a.edit p) fun i q => ∃ c, q.First c i := by
  refine a.edit_induction (motive := fun x => ∀ p, p.WellFormed → Grows p (x p) fun i q =>
    ∃ c, q.First c i) (fun c _ p hp => ?_) (fun x f hx hf p hp => ?_) p hp
  · exact (Pool.grows_first hp c).imp fun _ _ _ _ h => ⟨c, h⟩
  · exact (hx p hp).bind fun i q hq _ _ => hf i q hq

/-! ### Pools without room -/

/-- The edit fails only when all slots are in use. -/
def FailsFull (x : Edit α) : Prop := ∀ p, p.WellFormed → (left (x p)).WellFormed ∧
  ∀ f q, x p = .error f q → f = .notSupported .fullPool ∧ q.count = limit

namespace FailsFull

theorem intern {c : Constant} (hc : c.isWide = false) : FailsFull (intern c) := by
  refine fun p hp => ⟨(grows_intern hp c).wellFormed, fun f q h => ?_⟩
  have hle := hp.count_le
  unfold Pool.intern at h
  split at h
  · cases h
  · unfold push at h
    split at h
    · cases h
    · next hfull =>
      cases h
      rw [width, hc] at hfull
      refine ⟨rfl, ?_⟩
      simp only [Bool.false_eq_true, if_false] at hfull
      omega

theorem pure (a : α) : FailsFull (Pure.pure a : Edit α) := fun _ hp => ⟨hp, nofun⟩

theorem bind {x : Edit α} {f : α → Edit β} (hx : FailsFull x) (hf : ∀ a, FailsFull (f a)) :
    FailsFull (x >>= f) := by
  intro p hp
  obtain ⟨hleft, herror⟩ := hx p hp
  cases h : x p with
  | ok a q =>
    rw [h] at hleft
    rw [bind_of_ok h]
    exact hf a q hleft
  | error f' q =>
    rw [h] at hleft
    rw [step_bind_eq_error.2 (.inl h)]
    refine ⟨hleft, ?_⟩
    rintro _ _ ⟨⟩
    exact herror _ _ h

theorem mapM {f : α → Edit β} (hf : ∀ a, FailsFull (f a)) (as : List α) : FailsFull (as.mapM f) := by
  induction as with
  | nil => exact pure []
  | cons a as ih =>
    rw [List.mapM_cons]
    exact (hf a).bind fun b => ih.bind fun bs => pure _

theorem edit (a : Addition) : FailsFull a.edit :=
  a.edit_induction (fun _ hc => intern hc) fun _ _ hx hf => hx.bind hf

end FailsFull

/-! ### Adding again -/

/-- In every pool that the pool grows to, the edit gives the value and adds nothing. -/
def Settles (x : Edit α) (a : α) (q : Pool) : Prop := ∀ r, q.Extends r → x r = .ok a r

/-- Where the edit succeeds, it settles. -/
def Interns (x : Edit α) : Prop := ∀ p : Pool, p.WellFormed → Grows p (x p) (Settles x)

namespace Interns

theorem intern (c : Constant) : Interns (Pool.intern c) := fun _ hp =>
  (Pool.grows_first hp c).imp fun _ _ _ _ hi _ hr => intern_of_first (hr.first hi)

theorem pure (a : α) : Interns (Pure.pure a : Edit α) := fun _ hp => Grows.pure hp a fun _ _ => rfl

theorem bind {x : Edit α} {f : α → Edit β} (hx : Interns x) (hf : ∀ a, Interns (f a)) :
    Interns (x >>= f) := fun _ hp =>
  (hx _ hp).bind fun a _ hq _ ha => (hf a _ hq).imp fun _ _ _ hqr hb s hs => by
    rw [bind_of_ok (ha s (hqr.trans hs)), hb s hs]

theorem mapM {f : α → Edit β} (hf : ∀ a, Interns (f a)) (as : List α) : Interns (as.mapM f) := by
  induction as with
  | nil => exact pure []
  | cons a as ih =>
    rw [List.mapM_cons]
    exact (hf a).bind fun b => ih.bind fun bs => pure _

theorem edit (a : Addition) : Interns a.edit :=
  a.edit_induction (fun c _ => intern c) fun _ _ hx hf => hx.bind hf

end Interns

/-! ### Pools without duplicates -/

/-- No constant stands in two slots. -/
def Distinct (p : Pool) : Prop := p.slots.toList.Pairwise fun a b => a = none ∨ a ≠ b

theorem Distinct.eq_of_get {j : UInt16} (hp : p.Distinct) (hi : p.get i = .ok c)
    (hj : p.get j = .ok c) : i = j := by
  rw [get_eq_ok, ← Array.getElem?_toList, List.getElem?_eq_some_iff] at hi hj
  obtain ⟨hi, hci⟩ := hi
  obtain ⟨hj, hcj⟩ := hj
  have hdiffer := List.pairwise_iff_getElem.1 hp
  rcases Nat.lt_trichotomy i.toNat j.toNat with hlt | heq | hlt
  · simpa [hci, hcj] using hdiffer _ _ hi hj hlt
  · exact UInt16.toNat_inj.1 heq
  · simpa [hci, hcj] using hdiffer _ _ hj hi hlt

theorem keeps_distinct_intern (c : Constant) : Keeps Distinct (intern c) := by
  intro p hp
  unfold intern
  split
  · exact hp
  · next hnone =>
    by_cases hroom : p.count + width c ≤ limit
    · obtain ⟨q, hq, hs⟩ := push_eq hroom
      rw [hq]
      show q.slots.toList.Pairwise _
      rw [hs, List.pairwise_append]
      refine ⟨hp, ?_, fun a ha b hb => ?_⟩
      · unfold slotsOf
        split <;> simp
      · cases a with
        | none => exact .inl rfl
        | some d =>
          refine .inr ?_
          rintro rfl
          have hd : d = c := by
            unfold slotsOf at hb
            split at hb <;> simpa using hb
          exact find?_eq_none.1 hnone (hd ▸ ha)
    · rw [push, if_neg hroom]
      exact hp

theorem keeps_distinct_edit (a : Addition) : Keeps Distinct a.edit :=
  a.edit_induction (fun c _ => keeps_distinct_intern c) fun _ _ hx hf => hx.bind hf

/-! ### Many additions -/

/-- The pool that additions make of a pool. Some of them may fail. -/
def addAll (as : List Addition) (p : Pool) : Pool := as.foldl (fun p a => left (a.edit p)) p

theorem addAll_cons (a : Addition) (as : List Addition) (p : Pool) :
    addAll (a :: as) p = addAll as (left (a.edit p)) := rfl

theorem extends_addAll (as : List Addition) (hp : p.WellFormed) : p.Extends (addAll as p) := by
  induction as generalizing p with
  | nil => exact .refl p
  | cons a as ih =>
    rw [addAll_cons]
    have h := a.grows hp
    exact h.extends_left.trans (ih h.wellFormed)

theorem distinct_addAll (as : List Addition) (hp : p.Distinct) : (addAll as p).Distinct := by
  induction as generalizing p with
  | nil => exact hp
  | cons a as ih =>
    rw [addAll_cons]
    exact ih (keeps_distinct_edit a p hp)

/-- The index that an addition gives refers to what was added, it is the first one of its constant, and
all indices keep what they refer to. Adding it again gives the same index and adds nothing, whatever was
added in between, and so it is for many additions. Additions alone put no constant into a pool twice. -/
theorem interning (hp : p.Reachable) :
    (∀ (a : Addition) i q, a.edit p = .ok i q →
      a.Names i q ∧ (∀ j c, p.get j = .ok c → q.get j = .ok c) ∧
      (∃ c, q.get i = .ok c ∧ ∀ j, q.get j = .ok c → i ≤ j) ∧
      ∀ as, a.edit (addAll as q) = .ok i (addAll as q)) ∧
    (∀ (as : List Addition) is q, as.mapM Addition.edit p = .ok is q →
      as.mapM Addition.edit q = .ok is q) ∧
    ∀ as i j c, (addAll as empty).get i = .ok c → (addAll as empty).get j = .ok c → i = j := by
  have hwf := hp.wellFormed
  refine ⟨fun a i q h => ?_, fun as is q h => ?_, fun as i j c hi hj => ?_⟩
  · have grown := a.grows hwf
    rw [h] at grown
    obtain ⟨c, hc⟩ := (a.grows_first hwf).found i q h
    exact ⟨grown.found i q rfl, fun j c => grown.extends_left.get, ⟨c, first_iff.1 hc⟩, fun as =>
      (Interns.edit a p hwf).found i q h _ (extends_addAll as grown.wellFormed)⟩
  · exact (Interns.mapM Interns.edit as p hwf).found is q h q (.refl q)
  · have hempty : Distinct empty := List.pairwise_singleton _ _
    exact (distinct_addAll as hempty).eq_of_get hi hj

/-- The text `A` stands in this pool three times, once not in its shortest form, and the class refers to
the last of them. -/
def repeating : Pool :=
  ⟨#[none, some (.utf8 [0xC1, 0x81]), some (.utf8 [0x41]), some (.long 7), none, some (.utf8 [0x41]),
    some (.classRef 5)]⟩

theorem interning_repeating :
    repeating.Reachable ∧ ∃ q, [.classRef "A", .integer 7].mapM Addition.edit repeating = .ok [7, 8] q ∧
      [.classRef "A", .integer 7].mapM Addition.edit q = .ok [7, 8] q := by
  have laid : Laid (repeating.slots.toList.drop 1) :=
    .narrow rfl (.narrow rfl (.wide rfl (.narrow rfl (.narrow rfl .nil))))
  have hp : repeating.Reachable := WellFormed.reachable ⟨⟨_, rfl, laid⟩, by decide⟩ fun bytes hb => by
    have hb : bytes = [0xC1, 0x81] ∨ bytes = [0x41] ∨ bytes = [0x41] := by simpa [repeating] using hb
    rcases hb with rfl | rfl | rfl <;> decide
  have htext : addText "A" repeating = .ok 2 repeating := intern_of_first
    (show repeating.find? (.utf8 (Text.ModifiedUtf8.encode "A")) = some 2 by decide +kernel)
  have hclass : addClass "A" repeating = .ok 7 ⟨repeating.slots.push (some (.classRef 2))⟩ := by
    rw [addClass, bind_of_ok htext, Pool.intern,
      show repeating.find? (.classRef 2) = none by decide +kernel]
    rfl
  have hinteger : addInteger 7 ⟨repeating.slots.push (some (.classRef 2))⟩ =
      .ok 8 ⟨(repeating.slots.push (some (.classRef 2))).push (some (.integer 7))⟩ := by
    rw [addInteger, Pool.intern, show find? _ (.integer 7) = none by decide +kernel]
    rfl
  have h : [.classRef "A", .integer 7].mapM Addition.edit repeating =
      .ok [7, 8] ⟨(repeating.slots.push (some (.classRef 2))).push (some (.integer 7))⟩ := by
    rw [List.mapM_cons, List.mapM_cons, step_bind_eq_ok]
    refine ⟨7, _, hclass, step_bind_eq_ok.2 ⟨[8], _, ?_, rfl⟩⟩
    exact step_bind_eq_ok.2 ⟨8, _, hinteger, rfl⟩
  exact ⟨hp, _, h, (interning hp).2.1 _ _ _ h⟩

end ScriptProxy.ClassFile.Pool
