import ScriptProxy.Proofs.ClassFile.PoolTexts

/-!
# The slots of constant pools

Slot by slot, a pool that was read or made has the unusable slots that its long and double constants
ask for, and no others: `Tidy`. An addition interns what its constant refers to (`Addition.constant`)
and then the constant itself, and each of these steps fails exactly in a full pool that does not hold
what is to be interned. `tidy_of_reachable` puts it all together.
-/

namespace ScriptProxy.ClassFile.Pool
open Outcome Text

variable {p q : Pool} {c : Constant} {o : Option Constant} {slots : List (Option Constant)}

/-! ### Unusable slots -/

theorem isWide_iff : c.isWide = true ↔ (∃ v, c = .long v) ∨ ∃ w, c = .double w := by
  cases c <;> simp [Constant.isWide]

/-- Behind a slot without a wide constant, the unusable slots are those behind wide constants. -/
theorem Laid.unusable_iff (h : Laid slots) (ho : ∀ c, o = some c → c.isWide = false) {i : Nat}
    (hi : i < slots.length) :
    (o :: slots)[i + 1]? = some none ↔ ∃ c, (o :: slots)[i]? = some (some c) ∧ c.isWide = true := by
  have hfirst {o : Option Constant} (ho : ∀ c, o = some c → c.isWide = false) (c : Constant)
      (slots : List (Option Constant)) : (o :: some c :: slots)[1]? = some none ↔
        ∃ d, (o :: some c :: slots)[0]? = some (some d) ∧ d.isWide = true := by
    refine ⟨by simp, ?_⟩
    rintro ⟨d, hd, hwide⟩
    rw [ho d (by simpa using hd)] at hwide
    cases hwide
  induction h generalizing o i with
  | nil => cases hi
  | @narrow c slots hc _ ih =>
    cases i with
    | zero => exact hfirst ho c slots
    | succ i => exact ih (o := some c) (by rintro d ⟨⟩; exact hc) (Nat.lt_of_succ_lt_succ hi)
  | @wide c slots hc _ ih =>
    match i with
    | 0 => exact hfirst ho c _
    | 1 => simp [hc]
    | i + 2 =>
      exact ih (o := none) nofun (Nat.lt_of_succ_lt_succ (Nat.lt_of_succ_lt_succ hi))

theorem Laid.isWide_last (h : Laid slots) (ho : ∀ c, o = some c → c.isWide = false)
    (hlast : (o :: slots)[slots.length]? = some (some c)) : c.isWide = false := by
  induction h generalizing o with
  | nil => exact ho c (by simpa using hlast)
  | @narrow d slots hd _ ih => exact ih (o := some d) (by rintro e ⟨⟩; exact hd) hlast
  | @wide d slots hd _ ih => exact ih (o := none) nofun hlast

/-- A long or a double constant stands at the index. -/
def HoldsWide (p : Pool) (i : Nat) : Prop :=
  (∃ v, p.slots[i]? = some (some (.long v))) ∨ ∃ w, p.slots[i]? = some (some (.double w))

theorem holdsWide_iff {i : Nat} :
    p.HoldsWide i ↔ ∃ c, p.slots[i]? = some (some c) ∧ c.isWide = true := by
  simp only [isWide_iff]
  constructor
  · rintro (⟨v, h⟩ | ⟨w, h⟩)
    · exact ⟨_, h, .inl ⟨v, rfl⟩⟩
    · exact ⟨_, h, .inr ⟨w, rfl⟩⟩
  · rintro ⟨_, h, ⟨v, rfl⟩ | ⟨w, rfl⟩⟩
    · exact .inl ⟨v, h⟩
    · exact .inr ⟨w, h⟩

/-- Slot by slot, what holds of every pool. -/
structure Tidy (p : Pool) : Prop where
  first_unusable : p.slots[0]? = some none
  unusable_iff : ∀ i, i + 1 < p.slots.size → (p.slots[i + 1]? = some none ↔ p.HoldsWide i)
  last_not_wide : ¬ p.HoldsWide (p.slots.size - 1)
  size_pos : 1 ≤ p.slots.size
  size_le : p.slots.size ≤ 65535

theorem WellFormed.tidy (hp : p.WellFormed) : p.Tidy := by
  obtain ⟨more, hs, laid⟩ := hp.laid
  have hsize : p.slots.size = more.length + 1 := by rw [← Array.length_toList, hs]; rfl
  have hget (i : Nat) : p.slots[i]? = (none :: more)[i]? := by rw [← Array.getElem?_toList, hs]
  refine ⟨by rw [hget]; rfl, fun i hi => ?_, fun hlast => ?_, hp.count_pos, hp.count_le⟩
  · rw [holdsWide_iff, hget, hget]
    exact laid.unusable_iff (o := none) nofun (by omega)
  · obtain ⟨c, hc, hwide⟩ := holdsWide_iff.1 hlast
    rw [hget, hsize, Nat.add_sub_cancel] at hc
    rw [laid.isWide_last (o := none) nofun hc] at hwide
    cases hwide

/-! ### Full pools -/

theorem exists_get_iff (hp : p.WellFormed) : (∃ i, p.get i = .ok c) ↔ some c ∈ p.slots := by
  rw [← not_iff_not, ← find?_eq_none_iff_get hp, find?_eq_none, Array.mem_toList_iff]

theorem not_admits_iff (hp : p.WellFormed) (hc : c.isWide = false) :
    ¬ p.Admits c ↔ some c ∉ p.slots ∧ p.slots.size = 65535 := by
  have hle : p.slots.size ≤ 65535 := hp.count_le
  have hwidth : width c = 1 := by rw [width, hc]; rfl
  rw [Admits, not_or, exists_get_iff hp, hwidth, count, limit]
  exact and_congr_right fun _ => by omega

/-- A constant is refused exactly by a full pool that does not hold it. -/
theorem intern_eq_error_iff (hp : p.WellFormed) (hc : c.isWide = false) {f : Failure} :
    intern c p = .error f q ↔
      (some c ∉ p.slots ∧ p.slots.size = 65535) ∧ f = .notSupported .fullPool ∧ q = p := by
  rw [← not_admits_iff hp hc]
  constructor
  · intro h
    have hnot : ¬ p.Admits c := fun hadmits => by
      obtain ⟨i, r, hr⟩ := hadmits.intern hp
      rw [hr] at h
      cases h
    rw [intern_of_not_admits hnot hp] at h
    cases h
    exact ⟨hnot, rfl, rfl⟩
  · rintro ⟨hnot, rfl, rfl⟩
    exact intern_of_not_admits hnot hp

/-- Adds what the constant of an addition refers to, and gives the constant. -/
def Addition.constant : Addition → Edit Constant
  | text s => return .utf8 (ModifiedUtf8.encode s)
  | classRef name => return .classRef (← addText name)
  | string s => return .string (← addText s)
  | integer v => return .integer v
  | nameAndType name descriptor => return .nameAndType (← addText name) (← addText descriptor)
  | method m => return .methodRef (← addClass m.owner) (← addNameAndType m.name m.descriptor)

/-- The last step of an addition is to intern its constant. -/
theorem Addition.edit_eq (a : Addition) : a.edit = a.constant >>= intern := by
  cases a with
  | text s => rfl
  | classRef name => simp [edit, constant, addClass]
  | string s => simp [edit, constant, addString]
  | integer v => rfl
  | nameAndType name descriptor => simp [edit, constant, addNameAndType]
  | method m => simp [edit, constant, addMethod]

theorem Addition.grows_constant (hp : p.WellFormed) (a : Addition) :
    Grows p (a.constant p) fun c _ => c.isWide = false := by
  cases a with
  | text s => exact Grows.pure hp _ rfl
  | classRef name => exact (grows_addText hp name).bind fun _ _ hq _ _ => Grows.pure hq _ rfl
  | string s => exact (grows_addText hp s).bind fun _ _ hq _ _ => Grows.pure hq _ rfl
  | integer v => exact Grows.pure hp _ rfl
  | nameAndType name descriptor =>
    exact (grows_addText hp name).bind fun _ _ hq _ _ =>
      (grows_addText hq descriptor).bind fun _ _ hr _ _ => Grows.pure hr _ rfl
  | method m =>
    exact (grows_addClass hp m.owner).bind fun _ _ hq _ _ =>
      (grows_addNameAndType hq m.name m.descriptor).bind fun _ _ hr _ _ => Grows.pure hr _ rfl

/-- Every pool that was read or made by additions, of which some may have failed, is tidy, and its count
in sixteen bits is the number of its slots. An addition leaves all slots as they are and puts new ones
behind them, also if it fails, which is because the pool is full. Its last step fails exactly if all
65535 slots are in use and none of them holds the constant; an addition of a text is that step alone. -/
theorem tidy_of_reachable (hp : p.Reachable) :
    p.Tidy ∧ p.countWord.toNat = p.slots.size ∧
    (∀ a : Addition, p.slots.toList <+: (left (a.edit p)).slots.toList ∧
      ∀ f q, a.edit p = .error f q → f = .notSupported .fullPool ∧ q.slots.size = 65535) ∧
    (∀ (a : Addition) c q, a.constant p = .ok c q → a.edit p = intern c q ∧
      ∀ f r, intern c q = .error f r ↔
        (some c ∉ q.slots ∧ q.slots.size = 65535) ∧ f = .notSupported .fullPool ∧ r = q) ∧
    ∀ s f q, addText s p = .error f q ↔
      (some (.utf8 (ModifiedUtf8.encode s)) ∉ p.slots ∧ p.slots.size = 65535) ∧
        f = .notSupported .fullPool ∧ q = p := by
  have hwf := hp.wellFormed
  refine ⟨hwf.tidy, ?_, fun a => ⟨(a.grows hwf).extends_left, (FailsFull.edit a p hwf).2⟩,
    fun a c q h => ⟨by rw [a.edit_eq, bind_of_ok h], fun f r => ?_⟩,
    fun s f q => intern_eq_error_iff hwf rfl⟩
  · rw [countWord_eq hwf, toNat_count hwf, count]
  · have hgrown := a.grows_constant hwf
    rw [h] at hgrown
    exact intern_eq_error_iff hgrown.wellFormed (hgrown.found c q rfl)

/-- The last slot is taken by the name of a class, so that there is none for the class. -/
theorem tidy_of_reachable_filled :
    (filled 65532).Reachable ∧ (filled 65532).Tidy ∧ (filled 65532).countWord.toNat = 65534 ∧
      ∃ q, (filled 65532).slots.toList <+: q.slots.toList ∧ q.slots.size = 65535 ∧
        addClass "B" (filled 65532) = .error (.notSupported .fullPool) q := by
  have hroom : 65532 + 2 ≤ limit := by decide
  have hp : (filled 65532).Reachable := reachable_filled hroom
  obtain ⟨htidy, hcount, hadds, hlast, -⟩ := tidy_of_reachable hp
  have habsent : some (.utf8 (ModifiedUtf8.encode "B")) ∉ (filled 65532).slots.toList := by
    intro hmem
    rcases eq_of_mem_filled hmem with h | h
    · exact absurd (Constant.utf8.inj h) (by decide)
    · cases h
  have hfilled : (filled 65532).slots.size = 65534 := count_filled
  have hone : (filled 65532).count + width (.utf8 (ModifiedUtf8.encode "B")) ≤ limit := by
    rw [count, hfilled]
    decide
  obtain ⟨q, hq, hs⟩ := push_eq hone
  have htext : addText "B" (filled 65532) = .ok (UInt16.ofNat (filled 65532).count) q := by
    rw [addText, intern, find?_eq_none.2 habsent]
    exact hq
  obtain ⟨hedit, herror⟩ := hlast (.classRef "B") _ q (bind_of_ok htext)
  have hsize : q.slots.size = 65535 := by
    rw [← Array.length_toList, hs, List.length_append, length_slotsOf, Array.length_toList, hfilled]
    rfl
  have hclass (i : UInt16) : some (.classRef i) ∉ q.slots := by
    rw [← Array.mem_toList_iff, hs, List.mem_append]
    rintro (hmem | hmem)
    · rcases eq_of_mem_filled hmem with h | h <;> cases h
    · simp [slotsOf, Constant.isWide] at hmem
  have hfull : addClass "B" (filled 65532) = .error (.notSupported .fullPool) q :=
    hedit.trans ((herror _ _).2 ⟨⟨hclass _, hsize⟩, rfl, rfl⟩)
  have hkept := (hadds (.classRef "B")).1
  rw [show Addition.edit (.classRef "B") (filled 65532) = _ from hfull] at hkept
  exact ⟨hp, htidy, hcount.trans hfilled, q, hkept, hsize, hfull⟩

end ScriptProxy.ClassFile.Pool
