import ScriptProxy.Proofs.Import.Bookkeeping

/-!
# Batches

The transforms of a batch may be carried out in any order, with the results kept by the positions of
the classes. If the registrar of a hook refuses nothing and no two classes are shown under one name,
each class comes out as it would alone, and the ledger cannot be told from that after the transforms in
the given order: `batch_perm`.
-/

namespace ScriptProxy

open Outcome

namespace Import

variable {σ : Type}

/-- The registrar refuses nothing. -/
def Accepts (register : Registrar σ) : Prop := ∀ b s, ∃ t, register b s = .ok () t

namespace Hook

/-- What a class comes out as. -/
def outcome (register : Registrar σ) (h : Hook σ) (input : String × Bytes) :
    Except Failure Transformed :=
  match transform register input.1 input.2 h with
  | .ok t _ => .ok t
  | .error f _ => .error f

/-- A batch under way: the results so far, by position, and the hook. -/
structure Batch (σ : Type) where
  results : List (Option (Except Failure Transformed))
  hook : Hook σ

/-- Carries out the transform of the class at a position. -/
def Batch.carryOut (register : Registrar σ) (inputs : List (String × Bytes)) (b : Batch σ) (i : Nat) :
    Batch σ :=
  match inputs[i]? with
  | none => b
  | some input =>
    ⟨b.results.set i (some (outcome register b.hook input)),
      left (transform register input.1 input.2 b.hook)⟩

/-- The batch behind the transforms of the classes at some positions, in the order in which these are
given. -/
def batch (register : Registrar σ) (inputs : List (String × Bytes)) (order : List Nat) (h : Hook σ) :
    Batch σ :=
  order.foldl (Batch.carryOut register inputs) ⟨List.replicate inputs.length none, h⟩

/-! ### One transform -/

/-- What a class comes out as if its bindings are accepted. -/
def verdict (config : Config) (bytes : Bytes) : Except Failure Transformed :=
  match plan config bytes with
  | .error f => .error f
  | .ok none => .ok (.unchanged bytes)
  | .ok (some p) => Transformed.rewritten <$> p.classFile.toBytes

/-- What is put into the ledger for a class if its bindings are accepted. -/
def entryOf? (config : Config) (input : String × Bytes) : Option (String × List Patched) :=
  match plan config input.2 with
  | .ok (some p) => p.classFile.toBytes.toOption.map fun _ => (input.1, p.patched)
  | _ => none

section
variable {register : Registrar σ} (hr : Accepts register)
include hr

theorem tellAll_of_accepts (bs : List Binding) (s : σ) : ∃ t, tellAll register bs s = .ok () t := by
  induction bs generalizing s with
  | nil => exact ⟨s, rfl⟩
  | cons b bs ih =>
    obtain ⟨t, ht⟩ := hr b s
    rw [tellAll_cons, ht]
    exact ih t

/-- What a transform does to a hook whose registrar refuses nothing. -/
theorem transform_of_accepts (h : Hook σ) (input : String × Bytes) :
    outcome register h input = verdict h.config input.2 ∧
      (left (transform register input.1 input.2 h)).config = h.config ∧
      (left (transform register input.1 input.2 h)).ledger =
        h.ledger.insertAll (entryOf? h.config input).toList := by
  rw [outcome, transform_eq, verdict, entryOf?]
  cases plan h.config input.2 with
  | error f => exact ⟨rfl, rfl, rfl⟩
  | ok o =>
    cases o with
    | none => exact ⟨rfl, rfl, rfl⟩
    | some p =>
      obtain ⟨t, ht⟩ := tellAll_of_accepts hr p.bindings h.registrar
      simp only [ht]
      cases p.classFile.toBytes with
      | error f => exact ⟨rfl, rfl, rfl⟩
      | ok out => exact ⟨rfl, rfl, rfl⟩

/-! ### All transforms -/

theorem transformAll_of_accepts (inputs : List (String × Bytes)) (h : Hook σ) :
    (transformAll register inputs h).1 = inputs.map (fun input => verdict h.config input.2) ∧
      (transformAll register inputs h).2.ledger =
        h.ledger.insertAll (inputs.filterMap (entryOf? h.config)) := by
  induction inputs generalizing h with
  | nil => exact ⟨rfl, rfl⟩
  | cons input inputs ih =>
    obtain ⟨houtcome, hconfig, hledger⟩ := transform_of_accepts hr h input
    obtain ⟨hresults, hrest⟩ := ih (left (transform register input.1 input.2 h))
    rw [hconfig] at hresults hrest
    have hcons : transformAll register (input :: inputs) h =
        (outcome register h input ::
            (transformAll register inputs (left (transform register input.1 input.2 h))).1,
          (transformAll register inputs (left (transform register input.1 input.2 h))).2) := by
      rw [transformAll_cons, outcome]
      cases transform register input.1 input.2 h <;> rfl
    have hentries : (input :: inputs).filterMap (entryOf? h.config) =
        (entryOf? h.config input).toList ++ inputs.filterMap (entryOf? h.config) := by
      rw [List.filterMap_cons]
      cases entryOf? h.config input <;> rfl
    rw [hcons, List.map_cons, hentries, OrderedMap.insertAll_append, ← hledger, ← houtcome]
    exact ⟨congrArg _ hresults, hrest⟩

variable {inputs : List (String × Bytes)}

/-- What a batch has done to its hook. -/
theorem hook_foldl_carryOut (order : List Nat) (b : Batch σ) :
    (order.foldl (Batch.carryOut register inputs) b).hook.ledger = b.hook.ledger.insertAll
      (order.filterMap fun i => inputs[i]?.bind (entryOf? b.hook.config)) := by
  induction order generalizing b with
  | nil => rfl
  | cons i order ih =>
    rw [List.foldl_cons, ih, List.filterMap_cons, Batch.carryOut]
    cases inputs[i]? with
    | none => rfl
    | some input =>
      obtain ⟨-, hconfig, hledger⟩ := transform_of_accepts hr b.hook input
      dsimp only
      rw [hconfig, hledger, ← OrderedMap.insertAll_append, Option.bind_some]
      cases entryOf? b.hook.config input <;> rfl

/-- The result at a position is there as soon as its transform has been carried out. -/
theorem results_foldl_carryOut (order : List Nat) (b : Batch σ)
    (hlength : b.results.length = inputs.length) (i : Nat) :
    (order.foldl (Batch.carryOut register inputs) b).results[i]? =
      if i ∈ order then inputs[i]?.map fun input => some (verdict b.hook.config input.2)
      else b.results[i]? := by
  induction order generalizing b with
  | nil => rfl
  | cons j order ih =>
    rw [List.foldl_cons, Batch.carryOut]
    cases hj : inputs[j]? with
    | none =>
      have hnone : b.results[j]? = none := by
        rw [List.getElem?_eq_none_iff] at hj ⊢
        omega
      rw [ih b hlength]
      by_cases hij : i = j
      · subst hij
        simp [hj, hnone]
      · simp [hij]
    | some input =>
      obtain ⟨houtcome, hconfig, -⟩ := transform_of_accepts hr b.hook input
      rw [ih _ (by simpa using hlength)]
      dsimp only
      rw [hconfig, houtcome]
      by_cases hij : i = j
      · subst hij
        have hlt : i < b.results.length := by
          rw [hlength]
          exact (List.getElem?_eq_some_iff.1 hj).1
        simp [hj, hlt]
      · simp [hij, List.getElem?_set_ne (Ne.symm hij)]

end

/-! ### Batches in any order -/

/-- The ledgers of two hooks cannot be told apart. -/
structure SameLedger (h h' : Hook σ) : Prop where
  patched?_eq : ∀ name, h.patched? name = h'.patched? name
  patchedClasses_eq : h.patchedClasses = h'.patchedClasses

theorem filterMap_getElem?_range {α β : Type} (l : List α) (f : α → Option β) :
    (List.range l.length).filterMap (fun i => l[i]?.bind f) = l.filterMap f := by
  induction l with
  | nil => rfl
  | cons a l ih =>
    rw [List.length_cons, List.range_succ_eq_map, List.filterMap_cons, List.filterMap_map]
    simp only [Function.comp_def, List.getElem?_cons_zero, List.getElem?_cons_succ, Option.bind_some, ih]
    rw [List.filterMap_cons]

theorem mergeSort_eq_of_perm {l l' : List String} (h : l.Perm l') :
    l.mergeSort (fun a b => !(b < a)) = l'.mergeSort fun a b => !(b < a) := by
  have hle (a b : String) : (!decide (b < a)) = true ↔ a ≤ b := by
    rw [Bool.not_eq_true', decide_eq_false_iff_not, String.not_lt]
  have hsorted (l : List String) :
      (l.mergeSort fun a b => !(b < a)).Pairwise fun a b => (!(b < a)) = true := by
    refine List.pairwise_mergeSort (fun a b c hab hbc => ?_) (fun a b => ?_) l
    · rw [hle] at hab hbc ⊢
      exact String.le_trans hab hbc
    · rw [Bool.or_eq_true, hle, hle]
      exact String.le_total a b
  refine List.Perm.eq_of_pairwise (fun a b _ _ hab hba => ?_) (hsorted l) (hsorted l')
    ((l.mergeSort_perm _).trans (h.trans (l'.mergeSort_perm _).symm))
  exact String.le_antisymm ((hle a b).1 hab) ((hle b a).1 hba)

/-- Maps that were filled with the same entries, in any two orders, make the same ledger. -/
theorem sameLedger_of_perm {m : OrderedMap String (List Patched)} {l l' : List (String × List Patched)}
    (h : l.Perm l') (hl : (l.map (·.1)).Nodup) {b b' : Hook σ} (hb : b.ledger = m.insertAll l)
    (hb' : b'.ledger = m.insertAll l') : SameLedger b b' where
  patched?_eq name := by
    rw [patched?, patched?, hb, hb']
    exact OrderedMap.get?_insertAll_perm h hl m name
  patchedClasses_eq := by
    rw [patchedClasses, patchedClasses, hb, hb']
    exact mergeSort_eq_of_perm (OrderedMap.keys_insertAll_perm h hl m)

theorem nodup_entries (config : Config) {inputs : List (String × Bytes)}
    (hnames : (inputs.map (·.1)).Nodup) :
    ((inputs.filterMap (entryOf? config)).map (·.1)).Nodup := by
  have hsublist : ((inputs.filterMap (entryOf? config)).map (·.1)).Sublist
      (inputs.filterMap fun input => some input.1) := by
    rw [List.map_filterMap]
    refine filterMap_sublist_filterMap (fun input name h => ?_) inputs
    rw [entryOf?] at h
    split at h
    · next p hp =>
      cases hb : p.classFile.toBytes with
      | error f => simp [hb, Except.toOption] at h
      | ok out => simpa [hb, Except.toOption] using h
    · cases h
  rw [List.filterMap_eq_map'] at hsublist
  exact hsublist.nodup hnames

/-- If the registrar refuses nothing and no two classes of a batch have one name, then each class
comes out as it would alone, whatever the order in which the transforms are carried out, and the ledger
is the one that the transforms leave if they are carried out in the given order. -/
theorem batch_perm {register : Registrar σ} (hr : Accepts register) (h : Hook σ)
    {inputs : List (String × Bytes)} (hnames : (inputs.map (·.1)).Nodup) {order : List Nat}
    (horder : order.Perm (List.range inputs.length)) :
    (batch register inputs order h).results = (inputs.map (outcome register h)).map some ∧
      (transformAll register inputs h).1 = inputs.map (outcome register h) ∧
      SameLedger (batch register inputs order h).hook (transformAll register inputs h).2 := by
  have houtcome : outcome register h = fun input => verdict h.config input.2 :=
    funext fun input => (transform_of_accepts hr h input).1
  obtain ⟨hresults, hledger⟩ := transformAll_of_accepts hr inputs h
  rw [houtcome]
  -- the results go by positions; the entries of the ledger come in another order
  refine ⟨List.ext_getElem? fun i => ?_, hresults, ?_⟩
  · have hmem : i ∈ order ↔ i < inputs.length := horder.mem_iff.trans List.mem_range
    rw [batch, results_foldl_carryOut hr order _ List.length_replicate]
    split
    · simp [Function.comp_def]
    · next hi =>
      have hlt : ¬ i < inputs.length := mt hmem.2 hi
      simp [hlt]
  · have hentries : (order.filterMap fun i => inputs[i]?.bind (entryOf? h.config)).Perm
        (inputs.filterMap (entryOf? h.config)) := by
      rw [← filterMap_getElem?_range inputs]
      exact horder.filterMap _
    exact sameLedger_of_perm hentries
      ((hentries.map _).nodup_iff.2 (nodup_entries h.config hnames)) (hook_foldl_carryOut hr order _)
      hledger

/-- The second class comes first, and is not a class at all. -/
theorem batch_perm_annotated :
    ∃ bytes, annotated.toBytes = .ok bytes ∧
      let inputs := [("A", bytes), ("B", [])]
      (batch (fun _ => pure ()) inputs [1, 0] annotatedHook).results =
          (inputs.map (outcome (fun _ => pure ()) annotatedHook)).map some ∧
        (transformAll (fun _ => pure ()) inputs annotatedHook).1 =
          inputs.map (outcome (fun _ => pure ()) annotatedHook) ∧
        SameLedger (batch (fun _ => pure ()) inputs [1, 0] annotatedHook).hook
          (transformAll (fun _ => pure ()) inputs annotatedHook).2 := by
  have hbytes : annotated.toBytes.toOption.isSome = true := by decide +kernel
  cases h : annotated.toBytes with
  | error f => simp [h, Except.toOption] at hbytes
  | ok bytes =>
    exact ⟨bytes, rfl, batch_perm (fun _ s => ⟨s, rfl⟩) annotatedHook (by simp) (.swap 0 1 [])⟩

end Hook

end Import

end ScriptProxy
