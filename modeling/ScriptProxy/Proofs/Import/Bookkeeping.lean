import ScriptProxy.Proofs.Import.Plan

/-!
# The books that a hook keeps

`recorded` is a registrar that writes down its calls, and `Hook.calls` lists the calls of one
transform. `KeepsBooks` says what a transform comes to for the registrar and for the ledger, and
`books_transformAll` that this makes the ledger, after any number of transforms, the record of the
last time that each class was rewritten.
-/

namespace ScriptProxy.Import

open ClassFile Outcome

/-! ### Calls -/

/-- A call of a registrar: the binding, and why it was refused, if it was. -/
structure Notice where
  binding : Binding
  refusal : Option Failure

/-- A call in which the binding was accepted. -/
def Notice.accepted (b : Binding) : Notice := ⟨b, none⟩

variable {σ : Type}

/-- The registrar, made to write down its calls. -/
def recorded (register : Registrar σ) : Registrar (σ × List Notice) := fun b s =>
  match register b s.1 with
  | .ok _ t => .ok () (t, s.2 ++ [Notice.accepted b])
  | .error f t => .error f (t, s.2 ++ [⟨b, some f⟩])

/-- The calls that are made to tell a registrar of bindings. -/
def callsOf (register : Registrar σ) : List Binding → σ → List Notice
  | [], _ => []
  | b :: bs, s =>
    match register b s with
    | .ok _ s => Notice.accepted b :: callsOf register bs s
    | .error f _ => [⟨b, some f⟩]

theorem tellAll_recorded (register : Registrar σ) (bs : List Binding) (s : σ) (before : List Notice) :
    tellAll (recorded register) bs (s, before) =
      match tellAll register bs s with
      | .ok _ t => .ok () (t, before ++ callsOf register bs s)
      | .error f t => .error f (t, before ++ callsOf register bs s) := by
  induction bs generalizing s before with
  | nil =>
    rw [callsOf, List.append_nil]
    rfl
  | cons b bs ih =>
    rw [tellAll_cons, tellAll_cons, recorded, callsOf]
    cases register b s with
    | ok _ t => simpa using ih t (before ++ [Notice.accepted b])
    | error f t => rfl

theorem callsOf_of_ok {register : Registrar σ} {bs : List Binding} {s t : σ}
    (h : tellAll register bs s = .ok () t) : callsOf register bs s = bs.map Notice.accepted := by
  induction bs generalizing s with
  | nil => rfl
  | cons b bs ih =>
    rw [tellAll_cons] at h
    rw [callsOf]
    cases hb : register b s with
    | ok _ u =>
      rw [hb] at h
      dsimp only
      rw [ih h, List.map_cons]
    | error f u =>
      rw [hb] at h
      cases h

/-- A registrar that refuses a binding is not called again. -/
theorem callsOf_of_error {register : Registrar σ} {bs : List Binding} {s t : σ} {f : Failure}
    (h : tellAll register bs s = .error f t) :
    ∃ before b, callsOf register bs s = before ++ [⟨b, some f⟩] := by
  induction bs generalizing s with
  | nil => cases h
  | cons b bs ih =>
    rw [tellAll_cons] at h
    rw [callsOf]
    cases hb : register b s with
    | ok _ u =>
      rw [hb] at h
      obtain ⟨before, b', hcalls⟩ := ih h
      exact ⟨Notice.accepted b :: before, b', by dsimp only; rw [hcalls, List.cons_append]⟩
    | error f u =>
      rw [hb] at h
      cases h
      exact ⟨[], b, rfl⟩

namespace Hook

/-- The hook with a registrar that has written down these calls. -/
def noting (h : Hook σ) (before : List Notice) : Hook (σ × List Notice) :=
  ⟨h.config, (h.registrar, before), h.ledger⟩

/-- The calls of the registrar in a transform, in order. -/
def calls (register : Registrar σ) (name : String) (bytes : Bytes) (h : Hook σ) : List Notice :=
  (left (transform (recorded register) name bytes (h.noting []))).registrar.2

section
variable (register : Registrar σ) (name : String) (bytes : Bytes) (h : Hook σ)

/-- The calls that the plan for a class leads to. -/
def plannedCalls : List Notice :=
  match plan h.config bytes with
  | .ok (some p) => callsOf register p.bindings h.registrar
  | _ => []

/-- Writing down its calls is all that is new about the registrar. -/
theorem transform_noting : transform (recorded register) name bytes (h.noting []) =
    match transform register name bytes h with
    | .ok t h' => .ok t (h'.noting (plannedCalls register bytes h))
    | .error f h' => .error f (h'.noting (plannedCalls register bytes h)) := by
  have hconfig : (h.noting []).config = h.config := rfl
  rw [transform_eq, transform_eq, hconfig, plannedCalls]
  cases plan h.config bytes with
  | error f => rfl
  | ok o =>
    cases o with
    | none => rfl
    | some p =>
      have htell := tellAll_recorded register p.bindings h.registrar []
      dsimp only [noting]
      rw [htell]
      cases tellAll register p.bindings h.registrar with
      | error f s => rfl
      | ok _ s =>
        dsimp only
        cases p.classFile.toBytes <;> rfl

theorem calls_eq : calls register name bytes h = plannedCalls register bytes h := by
  rw [calls, transform_noting]
  cases transform register name bytes h <;> rfl

end

end Hook

/-! ### The books -/

/-- The methods of a class that have a binding, with it, in order. -/
def boundIn (marker : String) (bytes : Bytes) : Except Failure (List Patched) := do
  let c ← ClassFile.ofBytes bytes
  let found ← scan c marker
  return boundMethods c found.registry

/-- What a hook tells its registrar and its ledger of a class that it is shown. -/
structure KeepsBooks (register : Registrar σ) (name : String) (bytes : Bytes) (h : Hook σ) :
    Prop where
  /-- A class comes back as it is exactly if it can be read and has no imports. -/
  unchanged_iff : (∃ h', Hook.transform register name bytes h = .ok (.unchanged bytes) h') ↔
    ∃ c found, ClassFile.ofBytes bytes = .ok c ∧ scan c h.config.marker = .ok found ∧
      found.registry.isEmpty = true
  /-- Nobody gets to know of it. -/
  of_unchanged : ∀ out h', Hook.transform register name bytes h = .ok (.unchanged out) h' →
    out = bytes ∧ Hook.calls register name bytes h = [] ∧ h' = h
  /-- A class that is rewritten goes into the books with all methods that have a binding. -/
  of_rewritten : ∀ out h', Hook.transform register name bytes h = .ok (.rewritten out) h' →
    ∃ patched, boundIn h.config.marker bytes = .ok patched ∧
      Hook.calls register name bytes h = patched.map (fun x => Notice.accepted x.binding) ∧
      h'.patched? name = some patched ∧ ∀ n, n ≠ name → h'.patched? n = h.patched? n
  /-- A failure leaves the ledger as it was. -/
  of_error : ∀ f h', Hook.transform register name bytes h = .error f h' → h'.ledger = h.ledger

theorem keepsBooks (register : Registrar σ) (name : String) (bytes : Bytes) (h : Hook σ) :
    KeepsBooks register name bytes h where
  unchanged_iff := by
    rw [← plan_eq_none]
    simp [transform_eq_unchanged]
  of_unchanged := by
    intro out h' ht
    obtain ⟨hplan, rfl, rfl⟩ := transform_eq_unchanged.1 ht
    refine ⟨rfl, ?_, rfl⟩
    rw [Hook.calls_eq, Hook.plannedCalls, hplan]
  of_rewritten := by
    intro out h' ht
    obtain ⟨p, s, hplan, htell, -, rfl⟩ := transform_eq_rewritten.1 ht
    obtain ⟨c, found, hc, hfound, hp⟩ := isPlan_of_plan hplan
    refine ⟨p.patched, bind_eq_ok.2 ⟨c, hc, bind_eq_ok.2 ⟨found, hfound, ?_⟩⟩, ?_, ?_, ?_⟩
    · rw [hp.patched_eq]
      rfl
    · rw [Hook.calls_eq, Hook.plannedCalls, hplan]
      dsimp only
      rw [callsOf_of_ok htell, Plan.bindings, List.map_map]
      rfl
    · rw [Hook.patched?, OrderedMap.get?_insert, if_pos rfl]
    · intro n hn
      rw [Hook.patched?, OrderedMap.get?_insert, if_neg (Ne.symm hn)]
      rfl
  of_error := by
    intro f h' ht
    rcases transform_eq_error.1 ht with ⟨-, rfl⟩ | ⟨p, s, -, rfl, -⟩
    · rfl
    · rfl

/-! ### Histories -/

/-- What a transform puts into the ledger under a name, if it rewrites a class of this name. -/
def rewrittenUnder? (marker n : String) :
    (String × Bytes) × Except Failure Transformed → Option (List Patched)
  | ((name, bytes), .ok (.rewritten _)) => if name = n then (boundIn marker bytes).toOption else none
  | _ => none

/-- What the last of a number of transforms that rewrite a class of a name puts into the ledger. -/
def lastRewritten? (marker n : String)
    (run : List ((String × Bytes) × Except Failure Transformed)) : Option (List Patched) :=
  run.reverse.findSome? (rewrittenUnder? marker n)

section
variable {register : Registrar σ} {name : String} {bytes : Bytes} {h h' : Hook σ}

theorem ledger_of_ok {t : Transformed} (ht : Hook.transform register name bytes h = .ok t h')
    (n : String) : h'.config = h.config ∧ h'.patched? n =
      (rewrittenUnder? h.config.marker n ((name, bytes), .ok t)).or (h.patched? n) := by
  cases t with
  | unchanged out =>
    obtain ⟨-, -, rfl⟩ := (keepsBooks register name bytes h).of_unchanged out h' ht
    exact ⟨rfl, rfl⟩
  | rewritten out =>
    obtain ⟨patched, hin, -, hname, hother⟩ := (keepsBooks register name bytes h).of_rewritten out h' ht
    refine ⟨?_, ?_⟩
    · obtain ⟨p, s, -, -, -, rfl⟩ := transform_eq_rewritten.1 ht
      rfl
    · rw [rewrittenUnder?, hin]
      split
      · next hn =>
        rw [← hn, hname]
        rfl
      · next hn => exact hother n (Ne.symm hn)

theorem ledger_of_error {f : Failure} (ht : Hook.transform register name bytes h = .error f h') :
    h'.config = h.config ∧ h'.ledger = h.ledger := by
  refine ⟨?_, (keepsBooks register name bytes h).of_error f h' ht⟩
  rcases transform_eq_error.1 ht with ⟨-, rfl⟩ | ⟨p, s, -, rfl, -⟩ <;> rfl

theorem lastRewritten?_cons (marker n : String) (entry : (String × Bytes) × Except Failure Transformed)
    (run : List ((String × Bytes) × Except Failure Transformed)) :
    lastRewritten? marker n (entry :: run) =
      (lastRewritten? marker n run).or (rewrittenUnder? marker n entry) := by
  rw [lastRewritten?, List.reverse_cons, List.findSome?_append, List.findSome?_singleton]
  rfl

/-- A transform of many classes starts with the first one and goes on with what it has left. -/
theorem transformAll_cons (register : Registrar σ) (name : String) (bytes : Bytes)
    (inputs : List (String × Bytes)) (h : Hook σ) :
    Hook.transformAll register ((name, bytes) :: inputs) h =
      match Hook.transform register name bytes h with
      | .ok t h' => (.ok t :: (Hook.transformAll register inputs h').1,
        (Hook.transformAll register inputs h').2)
      | .error f h' => (.error f :: (Hook.transformAll register inputs h').1,
        (Hook.transformAll register inputs h').2) := by
  rw [Hook.transformAll]
  cases Hook.transform register name bytes h <;> rfl

theorem patched?_transformAll (inputs : List (String × Bytes)) (h : Hook σ) (n : String) :
    (Hook.transformAll register inputs h).2.patched? n =
      (lastRewritten? h.config.marker n (inputs.zip (Hook.transformAll register inputs h).1)).or
        (h.patched? n) := by
  induction inputs generalizing h with
  | nil => rfl
  | cons input inputs ih =>
    obtain ⟨name, bytes⟩ := input
    rw [transformAll_cons]
    cases ht : Hook.transform register name bytes h with
    | ok t h' =>
      obtain ⟨hconfig, hledger⟩ := ledger_of_ok ht n
      dsimp only
      rw [List.zip_cons_cons, lastRewritten?_cons, Option.or_assoc, ih, hledger, hconfig]
    | error f h' =>
      obtain ⟨hconfig, hledger⟩ := ledger_of_error ht
      dsimp only
      rw [List.zip_cons_cons, lastRewritten?_cons, ih, hconfig, Hook.patched?, hledger]
      rw [rewrittenUnder?, Option.or_none]
      · rfl
      · simp

end

/-- Every transform keeps the books. After any number of them, what is found in the ledger under a name
is what the last one that has rewritten a class of this name has put there. -/
theorem books_transformAll (register : Registrar σ) :
    (∀ name bytes (h : Hook σ), KeepsBooks register name bytes h) ∧
    ∀ inputs (h : Hook σ) n, (Hook.transformAll register inputs h).2.patched? n =
      (lastRewritten? h.config.marker n (inputs.zip (Hook.transformAll register inputs h).1)).or
        (h.patched? n) :=
  ⟨keepsBooks register, patched?_transformAll⟩

end ScriptProxy.Import
