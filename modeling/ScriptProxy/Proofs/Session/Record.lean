import ScriptProxy.Proofs.Session.Run

/-!
# The functions that have been registered

A session's record holds, for each module and name, the last function registered for them, whoever
registered it and whatever became of the engine: `functions_get?`.
-/

namespace ScriptProxy.Session

open Import (Binding)

variable {s : Session} {m m' : Moment} {e : Event} {tr : Trace} {key : String × String}

/-- The function that a call registers. -/
def Call.registers : Call → Option Binding
  | .registerScript b => some b
  | _ => none

/-- The function that an event registers. -/
def Event.registers : Event → Option Binding
  | .note b => some b
  | .call c | .late c | .own c => c.registers
  | _ => none

/-- The functions that are registered in a trace, in order. -/
def registrations (tr : Trace) : List Binding := tr.filterMap (·.1.registers)

/-- The last function for a module and name. -/
def latest (key : String × String) (bs : List Binding) : Option Binding :=
  bs.reverse.find? (·.key = key)

theorem latest_append (key : String × String) (bs bs' : List Binding) :
    latest key (bs ++ bs') = (latest key bs').or (latest key bs) := by
  simp [latest]

theorem latest_cons (key : String × String) (b : Binding) (bs : List Binding) :
    latest key (b :: bs) = (latest key bs).or (if b.key = key then some b else none) := by
  rw [← List.singleton_append, latest_append]
  by_cases hk : b.key = key <;> simp [latest, hk]

theorem key_of_latest {b : Binding} {bs : List Binding} (h : latest key bs = some b) :
    b ∈ bs ∧ b.key = key :=
  ⟨List.mem_reverse.1 (List.mem_of_find?_eq_some h), by simpa using List.find?_some h⟩

/-- The last function that is registered for a module and name. -/
def lastRegistered (key : String × String) (tr : Trace) : Option Binding :=
  latest key (registrations tr)

theorem lookup_of_notMem {l : List ((String × String) × Binding)} (h : key ∉ l.map (·.1)) :
    OrderedMap.lookup key l = none := by
  induction l with
  | nil => rfl
  | cons p l ih =>
    obtain ⟨hp, hl⟩ := not_or.1 (mt List.mem_cons.2 h)
    exact (if_neg (Ne.symm hp)).trans (ih hl)

/-- Where every function stands under its own key, once, it is the latest of its key. -/
theorem latest_map_snd {l : List ((String × String) × Binding)} (hn : (l.map (·.1)).Nodup)
    (hk : ∀ p ∈ l, p.2.key = p.1) (key : String × String) :
    latest key (l.map (·.2)) = OrderedMap.lookup key l := by
  induction l with
  | nil => rfl
  | cons p l ih =>
    obtain ⟨hp, hn⟩ := List.nodup_cons.1 hn
    obtain ⟨hpk, hk⟩ := List.forall_mem_cons.1 hk
    rw [List.map_cons, latest_cons, ih hn hk, hpk, OrderedMap.lookup]
    split
    · next h => rw [lookup_of_notMem (h ▸ hp), Option.none_or]
    · exact Option.or_none

/-- The record lists, of each module and name, the one function that it has for them. -/
theorem Functions.latest_values (fs : Functions) (key : String × String) :
    latest key fs.values = fs.get? key :=
  (latest_map_snd fs.agrees.nodup fs.keyed key).trans (fs.get?_eq key).symm

theorem functions_onHost {α : Type} (m : EStateM Failure Host α) (s : Session) :
    (settled (onHost m) s).functions = s.functions := by
  cases he : s.engine with
  | none => rw [settled_of_error (onHost_of_none m he)]
  | some e => rw [settled_onHost m he]; rfl

theorem functions_answer (c : Call) (s : Session) :
    (settled (answer c) s).functions = match c.registers with
      | some b => s.functions.insert b
      | none => s.functions := by
  by_cases hr : c.reenters = true
  · rw [settled_answer_of_reenters hr]
    cases c with
    | execute | launch _ | shutdown => rfl
    | _ => cases hr
  cases c with
  | registerScript b =>
    show (settled (registerInside b) s).functions = _
    rw [settled_registerInside]
    exact functions_onHost (Host.register b) (s.noted b)
  | hide =>
    show s.hide.functions = _
    unfold Session.hide
    split <;> rfl
  | load page => exact functions_onHost (Host.load page) s
  | register b => exact functions_onHost (Host.register b) s
  | invoke module name args => exact functions_onHost (Host.invoke module name args) s
  | evaluate text => exact functions_onHost (Host.evaluate text) s
  | isLoaded => exact functions_onHost (return (← get).isLoaded) s
  | generation => exact functions_onHost (return (← get).generation) s
  | liveHandles => exact functions_onHost Host.liveHandles s
  | describeHost => exact functions_onHost (return (← get).describe) s
  | execute | launch _ | shutdown => exact absurd rfl hr
  | namespaceName | state | isEngine | kept _ | keep _ _ | giveUp _ | discard _ | takePrinted => rfl

/-- The record changes by the registrations only. -/
theorem functions_does (hd : Does e m m') :
    m'.session.functions = match e.registers with
      | some b => m.session.functions.insert b
      | none => m.session.functions := by
  cases hd with
  | @call s c => exact functions_answer c s
  | @late s c => exact functions_answer c s
  | @keep s name v => exact functions_answer (.keep name v) s
  | @giveUp s name => exact functions_answer (.giveUp name) s
  | @discard s v => exact functions_answer (.discard v) s
  | note => rfl
  | @start s =>
    show s.withEngine.functions = s.functions
    unfold withEngine
    split <;> rfl
  | abandon | stop => rfl
  | @load s s' page q hb h => exact settled_of_ok h ▸ functions_onHost (Host.load page) s
  | @failLoad s s' page q f h => exact settled_of_error h ▸ functions_onHost (Host.load page) s
  | @install s b => exact functions_onHost (Host.register b) s

theorem functions_quiet (hq : Quiet m m') : m'.session.functions = m.session.functions := by
  cases hq <;> rfl

theorem functions_leads (h : Leads m tr m') :
    m'.session.functions =
      (registrations tr).foldl Functions.insert m.session.functions := by
  induction h with
  | refl => rfl
  | quiet hq _ ih => rw [ih, functions_quiet hq]
  | @does m m₁ m' e tr hd _ ih =>
    have hr : registrations ((e, m.session) :: tr) = e.registers.toList ++ registrations tr := by
      unfold registrations
      rw [List.filterMap_cons]
      cases e.registers <;> rfl
    rw [ih, functions_does hd, hr, List.foldl_append]
    cases e.registers <;> rfl

/-- The record has, under each key, the last function that was registered for it. -/
theorem functions_get? (h : Leads m tr m') (key : String × String) :
    m'.session.functions.get? key = (lastRegistered key tr).or (m.session.functions.get? key) := by
  rw [functions_leads h, lastRegistered]
  generalize registrations tr = bs
  generalize m.session.functions = fs
  induction bs generalizing fs with
  | nil => rfl
  | cons b bs ih =>
    rw [List.foldl_cons, ih, Functions.get?_insert, latest_cons, Option.or_assoc]
    by_cases hk : b.key = key <;> simp [hk]

end ScriptProxy.Session
