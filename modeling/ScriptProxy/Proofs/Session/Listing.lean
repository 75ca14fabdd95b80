import ScriptProxy.Proofs.OrderedMap
import ScriptProxy.Proofs.Session.Record

/-!
# What a session lists

`registered` lists every module and name once, in the order in which they were first registered, with
the function that was registered last for them, and the index finds every function at its place in the
list: `Lists`. It is so at every moment of every run, whatever became of the registrations:
`lists_runAll`.
-/

namespace ScriptProxy

namespace Session

open Import (Binding Config)

variable {s : Session} {tr : Trace} {bs : List Binding}

/-- The session lists what was registered: each module and name once, in the order of their first
registration, with their last one. -/
structure Lists (s : Session) (bs : List Binding) : Prop where
  once : (s.registered.map Binding.key).Nodup
  order : s.registered.map Binding.key = (bs.map Binding.key).eraseDups
  last : ∀ b ∈ s.registered, latest b.key bs = some b
  index : ∀ key i, s.functions.index.get? key = some i ↔
    ∃ b, s.registered[i]? = some b ∧ b.key = key
  lookup : ∀ key, s.functions.get? key = latest key bs

/-- The index has every function at its place in the list, and nothing else. -/
theorem Functions.index_get?_eq_some_iff (fs : Functions) (key : String × String) (i : Nat) :
    fs.index.get? key = some i ↔ ∃ b, fs.values[i]? = some b ∧ b.key = key := by
  rw [fs.agrees.index_get?_eq_some_iff, OrderedMap.values, List.getElem?_map]
  constructor
  · rintro ⟨b, hb⟩
    exact ⟨b, by rw [hb]; rfl, fs.keyed _ (List.mem_of_getElem? hb)⟩
  · rintro ⟨b, hb, rfl⟩
    obtain ⟨⟨key, b⟩, hp, rfl⟩ := Option.map_eq_some_iff.1 hb
    exact ⟨b, by rw [hp, fs.keyed _ (List.mem_of_getElem? hp)]⟩

/-- The keys of functions that are added one after the other, in the order in which they came. -/
theorem Functions.keys_foldl_insert (bs : List Binding) :
    (bs.foldl Functions.insert .empty).keys = (bs.map Binding.key).eraseDups := by
  have ordered (fs : Functions) : (bs.foldl Functions.insert fs).toOrderedMap =
      bs.foldl (fun m b => m.insert b.key b) fs.toOrderedMap := by
    induction bs generalizing fs with
    | nil => rfl
    | cons b bs ih => rw [List.foldl_cons, ih, fs.toOrderedMap_insert, List.foldl_cons]
  rw [ordered]
  exact OrderedMap.keys_foldl_insert Binding.key (fun b => b) bs

section new
variable {id : Nat} {config : Config} {platform : Platform} {q : List Command}

theorem lists_of_leads (h : Leads ⟨new id config platform, []⟩ tr ⟨s, q⟩) :
    Lists s (registrations tr) := by
  have hkeys : s.registered.map Binding.key = s.functions.keys := s.functions.keys_eq.symm
  have hlatest (key : String × String) : s.functions.get? key = latest key (registrations tr) :=
    (functions_get? h key).trans Option.or_none
  refine ⟨hkeys ▸ s.functions.agrees.nodup, ?_, fun b hb => ?_,
    s.functions.index_get?_eq_some_iff, hlatest⟩
  · rw [hkeys, functions_leads h]
    exact Functions.keys_foldl_insert (registrations tr)
  · obtain ⟨⟨k, b⟩, hm, rfl⟩ := List.mem_map.1 hb
    have hk : b.key = k := s.functions.keyed _ hm
    dsimp only
    rw [hk, ← hlatest, s.functions.get?_eq]
    exact OrderedMap.get?_of_mem s.functions.agrees.nodup hm

end new

/-! ### Which operations register -/

theorem registrations_append (tr tr' : Trace) :
    registrations (tr ++ tr') = registrations tr ++ registrations tr' :=
  List.filterMap_append

theorem registrations_installTrace (bs : List Binding) (s : Session) :
    registrations (installTrace bs s) = [] := by
  induction bs generalizing s with
  | nil => rfl
  | cons b bs ih => exact ih _

theorem registrations_loadTrace (page : Page.Source) (s : Session) :
    registrations (loadTrace page s) = [] := by
  rw [loadTrace]
  split
  · exact registrations_installTrace _ _
  · rfl

theorem registrations_sendTrace_load (page : Page.Source) (s : Session) :
    registrations (sendTrace (.load page) s) = [] := by
  unfold sendTrace
  split
  · rfl
  · exact registrations_loadTrace page s

/-- A page that is loaded while there is no engine registers nothing: no work is held up. -/
theorem registrations_bootTrace (page : Page.Source) (he : s.engine = none) :
    registrations (bootTrace page s) = [] := by
  have hb : s.starting.isBlocked = false := by
    rw [starting, isBlocked_withEngine]
    simp [isBlocked, he]
  unfold bootTrace
  rw [turnTrace_of_unblocked _ hb]
  refine (?_ : registrations _ = [])
  split
  · exact registrations_sendTrace_load page _
  · split
    · rfl
    · exact registrations_loadTrace page _

theorem registrations_postTrace (b : Binding) (s : Session) : registrations (postTrace b s) = [] := by
  show registrations (if s.withEngine.isBlocked then [] else _) = []
  split <;> rfl

/-- To register a function is one registration, whatever comes of it. -/
theorem registrations_registerTrace (b : Binding) (s : Session) :
    registrations (registerTrace b s) = [b] := by
  refine congrArg (b :: ·) (?_ : registrations _ = [])
  split
  · exact registrations_postTrace b _
  · next he =>
    split
    · rfl
    split
    · exact registrations_postTrace b _
    · exact registrations_bootTrace _ (Option.not_isSome_iff_eq_none.1 he)

/-- At the end of a run, and at every event in it, the session lists what was registered by then. To
register a function adds just this, even if that fails, and nothing changes the record but
registrations. What is listed stays where it is. -/
theorem lists_runAll (id : Nat) (config : Config) (platform : Platform) (ops : List Operation) :
    let start := new id config platform
    let s := runAll ops start
    let bs := registrations (runAllTrace ops start)
    Lists s bs ∧
      (∀ before e t after, runAllTrace ops start = before ++ (e, t) :: after →
        Lists t (registrations before)) ∧
      (∀ b, Lists ((Operation.register b).run s) (bs ++ [b])) ∧
      (∀ op : Operation, registrations (op.trace s) = [] → (op.run s).functions = s.functions) ∧
      ∀ op : Operation, s.registered.map Binding.key <+: (op.run s).registered.map Binding.key := by
  intro start s bs
  have hrun : Leads ⟨start, []⟩ (runAllTrace ops start) ⟨s, []⟩ := leads_runAll ops start
  have hnext (op : Operation) : Lists (op.run s) (bs ++ registrations (op.trace s)) := by
    rw [← registrations_append]
    exact lists_of_leads (hrun.append (op.leads s))
  refine ⟨lists_of_leads hrun, fun before e t after htrace => ?_, fun b => ?_, fun op hnone => ?_,
    fun op => ?_⟩
  · rw [htrace] at hrun
    obtain ⟨⟨_, q⟩, _, hbefore, rfl, -, -⟩ := hrun.split
    exact lists_of_leads hbefore
  · exact registrations_registerTrace b s ▸ hnext (.register b)
  · have hsame := functions_leads (op.leads s)
    rwa [hnone] at hsame
  · rw [(lists_of_leads hrun).order, (hnext op).order, List.map_append, List.eraseDups_append]
    exact List.prefix_append _ _

end Session

end ScriptProxy
