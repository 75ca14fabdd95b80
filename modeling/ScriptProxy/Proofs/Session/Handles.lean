import ScriptProxy.Proofs.Host.Handles
import ScriptProxy.Proofs.Session.Run

/-!
# Handles over the life of a session

Every handle that work is given stands for the object that it was made for, until it is given up or
its engine ends: `Sound`, which every step of a run preserves. `enter_handedOut_iff` says what
becomes of such a handle that is passed back at any later time. It arrives as it should unless
another engine has been started meanwhile: the tables of two engines count their pages from the same
number on, and a handle of the one may be followed in the other.
-/

namespace ScriptProxy

/-- The page of a host among the pages of all hosts. -/
def Host.pageNumber (h : Host) : Nat × Nat := (h.handles.number, h.generation)

namespace Session

open Exchange (Handle HandleTable Value)
open ScriptProxy.Outcome (left)

variable {α : Type} {s s' : Session} {L N : List (Handle × Nat)}

/-- The handles that a call is answered with, each with the object that it is made for. -/
def Call.handsOut (h : Host) : Call → List (Handle × Nat)
  | .invoke module name args => Host.handedOut (Host.called module name args) h
  | .evaluate text => Host.handedOut (Host.evaluating (·.run text)) h
  | _ => []

/-- The handles that the caller holds no more after a call. -/
def Call.givesUp (s : Session) : Call → List Handle
  | .keep name v => (s.outside.shelf.keep name v).2
  | .giveUp name => (s.outside.shelf.giveUp name).2
  | .discard v => s.outside.shelf.unheld v
  | _ => []

def Event.handsOut (s : Session) : Event → List (Handle × Nat)
  | .call c | .late c | .own c => s.engine.elim [] fun e => c.handsOut e.host
  | _ => []

def Event.givesUp (s : Session) : Event → List Handle
  | .call c | .late c | .own c => c.givesUp s
  | _ => []

/-- The handles stand for their objects with the engine that they are from, which is none of those
to come. -/
structure Sound (s : Session) (L : List (Handle × Nat)) : Prop where
  holds : ∀ e, s.engine = some e → e.host.handles.number < s.engines ∧ e.host.Holds L
  numbers : ∀ p ∈ L, p.1.table < s.engines

theorem sound_new (id : Nat) (config : Import.Config) (platform : Platform) :
    Sound (new id config platform) [] := ⟨nofun, by simp⟩

namespace Sound

/-- Only the host of the engine and the number of engines matter. -/
theorem congr (hs : Sound s L) (he : s'.engine.map (·.host) = s.engine.map (·.host))
    (hn : s'.engines = s.engines) : Sound s' L := by
  refine ⟨fun e' he' => ?_, hn ▸ hs.numbers⟩
  rw [he', Option.map_some] at he
  obtain ⟨e, hse, heq⟩ := Option.map_eq_some_iff.1 he.symm
  rw [hn, ← heq]
  exact hs.holds e hse

theorem mono (hs : Sound s L) (hN : ∀ p ∈ N, p ∈ L) : Sound s N :=
  ⟨fun e he => ⟨(hs.holds e he).1, (hs.holds e he).2.wellFormed,
    fun p hp => (hs.holds e he).2.stands p (hN p hp)⟩, fun p hp => hs.numbers p (hN p hp)⟩

/-- The handles that remain when some are released. -/
theorem release (hs : Sound s L) (held : List Handle) :
    Sound (release held s) (L.filter (·.1 ∉ held)) := by
  refine ⟨fun e' he' => ?_, fun p hp => hs.numbers p (List.mem_filter.1 hp).1⟩
  obtain ⟨e, he, rfl⟩ := Option.map_eq_some_iff.1 he'
  obtain ⟨hn, hl⟩ := hs.holds e he
  exact ⟨by rwa [show (e.host.release held).handles.number = _ from
    (HandleTable.foldl_release held e.host.handles).1], hl.release held⟩

end Sound

/-- What an action on the host does to the handles: it makes some, and those before stay. -/
structure Serves (h : Host) (N : List (Handle × Nat)) (h' : Host) : Prop where
  number : h'.handles.number = h.handles.number
  handles : ∀ p ∈ N, p.1.table = h.handles.number
  holds : ∀ {L}, h.Holds L → h'.Holds (N ++ L)

theorem Serves.of_gives {h h' : Host} (hg : h.Gives N h') : Serves h N h' :=
  ⟨hg.number, fun p hp => (hg.handles p hp).1, hg.holds⟩

theorem Serves.of_kept {h h' : Host} (hk : h.Kept h') : Serves h [] h' :=
  .of_gives (.of_kept hk)

theorem Serves.of_reset {h h' : Host} (hr : h'.handles = h.handles.reset) : Serves h [] h' :=
  ⟨by rw [hr]; rfl, by simp, fun hl =>
    ⟨hr ▸ HandleTable.wellFormed_reset _, fun p hp => hr ▸ (hl.stands p hp).reset⟩⟩

theorem serves_load (page : Page.Source) (h : Host) : Serves h [] (left (Host.load page h)) := by
  cases hl : Host.load page h with
  | ok a h' => exact .of_reset (Host.kept_load hl).handles
  | error f h' =>
    rcases Host.of_load_eq_error hl with rfl | ⟨-, -, -, hr⟩
    · exact .of_kept (.refl h')
    · exact .of_reset hr

theorem serves_liveHandles (h : Host) : Serves h [] (left (Host.liveHandles h)) :=
  ⟨HandleTable.number_sweep _, by simp, fun hl =>
    ⟨hl.wellFormed.sweep, fun p hp => (hl.stands p hp).sweep⟩⟩

theorem Sound.onHost (hs : Sound s L) (m : EStateM Failure Host α)
    (hm : ∀ e, s.engine = some e → Serves e.host N (left (m e.host)))
    (hN : s.engine = none → N = []) : Sound (settled (onHost m) s) (N ++ L) := by
  cases he : s.engine with
  | none =>
    rw [settled_of_error (onHost_of_none m he), hN he]
    exact hs
  | some e =>
    rw [settled_onHost m he]
    obtain ⟨hn, hl⟩ := hs.holds e he
    obtain ⟨hn', hh, hl'⟩ := hm e he
    refine ⟨?_, fun p hp => ?_⟩
    · rintro _ ⟨rfl⟩
      exact ⟨hn'.symm ▸ hn, (hl' hl).wellFormed, (hl' hl).stands⟩
    · rcases List.mem_append.1 hp with hp | hp
      · exact (hh p hp).symm ▸ hn
      · exact hs.numbers p hp

/-! ### Every step -/

theorem Sound.withEngine (hs : Sound s L) : Sound s.withEngine L := by
  unfold Session.withEngine
  split
  · exact hs
  · refine ⟨?_, fun p hp => Nat.lt_succ_of_lt (hs.numbers p hp)⟩
    rintro _ ⟨rfl⟩
    refine ⟨Nat.lt_succ_self _, HandleTable.wellFormed_start _, fun p hp => ?_⟩
    exact .of_table_ne (Nat.ne_of_lt (hs.numbers p hp))

theorem Sound.noted (hs : Sound s L) (b : Import.Binding) : Sound (s.noted b) L := hs.congr rfl rfl

theorem Sound.install (hs : Sound s L) (b : Import.Binding) :
    Sound (settled (Session.onHost (Host.register b)) s) L :=
  hs.onHost (N := []) _ (fun e _ => .of_kept (Host.kept_register b e.host)) fun _ => rfl

theorem Sound.registerInside (hs : Sound s L) (b : Import.Binding) :
    Sound (settled (registerInside b) s) L := by
  rw [settled_registerInside]
  exact (hs.noted b).install b

theorem serves_invoke (module name : String) (args : List Value) (h : Host) :
    Serves h (Host.handedOut (Host.called module name args) h)
      (left (Host.invoke module name args h)) :=
  .of_gives (Host.gives_invoke module name args h)

theorem serves_evaluate (text : String) (h : Host) :
    Serves h (Host.handedOut (Host.evaluating (·.run text)) h)
      (left (Host.evaluate text h)) :=
  .of_gives (Host.gives_handedOut (Host.kept_evaluating _) h)

/-- What a call does to the handles: it gives some up, or is answered with new ones. -/
theorem Sound.answer (hs : Sound s L) (c : Call) :
    Sound (settled (Session.answer c) s)
      (s.engine.elim [] (fun e => c.handsOut e.host) ++ L.filter (·.1 ∉ c.givesUp s)) := by
  have none' : (s.engine.elim [] fun _ => []) = ([] : List (Handle × Nat)) := by
    cases s.engine <;> rfl
  have kept {K : List Handle} (p) (hp : p ∈ L.filter (·.1 ∉ K)) : p ∈ L := (List.mem_filter.1 hp).1
  have same {s' : Session} (hs' : Sound s' L) :
      Sound s' ((s.engine.elim [] fun _ => []) ++ L.filter (·.1 ∉ ([] : List Handle))) := by
    rw [none']
    exact hs'.mono kept
  have host {β : Type} (m : EStateM Failure Host β) (hm : ∀ h, Serves h [] (left (m h))) :
      Sound (settled (Session.onHost m) s) L :=
    hs.onHost (N := []) m (fun e _ => hm e.host) fun _ => rfl
  have given (m : EStateM Failure Host Value) (made : Host → List (Handle × Nat))
      (hm : ∀ h, Serves h (made h) (left (m h))) :
      Sound (settled (Session.onHost m) s)
        ((s.engine.elim [] fun e => made e.host) ++ L.filter (·.1 ∉ ([] : List Handle))) := by
    refine (hs.onHost (N := s.engine.elim [] fun e => made e.host) m (fun e he => ?_)
      fun he => by rw [he]; rfl).mono fun p hp => ?_
    · rw [he]
      exact hm e.host
    · exact List.mem_append.2 ((List.mem_append.1 hp).imp_right (kept p))
  have shelved (shelf : Exchange.Shelf) (held : List Handle) :
      Sound (s.shelve shelf held)
        ((s.engine.elim [] fun _ => []) ++ L.filter (·.1 ∉ held)) := by
    have h : Sound { s with outside := { s.outside with shelf := shelf } } L := hs.congr rfl rfl
    rw [none']
    exact h.release held
  by_cases hre : c.reenters = true
  · rw [settled_answer_of_reenters hre]
    cases c with
    | execute | launch _ | shutdown => exact same hs
    | _ => cases hre
  cases c with
  | invoke module name args => exact given _ _ (serves_invoke module name args)
  | evaluate text => exact given _ _ (serves_evaluate text)
  | load page => exact same (host (Host.load page) (serves_load page))
  | register b => exact same (hs.install b)
  | registerScript b => exact same (hs.registerInside b)
  | isLoaded => exact same (host (return (← get).isLoaded) fun h => .of_kept (.refl h))
  | generation => exact same (host (return (← get).generation) fun h => .of_kept (.refl h))
  | describeHost => exact same (host (return (← get).describe) fun h => .of_kept (.refl h))
  | liveHandles => exact same (host Host.liveHandles serves_liveHandles)
  | keep name v => exact shelved _ _
  | giveUp name => exact shelved _ _
  | discard v => exact shelved s.outside.shelf _
  | hide =>
    refine same ?_
    show Sound s.hide L
    unfold Session.hide
    split
    · exact hs.congr rfl rfl
    · exact hs
  | takePrinted => exact same (hs.congr rfl rfl)
  | execute | launch _ | shutdown => exact absurd rfl hre
  | namespaceName | state | isEngine | kept _ => exact same hs

/-- The handles held behind a step are those before it and those that it hands out, less those that
it gives up. -/
theorem Sound.does {e : Event} {m m' : Moment} (hd : Does e m m') (hs : Sound m.session L) :
    Sound m'.session (e.handsOut m.session ++ L.filter (·.1 ∉ e.givesUp m.session)) := by
  have same {s' : Session} (hs' : Sound s' L) :
      Sound s' ([] ++ L.filter (·.1 ∉ ([] : List Handle))) :=
    hs'.mono fun p hp => (List.mem_filter.1 hp).1
  cases hd with
  | call | late => exact hs.answer _
  | keep => exact hs.answer (.keep _ _)
  | giveUp => exact hs.answer (.giveUp _)
  | discard => exact hs.answer (.discard _)
  | note => exact same (hs.noted _)
  | start => exact same hs.withEngine
  | abandon => exact same hs
  | stop => exact same ⟨nofun, hs.numbers⟩
  | @load s s' page q hb hl =>
    have h := hs.onHost (N := []) (Host.load page) (fun e _ => serves_load page e.host) fun _ => rfl
    exact same (settled_of_ok hl ▸ h)
  | @failLoad s s' page q f hl =>
    have h := hs.onHost (N := []) (Host.load page) (fun e _ => serves_load page e.host) fun _ => rfl
    exact same (settled_of_error hl ▸ h)
  | install => exact same (hs.install _)

theorem Sound.quiet {m m' : Moment} (hq : Quiet m m') (hs : Sound m.session L) :
    Sound m'.session L := by
  cases hq with
  | mark => exact hs.congr rfl rfl
  | ask | pass | takeUp | drop => exact hs
  | defer => exact hs.congr (by simp [enqueue, Function.comp_def]) rfl
  | park => exact hs.congr (by simp [park, Function.comp_def]) rfl
  | resume hp => exact hs.congr (by simp [resumed, hp]) rfl

/-! ### Whole runs -/

variable {m m' : Moment} {tr : Trace}

theorem Sound.leads (h : Leads m tr m') (hs : Sound m.session L) : ∃ L', Sound m'.session L' :=
  h.preserves (P := fun m => ∃ L, Sound m.session L) (K := fun _ _ => True)
    (fun _ _ hq ⟨L, hs⟩ => ⟨L, hs.quiet hq⟩) (fun _ _ _ hd _ ⟨_, hs⟩ => ⟨_, hs.does hd⟩)
    (fun _ _ => trivial) ⟨L, hs⟩

/-- A handle is held until it is given up. -/
theorem Sound.leads_of_mem {p : Handle × Nat} (h : Leads m tr m') (hs : Sound m.session L)
    (hp : p ∈ L) (hheld : ∀ x ∈ tr, p.1 ∉ x.1.givesUp x.2) :
    ∃ L', Sound m'.session L' ∧ p ∈ L' := by
  refine h.preserves (P := fun m => ∃ L, Sound m.session L ∧ p ∈ L)
    (K := fun e s => p.1 ∉ e.givesUp s) (fun _ _ hq ⟨L, hs, hp⟩ => ⟨L, hs.quiet hq, hp⟩) ?_
    hheld ⟨L, hs, hp⟩
  rintro e m m' hd hk ⟨L, hs, hp⟩
  exact ⟨_, hs.does hd, List.mem_append_right _ (List.mem_filter.2 ⟨hp, by simpa using hk⟩)⟩

/-- New handles are of the page that the host has. -/
theorem pageNumber_of_handsOut {ev : Event} {e : Engine} {k : Handle} {o : Nat}
    (he : s.engine = some e) (hk : (k, o) ∈ ev.handsOut s) :
    (k.table, k.generation) = e.host.pageNumber := by
  have hc (c : Call) (hk : (k, o) ∈ c.handsOut e.host) :
      (k.table, k.generation) = e.host.pageNumber := by
    cases c with
    | invoke module name args =>
      have hg := Host.gives_handedOut (Host.kept_called module name args) e.host
      exact Prod.ext_iff.2 (hg.handles (k, o) hk)
    | evaluate text =>
      have hg := Host.gives_handedOut (Host.kept_evaluating (·.run text)) e.host
      exact Prod.ext_iff.2 (hg.handles (k, o) hk)
    | _ => simp [Call.handsOut] at hk
  cases ev with
  | call c | late c | own c => exact hc c (by simpa [Event.handsOut, he] using hk)
  | _ => simp [Event.handsOut] at hk

/-- The handles in the answer to an action of the host are those that are made for its value. -/
theorem handles_of_onHost {m : EStateM Failure Host Script.Value} {e : Engine} {w : Value}
    (he : s.engine = some e) (hw : onHost (m >>= Host.leave) s = .ok w s') :
    w.handles = (Host.handedOut m e.host).map (·.1) := by
  obtain ⟨e', h', he', hm, -⟩ := onHost_eq_ok hw
  cases he.symm.trans he'
  exact Host.handles_of_leave hm

theorem handles_of_invoke {module name : String} {args : List Value} {e : Engine} {w : Value}
    (he : s.engine = some e) (hw : answer (.invoke module name args) s = .ok w s') :
    w.handles = ((Call.invoke module name args).handsOut e.host).map (·.1) :=
  handles_of_onHost he (by rwa [answer, Host.invoke_eq] at hw)

theorem handles_of_evaluate {text : String} {e : Engine} {w : Value} (he : s.engine = some e)
    (hw : answer (.evaluate text) s = .ok w s') :
    w.handles = ((Call.evaluate text).handsOut e.host).map (·.1) :=
  handles_of_onHost he hw

theorem enter_object (t : HandleTable Nat) (k : Handle) (r : Script.Realm) :
    Host.enter t (.object k) r = .ok ((t.get? k).elim .undefined .object) r := by
  rw [Host.enter]
  cases t.get? k <;> rfl

variable {s₀ : Session} {ops : List Operation} {before middle after : Trace} {made used : Event}
  {e e' : Engine} {k : Handle} {o : Nat}

/-- In a run from a session without handles, such as a new one (`sound_new`), a handle `k` is handed
out for the object `o`, and is passed back later without having been given up. It arrives as that
object if the page is still the same one, and as `undefined` otherwise, exactly if it comes back to
the same engine or the table of the other engine follows it nowhere. -/
theorem enter_handedOut_iff (h₀ : Sound s₀ [])
    (htr : runAllTrace ops s₀ = before ++ (made, s) :: (middle ++ (used, s') :: after))
    (he : s.engine = some e) (he' : s'.engine = some e') (hk : (k, o) ∈ made.handsOut s)
    (hheld : ∀ p ∈ middle, k ∉ p.1.givesUp p.2) :
    (∀ r, Host.enter e'.host.handles (.object k) r =
      .ok (if e'.host.pageNumber = e.host.pageNumber then .object o else .undefined) r) ↔
      e'.host.handles.number = e.host.handles.number ∨ e'.host.handles.get? k = none := by
  obtain ⟨m₁, m₂, hl₁, rfl, hd, hl₂⟩ := (htr ▸ leads_runAll ops s₀).split
  obtain ⟨m₃, _, hl₃, rfl, -, -⟩ := hl₂.split
  obtain ⟨L₁, hs₁⟩ := Sound.leads hl₁ h₀
  obtain ⟨L₃, hs₃, hk₃⟩ := (hs₁.does hd).leads_of_mem hl₃ (List.mem_append_left _ hk) hheld
  have hst := (hs₃.holds e' he').2.stands _ hk₃
  obtain ⟨ht, hg⟩ := Prod.mk.inj (pageNumber_of_handsOut he hk)
  have hpage : e'.host.pageNumber = e.host.pageNumber ↔
      e'.host.handles.number = e.host.handles.number ∧ e'.host.generation = e.host.generation :=
    Prod.ext_iff
  simp only [enter_object]
  by_cases hn : e'.host.handles.number = e.host.handles.number
  · refine iff_of_true (fun r => ?_) (.inl hn)
    rw [hst.get? (ht.trans hn.symm), hg]
    by_cases hg' : e.host.generation = e'.host.handles.generation
    · rw [if_pos hg', if_pos (hpage.2 ⟨hn, hg'.symm⟩)]
      rfl
    · rw [if_neg hg', if_neg fun h => hg' (hpage.1 h).2.symm]
      rfl
  · rw [if_neg fun h => hn (hpage.1 h).1]
    refine ⟨fun h => .inr ?_, fun h r => ?_⟩
    · have h := h ⟨#[], #[]⟩
      cases hf : e'.host.handles.get? k with
      | none => rfl
      | some o' => simp [hf] at h
    · rw [h.resolve_left hn]
      rfl

/-- An object is made, and is passed back at once. -/
def makingWork : Work Unit :=
  .call (.invoke "M" "make" []) fun
    | .ok v => .call (.invoke "M" "make" [v]) fun _ => .done ()
    | .error f => .fail f

/-- A function that makes an object is called on the page of a session. -/
def making : List Operation :=
  [.register ⟨"M", "make", some "() => (\x7b\x7d)"⟩, .execute makingWork fun _ => []]

/-- The last two events of a trace, and those before them. -/
def lastTwo (tr : Trace) : Option (Trace × (Event × Session) × (Event × Session)) :=
  match tr.reverse with
  | used :: made :: before => some (before.reverse, made, used)
  | _ => none

theorem eq_of_lastTwo {tr : Trace} {made used : Event × Session}
    (h : lastTwo tr = some (before, made, used)) : tr = before ++ made :: ([] ++ used :: []) := by
  unfold lastTwo at h
  split at h
  · next hr =>
    cases h
    simpa using congrArg List.reverse hr
  · cases h

/-- A handle that the last event but one of a run hands out, and the engines of the last two. -/
def handedOver (tr : Trace) : Option ((Handle × Nat) × Engine × Engine) := do
  let (_, made, used) ← lastTwo tr
  return (← (made.1.handsOut made.2).head?, ← made.2.engine, ← used.2.engine)

theorem of_handedOver {tr : Trace} (h : handedOver tr = some ((k, o), e, e')) :
    ∃ before made s used s', tr = before ++ (made, s) :: ([] ++ (used, s') :: []) ∧
      (k, o) ∈ made.handsOut s ∧ s.engine = some e ∧ s'.engine = some e' := by
  simp only [handedOver, Option.bind_eq_bind, Option.bind_eq_some_iff] at h
  obtain ⟨⟨before, ⟨made, s⟩, ⟨used, s'⟩⟩, hl, ⟨k', o'⟩, hk, e₁, he, e₂, he', h⟩ := h
  cases h
  exact ⟨before, made, s, used, s', eq_of_lastTwo hl, List.mem_of_head? hk, he, he'⟩

/-- The object comes from the engine that it comes back to, which has one page only. -/
theorem handedOver_making :
    (handedOver (runAllTrace making (new 0 .standard (.standard .none)))).any
      (fun (_, e, e') => decide (e'.host.pageNumber = e.host.pageNumber)) = true := by
  decide +kernel

theorem enter_handedOut_making :
    ∃ k o e e', handedOver (runAllTrace making (new 0 .standard (.standard .none))) =
        some ((k, o), e, e') ∧
      ∀ r, Host.enter e'.host.handles (.object k) r = .ok (.object o) r := by
  obtain ⟨⟨⟨k, o⟩, e, e'⟩, h, hpage⟩ := (Option.any_eq_true _ _).1 handedOver_making
  have hpage : e'.host.pageNumber = e.host.pageNumber := of_decide_eq_true hpage
  obtain ⟨before, made, s, used, s', htr, hk, he, he'⟩ := of_handedOver h
  have henter := (enter_handedOut_iff (sound_new 0 .standard (.standard .none)) htr he he' hk
    (by simp)).2 (.inl (congrArg Prod.fst hpage))
  refine ⟨k, o, e, e', h, fun r => ?_⟩
  rw [henter r, if_pos hpage]

end Session
end ScriptProxy
