import ScriptProxy.Proofs.Host.Constant
import ScriptProxy.Proofs.Session.Housing
import ScriptProxy.Proofs.Session.Page

/-!
# Runs of constant functions

Where only constant functions are registered and called, whether an event is tame can be computed, and
so can whether a function is received: `Event.isTame` and `Event.isReceived` look at the page that the
event happens on. `of_runAllTrace` takes this to all events of a run. `lastLoad` cuts a trace where the
last page is loaded.
-/

namespace ScriptProxy

open Import (Binding Config)
open Script (Base Realm)
open Outcome (left)

namespace Host

/-- Whether a page has nothing but an empty namespace. -/
def isBare (namespaceName : String) (r : Realm) : Bool :=
  (r.object? Base.object.place).any (·.behind.isNone) &&
    match r.data? Base.globals.place namespaceName with
    | some (.object space) => match r.object? space with
      | some ⟨.plain, some 0, true, ⟨[]⟩, ⟨[]⟩⟩ => true
      | _ => false
    | _ => false

/-- Whether no object inherits a property of the name. -/
def isFree (r : Realm) (name : String) : Bool :=
  (r.object? Base.object.place).all (·.own? name |>.isNone)

/-- What a variable of the page holds, if it is read without any effect. -/
def globalValue? (r : Realm) (name : String) : Option Script.Value :=
  match r.nearest? (.object Base.globals.place) name with
  | none => some .undefined
  | some ⟨.value v _, _, _⟩ => some v
  | some _ => none

/-- Whether a value can be a module without its script if it is an object. -/
def canBeModule (namespaceName : String) (r : Realm) : Script.Value → Bool
  | .object m => (r.object? m).isSome && m ≠ Base.globals.place &&
      r.data? Base.globals.place namespaceName ≠ some (.object m)
  | _ => true

/-- Whether a constant function can be installed. -/
def isInstallable (namespaceName : String) (b : Binding) (r : Realm) : Bool :=
  isFree r b.module && isFree r b.name &&
    (globalValue? r b.module).any (fun v => b.script.isSome || canBeModule namespaceName r v) &&
      b.script.all (Script.constant? · |>.isSome)

/-- The place of a module in the namespace. -/
def module? (namespaceName module : String) (r : Realm) : Option Nat :=
  match r.data? Base.globals.place namespaceName with
  | some (.object space) => match r.data? space module with
    | some (.object m) => some m
    | _ => none
  | _ => none

/-- Whether a function comes without a script, or for a module that is not there yet. -/
def isReceived (namespaceName : String) (b : Binding) (r : Realm) : Bool :=
  b.script.isNone || (module? namespaceName b.module r).isNone

/-- Whether a module has a constant function of a name. -/
def isConstant (namespaceName module name : String) (r : Realm) : Bool :=
  (module? namespaceName module r).any fun m => match r.data? m name with
    | some (.object place) => (r.object? place).any (·.constant?.isSome)
    | _ => false

variable {namespaceName module name : String} {b : Binding} {r r' : Realm} {space : Nat} {h : Host}

theorem bare_of_isBare (h : isBare namespaceName r = true) : ∃ space, Bare namespaceName space r := by
  obtain ⟨hroot, hspace⟩ := Bool.and_eq_true_iff.1 h
  obtain ⟨o, ho, hb⟩ := (Option.any_eq_true _ _).1 hroot
  split at hspace
  · next space hs =>
    split at hspace
    · next hobj =>
      refine ⟨space, ⟨⟨o, ho, Option.isNone_iff_eq_none.1 hb⟩, hs, _, hobj, ?_, fun _ => rfl⟩⟩
      exact ⟨⟨rfl, rfl, rfl, rfl⟩, nofun⟩
    · cases hspace
  · cases hspace

theorem uninherited_of_isFree (h : isFree r name = true) : r.Uninherited name := fun o ho =>
  Option.isNone_iff_eq_none.1 ((Option.all_eq_true _ _).1 h o ho)

theorem pageVariable_of_globalValue? {v : Script.Value} (h : globalValue? r name = some v) :
    pageVariable Script.engine name r = .ok v r := by
  unfold globalValue? at h
  show Script.engine.read (.object Base.globals.place) name r = _
  rw [Script.read_object]
  split at h
  · next hn =>
    cases h
    rw [hn]
  · next hn =>
    cases h
    rw [hn]
    rfl
  · cases h

theorem installable_of_isInstallable (h : isInstallable namespaceName b r = true) :
    Installable Script.engine namespaceName b r := by
  simp only [isInstallable, Bool.and_eq_true] at h
  obtain ⟨⟨⟨hm, hn⟩, hv⟩, hs⟩ := h
  obtain ⟨v, hv, hcan⟩ := (Option.any_eq_true _ _).1 hv
  cases hscript : b.script with
  | some script =>
    rw [hscript] at hs
    obtain ⟨l, hl⟩ := Option.isSome_iff_exists.1 hs
    exact installable_of_constant (uninherited_of_isFree hm) (uninherited_of_isFree hn)
      ⟨v, pageVariable_of_globalValue? hv⟩ hscript hl
  | none =>
    rw [hscript] at hcan
    refine ⟨uninherited_of_isFree hm, uninherited_of_isFree hn,
      ⟨v, pageVariable_of_globalValue? hv, ?_⟩, fun _ h => nomatch hscript.symm.trans h⟩
    rintro - m rfl
    simp only [Option.isSome_none, Bool.false_or, canBeModule, Bool.and_eq_true,
      decide_eq_true_eq] at hcan
    exact ⟨Option.isSome_iff_exists.1 hcan.1.1, hcan.1.2, hcan.2⟩

theorem module?_eq_some {m : Nat} (hb : r.data? Base.globals.place namespaceName =
    some (.object space)) : module? namespaceName module r = some m ↔
      r.data? space module = some (.object m) := by
  unfold module?
  rw [hb]
  dsimp only
  constructor
  · intro h
    split at h
    · next hm =>
      cases h
      exact hm
    · cases h
  · intro h
    rw [h]

theorem receives_of_isReceived (h : isReceived namespaceName b r = true) :
    Receives namespaceName b r := by
  intro hs space m o hspace hm
  rcases Bool.or_eq_true_iff.1 h with h | h
  · exact absurd (Option.isNone_iff_eq_none.1 h) hs
  · cases (Option.isNone_iff_eq_none.1 h).symm.trans ((module?_eq_some hspace).2 hm)

/-- A call of a constant function spares the namespace. -/
theorem spares_of_isConstant (hengine : h.platform.engine = Script.engine)
    (hns : h.config.namespaceName = namespaceName) (hp : h.page = some r)
    (hN : Namespace namespaceName space r) (hc : isConstant namespaceName module name r = true)
    (hr' : (left (invoke module name [] h)).page = some r') : Spares namespaceName space r r' := by
  obtain ⟨m, hm, hf⟩ := (Option.any_eq_true _ _).1 hc
  split at hf
  · next place hplace =>
    obtain ⟨o, ho, hl⟩ := (Option.any_eq_true _ _).1 hf
    obtain ⟨l, hl⟩ := Option.isSome_iff_exists.1 hl
    have hconst := Script.Object.isConstant_of_constant? hl
    have hof : Offers space r module name m (.object place) :=
      ⟨(module?_eq_some hN.bound).1 hm, hplace, hconst.isFunction ho⟩
    subst hns
    obtain ⟨h', r'', happly, hr'', hk⟩ :=
      apply_of_constant (h := h.withRealm r) hengine rfl ho hconst (.object m)
    rw [invoke_of_found hp (hof.function?_eq hN.bound), happly] at hr'
    cases hr''.symm.trans hr'
    exact hN.spares hk
  · cases hf

end Host

namespace Session

variable {config : Config} {platform : Platform} {s : Session} {tr before after : Trace}
  {page : Page.Source}

/-- Whether something can be said of the page, if there is one. -/
def checksPage (s : Session) (check : Realm → Bool) : Bool := s.engine.all (·.host.page.all check)

/-- Whether a call is tame, if functions are constant. -/
def Call.isTame (namespaceName : String) (s : Session) : Call → Bool
  | .load _ | .register _ | .evaluate _ => false
  | .invoke module name args =>
    args.isEmpty && s.checksPage (Host.isConstant namespaceName module name)
  | .registerScript b => s.checksPage (Host.isInstallable namespaceName b)
  | _ => true

/-- Whether an event is tame, if functions are constant. -/
def Event.isTame (namespaceName : String) (s : Session) : Event → Bool
  | .call c | .late c | .own c => c.isTame namespaceName s
  | .install b => s.checksPage (Host.isInstallable namespaceName b)
  | .load page => s.engine.all fun e => match Host.load page e.host with
    | .ok _ h => h.page.all (Host.isBare namespaceName)
    | .error _ _ => true
  | .note _ | .start | .abandon | .stop => true

/-- Whether the function that an event installs comes without a script, or for a new module. -/
def Event.isReceived (namespaceName : String) (s : Session) (ev : Event) : Bool :=
  ev.installs.all fun b => s.checksPage (Host.isReceived namespaceName b)

theorem of_checksPage {check : Realm → Bool} {Q : Realm → Prop} (h : s.checksPage check = true)
    (hq : ∀ r, check r = true → Q r) : s.OnPage fun _ r => Q r := fun e r he hr =>
  hq r ((Option.all_eq_true _ _).1 ((Option.all_eq_true _ _).1 h e he) r hr)

theorem received_of_isReceived {ev : Event} (h : ev.isReceived config.namespaceName s = true) :
    ev.Received config.namespaceName s := fun b hb =>
  of_checksPage ((Option.all_eq_true _ _).1 h b hb) fun _ => Host.receives_of_isReceived

section tame
variable (hh : Housed config platform s) (hengine : platform.engine = Script.engine)
include hh hengine

theorem installs_of_isInstallable {b : Binding}
    (h : s.checksPage (Host.isInstallable config.namespaceName b) = true) :
    s.Installs config.namespaceName b := by
  intro e r he hr
  have hi : Host.Installable Script.engine config.namespaceName b r :=
    of_checksPage h (fun _ => Host.installable_of_isInstallable) e r he hr
  rwa [(hh.host e he).2, hengine]

theorem tame_of_call {c : Call} (h : c.isTame config.namespaceName s = true) :
    c.Tame config.namespaceName s := by
  cases c with
  | load | register | evaluate => cases h
  | registerScript b => exact installs_of_isInstallable hh hengine h
  | invoke module name args =>
    obtain ⟨hargs, hc⟩ := Bool.and_eq_true_iff.1 h
    cases List.isEmpty_iff.1 hargs
    intro e r he hr space r' hN hr'
    have hns := congrArg Config.namespaceName (hh.host e he).1
    exact Host.spares_of_isConstant ((hh.host e he).2 ▸ hengine) hns hr hN
      (of_checksPage hc (fun _ hr => hr) e r he hr) hr'
  | _ => trivial

theorem tame_of_isTame {ev : Event} (h : ev.isTame config.namespaceName s = true) :
    ev.Tame config.namespaceName s := by
  cases ev with
  | call c | late c | own c => exact tame_of_call hh hengine h
  | install b => exact installs_of_isInstallable hh hengine h
  | load page =>
    intro e h' r he hl hr
    have hb := (Option.all_eq_true _ _).1 h e he
    rw [hl] at hb
    exact Host.bare_of_isBare ((Option.all_eq_true _ _).1 hb r hr)
  | note _ | start | abandon | stop => trivial

end tame

/-- What a check of an event and its session tells, it tells of all events of a run. -/
theorem of_runAllTrace {id : Nat} {ops : List Operation} {check : Event → Session → Bool}
    {Q : Event → Session → Prop}
    (hq : ∀ ev s, Housed config platform s → check ev s = true → Q ev s)
    (h : (runAllTrace ops (new id config platform)).all (fun p => check p.1 p.2) = true) :
    ∀ p ∈ runAllTrace ops (new id config platform), Q p.1 p.2 := by
  rintro ⟨ev, t⟩ hp
  obtain ⟨before, after, htr⟩ := List.append_of_mem hp
  obtain ⟨m, _, hl, rfl, -, -⟩ := (htr ▸ leads_runAll ops (new id config platform)).split
  exact hq ev m.session ((housed_new id config platform).leads hl)
    (List.all_eq_true.1 h (ev, m.session) hp)

/-- A trace before, at and behind the event that loads the last page. -/
def lastLoad : Trace → Option (Trace × Page.Source × Session × Trace)
  | [] => none
  | p :: tr => match lastLoad tr with
    | some (before, page, s, after) => some (p :: before, page, s, after)
    | none => match p with
      | (.load page, s) => some ([], page, s, tr)
      | _ => none

theorem not_loads_of_lastLoad (h : lastLoad tr = none) : ∀ p ∈ tr, ¬ p.1.Loads p.2 := by
  induction tr with
  | nil => simp
  | cons p tr ih =>
    unfold lastLoad at h
    split at h
    · cases h
    · next hnone =>
      refine List.forall_mem_cons.2 ⟨?_, ih hnone⟩
      rintro ⟨page, _, hp, -⟩
      obtain ⟨ev, s⟩ := p
      cases hp
      cases h

theorem eq_of_lastLoad (h : lastLoad tr = some (before, page, s, after)) :
    tr = before ++ (.load page, s) :: after ∧ ∀ p ∈ after, ¬ p.1.Loads p.2 := by
  induction tr generalizing before with
  | nil => cases h
  | cons p tr ih =>
    unfold lastLoad at h
    split at h
    · next before' page' s' after' hl =>
      cases h
      obtain ⟨rfl, hn⟩ := ih hl
      exact ⟨rfl, hn⟩
    · next hnone =>
      split at h
      · cases h
        exact ⟨rfl, not_loads_of_lastLoad hnone⟩
      · cases h

end Session
end ScriptProxy
