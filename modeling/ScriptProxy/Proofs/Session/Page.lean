import ScriptProxy.Proofs.Host.Handles
import ScriptProxy.Proofs.Host.Namespace
import ScriptProxy.Proofs.Session.Queue

/-!
# The page of a session

What becomes of the functions on a page while a session goes on. Work is taken to reach the page by
calls of functions and by registrations only, a page not to define the namespace, scripts to have no
side effects, and calls to leave the namespace alone: `Event.Tame`. Then every event carries the
functions on the page along (`Paged.advances_does`), and an installation puts its function on the page
(`Paged.provides_does`), if the module takes it (`Event.Received`).
-/

namespace ScriptProxy

open Import (Binding)
open Script (Base Realm)
open Outcome (left)

/-- The namespace as the host makes it: a plain object without any property. -/
structure Host.Bare (namespaceName : String) (space : Nat) (r : Realm) : Prop where
  rooted : r.Rooted
  bound : r.data? Base.globals.place namespaceName = some (.object space)
  plain : ∃ o, r.object? space = some o ∧ o.IsPlain ∧ ∀ name, o.own? name = none

namespace Host.Bare
variable {namespaceName : String} {space : Nat} {r : Realm} (h : Host.Bare namespaceName space r)
include h

theorem data?_eq_none (module : String) : r.data? space module = none := by
  obtain ⟨o, ho, -, hnone⟩ := h.plain
  rw [Realm.data?, ho, Option.bind_some, Script.Object.data?, hnone]

theorem isNamespace : Host.Namespace namespaceName space r := by
  obtain ⟨o, ho, hp, -⟩ := h.plain
  refine ⟨h.rooted, h.bound, ⟨o, ho, hp⟩, fun module v hv => ?_, ?_⟩
  · cases (h.data?_eq_none module).symm.trans hv
  · rintro rfl
    cases (h.data?_eq_none namespaceName).symm.trans h.bound

theorem separate : Host.Separate space r where
  distinct := fun module _ _ hm => nomatch (h.data?_eq_none module).symm.trans hm
  plain := fun module _ hm => nomatch (h.data?_eq_none module).symm.trans hm

end Host.Bare

namespace Session

variable {namespaceName module name : String} {s s' : Session} {m m' : Moment} {ev : Event}
  {tr : Trace} {b : Binding} {script? : Option String} {installed : Option Binding}

/-- Something holds of the host and its page, if there is one. -/
def OnPage (s : Session) (Q : Host → Realm → Prop) : Prop :=
  ∀ e r, s.engine = some e → e.host.page = some r → Q e.host r

/-- The installation of a function does nothing but install it. -/
def Installs (namespaceName : String) (s : Session) (b : Binding) : Prop :=
  s.OnPage fun h r => Host.Installable h.platform.engine namespaceName b r

/-- A call that does nothing to the functions on the page but install one. -/
def Call.Tame (namespaceName : String) (s : Session) : Call → Prop
  | .load _ | .register _ | .evaluate _ => False
  | .invoke module name args => s.OnPage fun h r => ∀ space r',
      Host.Namespace namespaceName space r →
        (left (Host.invoke module name args h)).page = some r' →
          Host.Spares namespaceName space r r'
  | .registerScript b => s.Installs namespaceName b
  | _ => True

/-- An event that does nothing to the functions on the page but install one. -/
def Event.Tame (namespaceName : String) (s : Session) : Event → Prop
  | .call c | .late c | .own c => c.Tame namespaceName s
  | .install b => s.Installs namespaceName b
  | .load page => ∀ e h r, s.engine = some e → Host.load page e.host = .ok () h →
      h.page = some r → ∃ space, Host.Bare namespaceName space r
  | .note _ | .start | .abandon | .stop => True

/-- The function that an event puts on the page. -/
def Event.installs : Event → Option Binding
  | .install b => some b
  | .call c | .late c | .own c => c.registers
  | _ => none

/-- The module of the function that an event puts on the page takes it. -/
def Event.Received (namespaceName : String) (s : Session) (ev : Event) : Prop :=
  ∀ b ∈ ev.installs, s.OnPage fun _ r => Host.Receives namespaceName b r

/-- An event does nothing to the functions on the page but install one, which its module takes. -/
def Event.Mild (namespaceName : String) (s : Session) (ev : Event) : Prop :=
  ev.Tame namespaceName s ∧ ev.Received namespaceName s

/-- Every host has the same name for the namespace, and the page has a namespace of that name. -/
structure Paged (namespaceName : String) (s : Session) : Prop where
  config : s.config.namespaceName = namespaceName
  host : ∀ e, s.engine = some e → e.host.config.namespaceName = namespaceName
  page : s.OnPage fun _ r => ∃ space, Host.Namespace namespaceName space r

/-- The modules on the page have been made for the namespace, each for its own name. -/
def Apart (namespaceName : String) (s : Session) : Prop :=
  s.OnPage fun _ r => ∀ space, Host.Namespace namespaceName space r → Host.Separate space r

theorem Apart.received (ha : Apart namespaceName s) (hp : Paged namespaceName s) (ev : Event) :
    ev.Received namespaceName s := fun b _ e r he hr =>
  let ⟨space, hN⟩ := hp.page e r he hr
  (ha e r he hr space hN).receives hN.bound b

/-- The page comes from the one of the session, whose functions are carried along. -/
def Carried (namespaceName : String) (installed : Option Binding) (s : Session) (h' : Host)
    (r' : Realm) : Prop :=
  ∃ e r space, s.engine = some e ∧ e.host.page = some r ∧ h'.platform = e.host.platform ∧
    Host.Namespace namespaceName space r ∧ Host.Namespace namespaceName space r' ∧
    Host.Carries space installed r r'

/-- The page has a function for a module and name. If a script is given, the function is what the
script has evaluated to. -/
def Provides (namespaceName : String) (script? : Option String) (s : Session)
    (module name : String) : Prop :=
  s.OnPage fun h r => ∃ space m f, Host.Namespace namespaceName space r ∧
    Host.Offers space r module name m f ∧
      ∀ script, script? = some script → Host.Stems h.platform.engine script f r

theorem Provides.of_none (he : s.engine = none) :
    Provides namespaceName script? s module name :=
  fun _ _ h => nomatch he.symm.trans h

theorem Provides.any (hs : Provides namespaceName script? s module name) :
    Provides namespaceName none s module name := fun e r he hr =>
  let ⟨space, m, f, hN, ho, _⟩ := hs e r he hr
  ⟨space, m, f, hN, ho, nofun⟩

theorem space_eq {space space' : Nat} {r : Realm} (h : Host.Namespace namespaceName space r)
    (h' : Host.Namespace namespaceName space' r) : space = space' := by
  have hb := h.bound.symm.trans h'.bound
  simpa using hb

/-- What a step does to the pages: there is a namespace on every page still, and the functions are
carried along. -/
structure Advances (namespaceName : String) (installed : Option Binding) (s s' : Session) :
    Prop where
  paged : Paged namespaceName s'
  carried : s'.OnPage (Carried namespaceName installed s)

namespace Advances
variable (h : Advances namespaceName installed s s')
include h

/-- The page still has some function where it had one. -/
theorem provides_any (hs : Provides namespaceName none s module name) :
    Provides namespaceName none s' module name := by
  intro e' r' he' hr'
  obtain ⟨e, r, space, he, hr, -, hN, hN', hc⟩ := h.carried e' r' he' hr'
  obtain ⟨space', m, f, hN₂, ho, -⟩ := hs e r he hr
  obtain rfl := space_eq hN hN₂
  obtain ⟨f', ho'⟩ := hc.present ho
  exact ⟨space, m, f', hN', ho', nofun⟩

/-- The page still has the function that is not replaced under its own name. -/
theorem provides (ha : Apart namespaceName s')
    (hx : ∀ b ∈ installed, b.script ≠ none → b.key ≠ (module, name))
    (hs : Provides namespaceName script? s module name) :
    Provides namespaceName script? s' module name := by
  intro e' r' he' hr'
  obtain ⟨e, r, space, he, hr, hplatform, hN, hN', hc⟩ := h.carried e' r' he' hr'
  obtain ⟨space', m, f, hN₂, ho, hst⟩ := hs e r he hr
  obtain rfl := space_eq hN hN₂
  obtain ⟨ho', hobj⟩ := hc.functions (ha e' r' he' hr' space hN') ho hx
  refine ⟨space, m, f, hN', ho', fun script hsc => ?_⟩
  obtain ⟨r₁, r₂, hrun, hf⟩ := hst script hsc
  exact ⟨r₁, r₂, hplatform ▸ hrun, hobj.trans hf⟩

theorem apart (ha : Apart namespaceName s) (hi : ∀ b ∈ installed, b.script ≠ none) :
    Apart namespaceName s' := by
  intro e' r' he' hr' space' hN₂
  obtain ⟨e, r, space, he, hr, -, hN, hN', hc⟩ := h.carried e' r' he' hr'
  obtain rfl := space_eq hN' hN₂
  exact hc.separate (ha e r he hr space hN) hi

end Advances

/-! ### Every step -/

namespace Paged

theorem advances (hp : Paged namespaceName s) (hconf : s'.config = s.config)
    (h : ∀ e', s'.engine = some e' → e'.host.config.namespaceName = namespaceName ∧
      ∀ r', e'.host.page = some r' → Carried namespaceName installed s e'.host r') :
    Advances namespaceName installed s s' where
  carried := fun e' r' he' hr' => (h e' he').2 r' hr'
  paged := ⟨hconf ▸ hp.config, fun e' he' => (h e' he').1, fun e' r' he' hr' =>
    let ⟨_, _, space, _, _, _, _, hN', _⟩ := (h e' he').2 r' hr'
    ⟨space, hN'⟩⟩

/-- A page whose namespace is not touched is carried along. -/
theorem carried_of_spares {e : Engine} {h' : Host} {r r' : Realm} (hp : Paged namespaceName s)
    (he : s.engine = some e) (hr : e.host.page = some r) (hplatform : h'.platform = e.host.platform)
    (hk : ∀ space, Host.Namespace namespaceName space r → Host.Spares namespaceName space r r') :
    Carried namespaceName installed s h' r' :=
  let ⟨space, hN⟩ := hp.page e r he hr
  ⟨e, r, space, he, hr, hplatform, hN, (hk space hN).namespace_of hN, (hk space hN).carries⟩

theorem carried_self {e : Engine} {h' : Host} {r : Realm} (hp : Paged namespaceName s)
    (he : s.engine = some e) (hr : e.host.page = some r)
    (hplatform : h'.platform = e.host.platform) : Carried namespaceName installed s h' r :=
  hp.carried_of_spares he hr hplatform fun _ hN => hN.spares (.refl r)

/-- The hosts are the same but for what does not concern their pages. -/
theorem advances_of_page (hp : Paged namespaceName s) (hconf : s'.config = s.config)
    (h : ∀ e', s'.engine = some e' → ∃ e, s.engine = some e ∧ e'.host.config = e.host.config ∧
      e'.host.platform = e.host.platform ∧ e'.host.page = e.host.page) :
    Advances namespaceName installed s s' := by
  refine hp.advances hconf fun e' he' => ?_
  obtain ⟨e, he, hc, hplatform, hpage⟩ := h e' he'
  exact ⟨hc ▸ hp.host e he, fun r' hr' => hp.carried_self he (hpage ▸ hr') hplatform⟩

theorem advances_onHost {α : Type} (hp : Paged namespaceName s) (m : EStateM Failure Host α)
    (h : ∀ e, s.engine = some e → (left (m e.host)).config = e.host.config ∧
      ∀ r', (left (m e.host)).page = some r' →
        Carried namespaceName installed s (left (m e.host)) r') :
    Advances namespaceName installed s (settled (onHost m) s) := by
  cases he : s.engine with
  | none =>
    rw [settled_of_error (onHost_of_none m he)]
    refine hp.advances_of_page rfl fun e' he' => ?_
    cases he.symm.trans he'
  | some e =>
    rw [settled_onHost m he]
    obtain ⟨hc, hr⟩ := h e he
    refine hp.advances rfl ?_
    rintro _ ⟨rfl⟩
    exact ⟨(congrArg Import.Config.namespaceName hc).trans (hp.host e he), hr⟩

/-- What an action of the host that leaves its page does to the pages. -/
theorem advances_of_same {α : Type} (hp : Paged namespaceName s) (m : EStateM Failure Host α)
    (h : ∀ h, (left (m h)).config = h.config ∧ (left (m h)).platform = h.platform ∧
      (left (m h)).page = h.page) :
    Advances namespaceName installed s (settled (onHost m) s) := by
  refine hp.advances_onHost m fun e he => ⟨(h e.host).1, fun r' hr' => ?_⟩
  rw [(h e.host).2.2] at hr'
  exact hp.carried_self he hr' (h e.host).2.1

section install
variable (hp : Paged namespaceName s) (hi : s.Installs namespaceName b)
  (ht : s.OnPage fun _ r => Host.Receives namespaceName b r)
include hp hi ht

theorem advances_install :
    Advances namespaceName (some b) s ((Event.install b).after s) := by
  have hkept (h : Host) := Host.kept_register b h
  refine hp.advances_onHost (Host.register b) fun e he => ⟨(hkept e.host).config, ?_⟩
  cases hr : e.host.page with
  | none =>
    rw [Host.register_of_unloaded b hr]
    intro r' hr'
    cases hr.symm.trans hr'
  | some r =>
    obtain ⟨space, hN⟩ := hp.page e r he hr
    obtain ⟨r', hr', hN', hc, -⟩ :=
      Host.register_of_namespace (hp.host e he) hr hN (hi e r he hr) (ht e r he hr)
    intro r'' hr''
    cases hr'.symm.trans hr''
    exact ⟨e, r, space, he, hr, (hkept e.host).platform, hN, hN', hc⟩

/-- A function that is installed with its script is on the page. -/
theorem provides_install (hs : b.script ≠ none) :
    Provides namespaceName b.script ((Event.install b).after s) b.module b.name := by
  obtain ⟨script, hscript⟩ := Option.ne_none_iff_exists'.1 hs
  show Provides namespaceName b.script (settled (onHost (Host.register b)) s) _ _
  cases he : s.engine with
  | none =>
    rw [settled_of_error (onHost_of_none _ he)]
    exact .of_none he
  | some e =>
    rw [settled_onHost _ he]
    rintro _ r' ⟨rfl⟩ hr'
    cases hr : e.host.page with
    | none =>
      rw [Host.register_of_unloaded b hr] at hr'
      cases hr.symm.trans hr'
    | some r =>
      obtain ⟨space, hN⟩ := hp.page e r he hr
      obtain ⟨r'', hr'', hN', -, hf⟩ :=
        Host.register_of_namespace (hp.host e he) hr hN (hi e r he hr) (ht e r he hr)
      cases hr''.symm.trans hr'
      obtain ⟨m, f, ho, hst⟩ := hf script hscript
      have hplatform := (Host.kept_register b e.host).platform
      refine ⟨space, m, f, hN', ho, fun script' h => ?_⟩
      cases hscript.symm.trans h
      show Host.Stems (left (Host.register b e.host)).platform.engine script f r'
      rwa [hplatform]

end install

/-- A page that cannot be loaded leaves the one before, or none. -/
theorem advances_failLoad {page : Page.Source} (hp : Paged namespaceName s) {f : Failure}
    (hl : onHost (Host.load page) s = .error f s') : Advances namespaceName installed s s' := by
  have hs := settled_of_error hl
  rw [← hs]
  refine hp.advances_onHost _ fun e he => ?_
  cases h : Host.load page e.host with
  | ok a h' =>
    rw [onHost_of_some _ he, h] at hl
    cases hl
  | error f h' =>
    rcases Host.of_load_eq_error h with rfl | ⟨hnone, hconf, -⟩
    · exact ⟨rfl, fun r hr => hp.carried_self he hr rfl⟩
    · exact ⟨hconf, fun r hr => nomatch hnone.symm.trans hr⟩

/-- A page that is loaded has a namespace, and nothing in it. -/
theorem load {page : Page.Source} (hp : Paged namespaceName s)
    (ht : (Event.load page).Tame namespaceName s) (hl : onHost (Host.load page) s = .ok () s') :
    Paged namespaceName s' ∧ Apart namespaceName s' := by
  obtain ⟨e, h', he, hload, rfl⟩ := onHost_eq_ok hl
  refine ⟨⟨hp.config, ?_, ?_⟩, ?_⟩
  · rintro _ ⟨rfl⟩
    exact (congrArg Import.Config.namespaceName (Host.kept_load hload).config).trans (hp.host e he)
  · rintro _ r ⟨rfl⟩ hr
    obtain ⟨space, hb⟩ := ht e h' r he hload hr
    exact ⟨space, hb.isNamespace⟩
  · rintro _ r ⟨rfl⟩ hr space' hN
    obtain ⟨space, hb⟩ := ht e h' r he hload hr
    exact space_eq hb.isNamespace hN ▸ hb.separate

theorem noted (hp : Paged namespaceName s) (b : Binding) : Paged namespaceName (s.noted b) :=
  ⟨hp.config, hp.host, hp.page⟩

/-- What a tame call does to the pages. -/
theorem advances_answer (hp : Paged namespaceName s) (c : Call) (ht : c.Tame namespaceName s)
    (hr : (Event.call c).Received namespaceName s) :
    Advances namespaceName c.registers s (settled (answer c) s) := by
  have same {s' : Session} (hconf : s'.config = s.config) (he : s'.engine = s.engine) :
      Advances namespaceName none s s' :=
    hp.advances_of_page hconf fun e h => ⟨e, he ▸ h, rfl, rfl, rfl⟩
  have shelved (shelf : Exchange.Shelf) (held : List Exchange.Handle) :
      Advances namespaceName none s (s.shelve shelf held) := by
    refine hp.advances_of_page rfl fun e' he' => ?_
    obtain ⟨e, he, rfl⟩ := Option.map_eq_some_iff.1 he'
    exact ⟨e, he, rfl, rfl, rfl⟩
  by_cases hre : c.reenters = true
  · rw [settled_answer_of_reenters hre]
    cases c with
    | execute | launch _ | shutdown => exact same rfl rfl
    | _ => cases hre
  cases c with
  | load | register | evaluate => exact ht.elim
  | invoke module name args =>
    refine hp.advances_onHost _ fun e he => ?_
    have hg := Host.gives_invoke module name args e.host
    refine ⟨hg.config, fun r' hr' => ?_⟩
    have hl := hg.isLoaded
    rw [Host.isLoaded, hr'] at hl
    obtain ⟨r, hr⟩ := Option.isSome_iff_exists.1 hl.symm
    exact hp.carried_of_spares he hr hg.platform fun space hN => ht e r he hr space r' hN hr'
  | registerScript b =>
    show Advances _ (some b) s (settled (registerInside b) s)
    rw [settled_registerInside]
    have ha := (hp.noted b).advances_install ht (hr b rfl)
    exact ⟨ha.paged, ha.carried⟩
  | isLoaded => exact hp.advances_of_same (return (← get).isLoaded) fun h => ⟨rfl, rfl, rfl⟩
  | generation => exact hp.advances_of_same (return (← get).generation) fun h => ⟨rfl, rfl, rfl⟩
  | liveHandles => exact hp.advances_of_same Host.liveHandles fun h => ⟨rfl, rfl, rfl⟩
  | describeHost => exact hp.advances_of_same (return (← get).describe) fun h => ⟨rfl, rfl, rfl⟩
  | hide =>
    show Advances _ _ s s.hide
    unfold Session.hide
    split <;> exact same rfl rfl
  | keep name v => exact shelved _ _
  | giveUp name => exact shelved _ _
  | discard v => exact shelved s.outside.shelf _
  | execute | launch _ | shutdown => exact absurd rfl hre
  | namespaceName | state | isEngine | kept _ | takePrinted => exact same rfl rfl

end Paged

/-- What a tame step does to the pages, unless it loads one. -/
theorem Paged.advances_does (hd : Does ev m m') (ht : ev.Tame namespaceName m.session)
    (hr : ev.Received namespaceName m.session) (hp : Paged namespaceName m.session)
    (hl : ¬ ev.Loads m.session) : Advances namespaceName ev.installs m.session m'.session := by
  cases hd with
  | call | late => exact hp.advances_answer _ ht hr
  | @keep s name v => exact hp.advances_answer (.keep name v) trivial nofun
  | @giveUp s name => exact hp.advances_answer (.giveUp name) trivial nofun
  | @discard s v => exact hp.advances_answer (.discard v) trivial nofun
  | note => exact hp.advances_of_page rfl fun e he => ⟨e, he, rfl, rfl, rfl⟩
  | @start s q =>
    show Advances _ _ s s.withEngine
    unfold withEngine
    split
    · exact hp.advances_of_page rfl fun e he => ⟨e, he, rfl, rfl, rfl⟩
    · refine hp.advances rfl ?_
      rintro _ ⟨rfl⟩
      exact ⟨hp.config, nofun⟩
  | abandon => exact hp.advances_of_page rfl fun e he => ⟨e, he, rfl, rfl, rfl⟩
  | stop => exact hp.advances_of_page rfl nofun
  | load _ h => exact absurd ⟨_, _, rfl, h⟩ hl
  | failLoad h => exact hp.advances_failLoad h
  | @install s b => exact hp.advances_install ht (hr b rfl)

theorem Paged.does (hd : Does ev m m') (ht : ev.Tame namespaceName m.session)
    (hr : ev.Received namespaceName m.session) (hp : Paged namespaceName m.session) :
    Paged namespaceName m'.session := by
  by_cases hl : ev.Loads m.session
  · obtain ⟨page, s', rfl, hl⟩ := hl
    cases hd with
    | load _ h => exact (hp.load ht h).1
    | failLoad h => cases h.symm.trans hl
  · exact (hp.advances_does hd ht hr hl).paged

/-- Where functions are installed with their scripts only, the modules stay apart. -/
theorem Paged.apart_does (hd : Does ev m m') (ht : ev.Tame namespaceName m.session)
    (hp : Paged namespaceName m.session) (ha : Apart namespaceName m.session)
    (hi : ∀ b ∈ ev.installs, b.script ≠ none) : Apart namespaceName m'.session := by
  by_cases hl : ev.Loads m.session
  · obtain ⟨page, s', rfl, hl⟩ := hl
    cases hd with
    | load _ h => exact (hp.load ht h).2
    | failLoad h => cases h.symm.trans hl
  · exact (hp.advances_does hd ht (ha.received hp ev) hl).apart ha hi

/-- A tame step that installs a function with its script puts it on the page. -/
theorem Paged.provides_does (hd : Does ev m m') (ht : ev.Tame namespaceName m.session)
    (hr : ev.Received namespaceName m.session) (hp : Paged namespaceName m.session)
    (hi : ev.installs = some b) (hs : b.script ≠ none) :
    Provides namespaceName b.script m'.session b.module b.name := by
  have inside {s : Session} {c : Call} (hp : Paged namespaceName s) (ht : c.Tame namespaceName s)
      (hr : (Event.call c).Received namespaceName s) (hi : c.registers = some b) :
      Provides namespaceName b.script (settled (answer c) s) b.module b.name := by
    cases c with
    | registerScript b' =>
      cases hi
      show Provides _ _ (settled (registerInside b) s) _ _
      rw [settled_registerInside]
      exact (hp.noted b).provides_install ht (hr b rfl) hs
    | _ => cases hi
  cases hd with
  | call | late => exact inside hp ht hr hi
  | install =>
    cases hi
    exact hp.provides_install ht (hr b rfl) hs
  | _ => cases hi

theorem Paged.advances_quiet (hq : Quiet m m') (hp : Paged namespaceName m.session) :
    Advances namespaceName none m.session m'.session := by
  have same {s s' : Session} (hp : Paged namespaceName s) (hconf : s'.config = s.config)
      (he : s'.engine.map (·.host) = s.engine.map (·.host)) :
      Advances namespaceName none s s' := by
    refine hp.advances_of_page hconf fun e' he' => ?_
    rw [he', Option.map_some] at he
    obtain ⟨e, hse, heq⟩ := Option.map_eq_some_iff.1 he.symm
    exact ⟨e, hse, by rw [heq], by rw [heq], by rw [heq]⟩
  cases hq with
  | mark | ask | pass | takeUp | drop => exact same hp rfl rfl
  | defer => exact same hp rfl (by simp [enqueue, Function.comp_def])
  | park => exact same hp rfl (by simp [park, Function.comp_def])
  | resume h => exact same hp rfl (by simp [resumed, h])

theorem Paged.leads (h : Leads m tr m')
    (ht : ∀ p ∈ tr, p.1.Tame namespaceName p.2 ∧ p.1.Received namespaceName p.2)
    (hp : Paged namespaceName m.session) : Paged namespaceName m'.session :=
  h.preserves (P := fun m => Paged namespaceName m.session)
    (K := fun ev s => ev.Tame namespaceName s ∧ ev.Received namespaceName s)
    (fun _ _ hq hp => (hp.advances_quiet hq).paged)
    (fun _ _ _ hd ht hp => hp.does hd ht.1 ht.2) ht hp

theorem paged_new (id : Nat) (config : Import.Config) (platform : Platform) :
    Paged config.namespaceName (new id config platform) := ⟨rfl, nofun, nofun⟩

theorem apart_new (id : Nat) (config : Import.Config) (platform : Platform) :
    Apart config.namespaceName (new id config platform) := nofun

end Session
end ScriptProxy
