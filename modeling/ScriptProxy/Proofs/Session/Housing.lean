import ScriptProxy.Proofs.Host.Handles
import ScriptProxy.Proofs.Session.Run

/-!
# The hosts of a session

Whatever happens in a session, it keeps its configuration and its platform, and the host of its engine
has the same: `Housed.leads`.
-/

namespace ScriptProxy.Session

open Import (Config)
open ScriptProxy.Outcome (left)

variable {α : Type} {config : Config} {platform : Platform} {s : Session} {m m' : Moment} {ev : Event}
  {tr : Trace}

/-- The session and the host of its engine have the configuration and the platform. -/
structure Housed (config : Config) (platform : Platform) (s : Session) : Prop where
  host : ∀ e, s.engine = some e → e.host.config = config ∧ e.host.platform = platform
  config : s.config = config
  platform : s.platform = platform

/-- The action leaves the configuration and the platform of the host as they are. -/
def Steady (m : EStateM Failure Host α) : Prop :=
  ∀ h, (left (m h)).config = h.config ∧ (left (m h)).platform = h.platform

theorem steady_load (page : Page.Source) : Steady (Host.load page) := by
  intro h
  cases hl : Host.load page h with
  | ok a h' => exact ⟨(Host.kept_load hl).config, (Host.kept_load hl).platform⟩
  | error f h' =>
    rcases Host.of_load_eq_error hl with rfl | ⟨-, hc, hp, -⟩
    · exact ⟨rfl, rfl⟩
    · exact ⟨hc, hp⟩

theorem steady_register (b : Import.Binding) : Steady (Host.register b) := fun h =>
  ⟨(Host.kept_register b h).config, (Host.kept_register b h).platform⟩

theorem steady_invoke (module name : String) (args : List Exchange.Value) :
    Steady (Host.invoke module name args) := fun h =>
  ⟨(Host.gives_invoke module name args h).config, (Host.gives_invoke module name args h).platform⟩

theorem steady_evaluate (text : String) : Steady (Host.evaluate text) := fun h =>
  have hg := Host.gives_handedOut (Host.kept_evaluating (·.run text)) h
  ⟨hg.config, hg.platform⟩

namespace Housed

/-- Only the hosts of the engines matter. -/
theorem congr {s' : Session} (h : Housed config platform s) (hc : s'.config = s.config)
    (hp : s'.platform = s.platform) (he : s'.engine.map (·.host) = s.engine.map (·.host)) :
    Housed config platform s' := by
  refine ⟨fun e' he' => ?_, hc.trans h.config, hp.trans h.platform⟩
  rw [he', Option.map_some] at he
  obtain ⟨e, hse, heq⟩ := Option.map_eq_some_iff.1 he.symm
  rw [← heq]
  exact h.host e hse

theorem onHost {m : EStateM Failure Host α} (h : Housed config platform s) (hm : Steady m) :
    Housed config platform (settled (Session.onHost m) s) := by
  cases he : s.engine with
  | none =>
    rw [settled_of_error (onHost_of_none m he)]
    exact h
  | some e =>
    rw [settled_onHost m he]
    refine ⟨?_, h.config, h.platform⟩
    rintro _ ⟨rfl⟩
    exact ⟨(hm e.host).1.trans (h.host e he).1, (hm e.host).2.trans (h.host e he).2⟩

theorem noted (h : Housed config platform s) (b : Import.Binding) :
    Housed config platform (s.noted b) := h.congr rfl rfl rfl

theorem answer (h : Housed config platform s) (c : Call) :
    Housed config platform (settled (Session.answer c) s) := by
  have shelved (shelf : Exchange.Shelf) (held : List Exchange.Handle) :
      Housed config platform (s.shelve shelf held) := by
    refine ⟨fun e' he' => ?_, h.config, h.platform⟩
    obtain ⟨e, he, rfl⟩ := Option.map_eq_some_iff.1 he'
    exact h.host e he
  by_cases hre : c.reenters = true
  · rwa [settled_answer_of_reenters hre]
  cases c with
  | load page => exact h.onHost (steady_load page)
  | register b => exact h.onHost (steady_register b)
  | invoke module name args => exact h.onHost (steady_invoke module name args)
  | evaluate text => exact h.onHost (steady_evaluate text)
  | registerScript b =>
    show Housed _ _ (settled (registerInside b) s)
    rw [settled_registerInside]
    exact (h.noted b).onHost (steady_register b)
  | isLoaded => exact h.onHost (m := return (← get).isLoaded) fun _ => ⟨rfl, rfl⟩
  | generation => exact h.onHost (m := return (← get).generation) fun _ => ⟨rfl, rfl⟩
  | liveHandles => exact h.onHost (m := Host.liveHandles) fun _ => ⟨rfl, rfl⟩
  | describeHost => exact h.onHost (m := return (← get).describe) fun _ => ⟨rfl, rfl⟩
  | hide =>
    show Housed _ _ s.hide
    unfold Session.hide
    split
    · exact h.congr rfl rfl rfl
    · exact h
  | keep name v => exact shelved _ _
  | giveUp name => exact shelved _ _
  | discard v => exact shelved s.outside.shelf _
  | execute | launch _ | shutdown => exact absurd rfl hre
  | takePrinted => exact h.congr rfl rfl rfl
  | namespaceName | state | isEngine | kept _ => exact h

theorem does (hd : Does ev m m') (h : Housed config platform m.session) :
    Housed config platform m'.session := by
  cases hd with
  | call | late => exact h.answer _
  | @keep s name v => exact h.answer (.keep name v)
  | @giveUp s name => exact h.answer (.giveUp name)
  | @discard s v => exact h.answer (.discard v)
  | note => exact h.noted _
  | @start s q =>
    show Housed _ _ s.withEngine
    unfold withEngine
    split
    · exact h
    · refine ⟨?_, h.config, h.platform⟩
      rintro _ ⟨rfl⟩
      exact ⟨h.config, h.platform⟩
  | abandon => exact h
  | stop => exact ⟨nofun, h.config, h.platform⟩
  | @load s s' page q hb hl => exact settled_of_ok hl ▸ h.onHost (steady_load page)
  | @failLoad s s' page q f hl => exact settled_of_error hl ▸ h.onHost (steady_load page)
  | install => exact h.onHost (steady_register _)

theorem quiet (hq : Quiet m m') (h : Housed config platform m.session) :
    Housed config platform m'.session := by
  cases hq with
  | mark => exact h.congr rfl rfl rfl
  | ask | pass | takeUp | drop => exact h
  | defer => exact h.congr rfl rfl (by simp [enqueue, Function.comp_def])
  | park => exact h.congr rfl rfl (by simp [park, Function.comp_def])
  | resume he => exact h.congr rfl rfl (by simp [resumed, he])

theorem leads (hl : Leads m tr m') (h : Housed config platform m.session) :
    Housed config platform m'.session :=
  hl.preserves (P := fun m => Housed config platform m.session) (K := fun _ _ => True)
    (fun _ _ => quiet) (fun _ _ _ hd _ => does hd) (fun _ _ => trivial) h

end Housed

theorem housed_new (id : Nat) (config : Config) (platform : Platform) :
    Housed config platform (new id config platform) := ⟨nofun, rfl, rfl⟩

end ScriptProxy.Session
