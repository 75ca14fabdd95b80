import ScriptProxy.Proofs.Session.Page

/-!
# Sessions that are ready

The callers take a session for ready as long as `pageReady` says so. If work does not replace the
page on its own, there is a page then, no other is asked for, and work is accepted: `Ready`.
-/

namespace ScriptProxy.Session

open Exchange (Value)
open Import (Binding)

variable {namespaceName : String} {s s' : Session} {m m' : Moment} {ev : Event} {tr : Trace}

theorem hasPage_answer {c : Call} (ht : c.Tame namespaceName s) :
    (settled (answer c) s).hasPage = s.hasPage := by
  have shelved (shelf : Exchange.Shelf) (held : List Exchange.Handle) :
      (s.shelve shelf held).hasPage = s.hasPage := by
    simp [hasPage, shelve, release, Option.any_map, Host.isLoaded, Host.release]
  by_cases hre : c.reenters = true
  · rw [settled_answer_of_reenters hre]
  cases c with
  | load | register | evaluate => exact ht.elim
  | invoke module name args =>
    exact hasPage_onHost _ (fun h => (Host.gives_invoke module name args h).isLoaded) s
  | registerScript b =>
    show (settled (registerInside b) s).hasPage = _
    rw [settled_registerInside]
    exact hasPage_install b (s.noted b)
  | isLoaded => exact hasPage_onHost (return (← get).isLoaded) (fun _ => rfl) s
  | generation => exact hasPage_onHost (return (← get).generation) (fun _ => rfl) s
  | liveHandles => exact hasPage_onHost Host.liveHandles (fun _ => rfl) s
  | describeHost => exact hasPage_onHost (return (← get).describe) (fun _ => rfl) s
  | hide =>
    show s.hide.hasPage = _
    unfold Session.hide
    split <;> rfl
  | keep name v => exact shelved _ _
  | giveUp name => exact shelved _ _
  | discard v => exact shelved s.outside.shelf _
  | execute | launch _ | shutdown => exact absurd rfl hre
  | namespaceName | state | isEngine | kept _ | takePrinted => rfl

theorem state_onHost {α : Type} (m : EStateM Failure Host α) (s : Session) :
    (settled (onHost m) s).state = s.state := by
  cases he : s.engine with
  | none => rw [settled_of_error (onHost_of_none m he)]
  | some e => rw [settled_onHost m he]; rfl

/-- Only by hiding the session can work change its state. -/
theorem state_answer {c : Call} (hc : c ≠ .hide) (s : Session) :
    (settled (answer c) s).state = s.state := by
  by_cases hre : c.reenters = true
  · rw [settled_answer_of_reenters hre]
  cases c with
  | hide => exact absurd rfl hc
  | registerScript b =>
    show (settled (registerInside b) s).state = s.state
    rw [settled_registerInside]
    exact state_onHost (Host.register b) (s.noted b)
  | load page => exact state_onHost (Host.load page) s
  | register b => exact state_onHost (Host.register b) s
  | invoke module name args => exact state_onHost (Host.invoke module name args) s
  | evaluate text => exact state_onHost (Host.evaluate text) s
  | isLoaded => exact state_onHost (return (← get).isLoaded) s
  | generation => exact state_onHost (return (← get).generation) s
  | liveHandles => exact state_onHost Host.liveHandles s
  | describeHost => exact state_onHost (return (← get).describe) s
  | execute | launch _ | shutdown => exact absurd rfl hre
  | namespaceName | state | isEngine | kept _ | keep _ _ | giveUp _ | discard _ | takePrinted => rfl

theorem acceptsWork_answer (c : Call) (h : s.state.acceptsWork = true) :
    (settled (answer c) s).state.acceptsWork = true := by
  by_cases hc : c = .hide
  · subst hc
    show s.hide.state.acceptsWork = true
    unfold Session.hide
    split
    · rfl
    · exact h
  · rwa [state_answer hc]

/-- What holds while a session is taken for ready. -/
structure Ready (m : Moment) : Prop where
  page : m.session.hasPage = true
  unasked : ∀ page, .load page ∉ m.session.queue ++ m.pending
  accepts : m.session.state.acceptsWork = true

theorem Ready.answer {q : List Command} {c : Call} (ht : c.Tame namespaceName s)
    (h : Ready ⟨s, q⟩) : Ready ⟨settled (Session.answer c) s, q⟩ where
  page := (hasPage_answer ht).trans h.page
  unasked := fun page => by
    rw [(Kept.answer c s).queue]
    exact h.unasked page
  accepts := acceptsWork_answer c h.accepts

/-- A session is ready as long as it is taken to be. -/
def Sure (m : Moment) : Prop := m.session.pageReady = true → Ready m

namespace Sure

theorem answer {q : List Command} {c : Call} (ht : c.Tame namespaceName s) (h : Sure ⟨s, q⟩) :
    Sure ⟨settled (Session.answer c) s, q⟩ := fun hr =>
  (h ((Kept.answer c s).pageReady.symm.trans hr)).answer ht

theorem does (hd : Does ev m m') (ht : ev.Tame namespaceName m.session) (h : Sure m) : Sure m' := by
  cases hd with
  | call | late => exact h.answer ht
  | @keep s name v => exact h.answer (show (Call.keep name v).Tame namespaceName s from trivial)
  | @giveUp s name => exact h.answer (show (Call.giveUp name).Tame namespaceName s from trivial)
  | @discard s v => exact h.answer (show (Call.discard v).Tame namespaceName s from trivial)
  | @note s b =>
    intro hr
    obtain ⟨hp, hu, ha⟩ := h hr
    exact ⟨hp, fun page hm => hu page (by simpa [queue, noted] using hm), ha⟩
  | @start s q =>
    unfold withEngine
    split
    · exact h
    · next he =>
      intro hr
      have hp := (h hr).page
      simp [hasPage, he] at hp
  | abandon => exact h
  | stop hn =>
    intro hr
    cases hn.symm.trans hr
  | @load s s' page q hb hl =>
    have hk := Kept.onHost (Host.load page) s
    rw [settled_of_ok hl] at hk
    intro hr
    exact absurd (by simp) ((h (hk.pageReady.symm.trans hr)).unasked page)
  | @failLoad s s' page q f hl =>
    have hk := Kept.onHost (Host.load page) s
    rw [settled_of_error hl] at hk
    intro hr
    exact absurd (by simp) ((h (hk.pageReady.symm.trans hr)).unasked page)
  | @install s b q hb =>
    have hk : Kept s ((Event.install b).after s) := .onHost (Host.register b) s
    intro hr
    obtain ⟨hp, hu, ha⟩ := h (hk.pageReady.symm.trans hr)
    refine ⟨(hasPage_install b s).trans hp, fun page hm => hu page ?_, ?_⟩
    · rw [hk.queue] at hm
      exact List.mem_append.2 ((List.mem_append.1 hm).imp_right (.tail _))
    · exact (congrArg State.acceptsWork (state_onHost (Host.register b) s)).trans ha

theorem quiet (hq : Quiet m m') (hc : Clear m.session) (h : Sure m) : Sure m' := by
  cases hq with
  | @mark s state ready hp ha =>
    intro hr
    have hpage : s.hasPage = true ∧ ∀ page, .load page ∉ s.queue ++ [] := by
      rcases hp hr with hr' | ⟨hp, hb⟩
      · exact ⟨(h hr').page, (h hr').unasked⟩
      · exact ⟨hp, by simp [hc hb]⟩
    exact ⟨hpage.1, hpage.2, ha hr⟩
  | ask hn => exact fun hr => by simp [hn] at hr
  | @pass s w =>
    intro hr
    obtain ⟨hp, hu, ha⟩ := h hr
    exact ⟨hp, fun page hm => hu page (by simpa using hm), ha⟩
  | @defer s q hb =>
    intro hr
    obtain ⟨hp, hu, ha⟩ := h hr
    obtain ⟨e, he, -⟩ := (Option.any_eq_true _ _).1 hb
    refine ⟨?_, fun page hm => hu page ?_, ha⟩
    · simpa [hasPage, enqueue, he] using hp
    · simpa [queue, enqueue, he] using hm
  | takeUp | drop =>
    intro hr
    obtain ⟨hp, hu, ha⟩ := h hr
    exact ⟨hp, fun page hm => hu page
      (List.mem_append.2 ((List.mem_append.1 hm).imp_right (.tail _))), ha⟩
  | @park s rest q hb =>
    intro hr
    obtain ⟨hp, hu, ha⟩ := h hr
    obtain ⟨e, he, -⟩ := (Option.any_eq_true _ s.engine).1 hp
    refine ⟨?_, fun page hm => hu page ?_, ha⟩
    · simpa [hasPage, park, he] using hp
    · simpa [queue, park, he] using hm
  | @resume s host rest q he =>
    intro hr
    obtain ⟨hp, hu, ha⟩ := h hr
    refine ⟨?_, fun page hm => hu page ?_, ha⟩
    · simpa [hasPage, resumed, he] using hp
    · simpa [queue, resumed, he] using hm

end Sure
end ScriptProxy.Session
