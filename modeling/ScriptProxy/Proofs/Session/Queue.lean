import ScriptProxy.Proofs.Session.Record

/-!
# What the engine is still to install

`Moment.awaiting` lists the functions that stand in the queue of the engine or have been taken up
from it. Every function that is noted comes to its end, and those of the record come to its front
when a page is loaded: `awaiting_does`. While no work is held up the queue is empty (`Clear`), so that
between two operations nothing is awaited then.
-/

namespace ScriptProxy.Session

open Import (Binding)

variable {s s' : Session} {m m' : Moment} {ev : Event} {tr : Trace} {b : Binding}

/-- The function that a command installs. -/
def Command.binding? : Command → Option Binding
  | .register b => some b
  | _ => none

def queue (s : Session) : List Command := s.engine.elim [] (·.queue)

/-- The functions that are to be installed, in order. -/
def Moment.awaiting (m : Moment) : List Binding :=
  (m.session.queue ++ m.pending).filterMap Command.binding?

/-- The queue is empty unless work is held up. -/
def Clear (s : Session) : Prop := s.isBlocked = false → s.queue = []

/-- An event that replaces the page. -/
def Event.Loads (ev : Event) (s : Session) : Prop :=
  ∃ page s', ev = .load page ∧ onHost (Host.load page) s = .ok () s'

theorem Kept.queue (h : Kept s s') : s'.queue = s.queue := by
  have hq (s : Session) : s.queue = (s.engine.map fun e => (e.waiting, e.queue)).elim [] (·.2) := by
    unfold Session.queue
    cases s.engine <;> rfl
  rw [hq, hq, h.line]

theorem queue_withEngine (s : Session) : s.withEngine.queue = s.queue := by
  unfold withEngine
  split
  · rfl
  · next he => simp [queue, he]

theorem Moment.awaiting_eq (h : s.queue = []) (q : List Command) :
    Moment.awaiting ⟨s, q⟩ = q.filterMap Command.binding? := by
  rw [Moment.awaiting, h, List.nil_append]

namespace Clear

theorem congr (hc : Clear s) (hb : s'.isBlocked = s.isBlocked) (hq : s'.queue = s.queue) :
    Clear s' := fun h => hq.trans (hc (hb.symm.trans h))

theorem kept (hc : Clear s) (hk : Kept s s') : Clear s' := hc.congr hk.isBlocked hk.queue

theorem of_none (he : s.engine = none) : Clear s := fun _ => by rw [Session.queue, he]; rfl

theorem quiet (hq : Quiet m m') (hc : Clear m.session) : Clear m'.session := by
  cases hq with
  | mark | ask | pass | takeUp | drop => exact hc
  | @defer s q hb =>
    have hb' : (s.enqueue q).isBlocked = s.isBlocked := by
      simp [isBlocked, enqueue, Option.any_map]
    exact fun h => by simp [hb', hb] at h
  | @park s rest q hb =>
    intro h
    cases he : s.engine with
    | none => simp [Session.queue, Session.park, he]
    | some e => simp [isBlocked, Session.park, he] at h
  | @resume s host rest queue he => exact fun _ => by simp [Session.queue, resumed, he]

theorem does (hd : Does ev m m') (hc : Clear m.session) : Clear m'.session := by
  cases hd with
  | call | late => exact hc.kept (.answer _ _)
  | @keep s name v => exact hc.kept (.answer (.keep name v) s)
  | @giveUp s name => exact hc.kept (.answer (.giveUp name) s)
  | @discard s v => exact hc.kept (.answer (.discard v) s)
  | note | abandon => exact hc
  | @start s => exact hc.congr (isBlocked_withEngine s) (queue_withEngine s)
  | stop => exact .of_none rfl
  | @load s s' page q hb hl => exact hc.kept (settled_of_ok hl ▸ Kept.onHost (Host.load page) s)
  | @failLoad s s' page q f hl =>
    exact hc.kept (settled_of_error hl ▸ Kept.onHost (Host.load page) s)
  | @install s b => exact hc.kept (.onHost (Host.register b) s)

theorem leads (h : Leads m tr m') (hc : Clear m.session) : Clear m'.session :=
  h.preserves (P := fun m => Clear m.session) (K := fun _ _ => True) (fun _ _ => quiet)
    (fun _ _ _ hd _ => does hd) (fun _ _ => trivial) hc

end Clear

/-- What a step does to the functions that are to be installed. -/
theorem awaiting_does (hd : Does ev m m') (hc : Clear m.session) :
    match ev with
    | .note b => m'.awaiting = m.awaiting ++ [b]
    | .install b => m.awaiting = b :: m'.awaiting
    | .stop => m'.awaiting = []
    | .load _ => ev.Loads m.session ∧ m'.awaiting = m'.session.registered ++ m.awaiting ∨
        ¬ ev.Loads m.session ∧ m'.awaiting = m.awaiting
    | _ => m'.awaiting = m.awaiting := by
  have kept {s s' : Session} (hk : Kept s s') (q : List Command) :
      Moment.awaiting ⟨s', q⟩ = Moment.awaiting ⟨s, q⟩ := by
    rw [Moment.awaiting, Moment.awaiting, hk.queue]
  cases hd with
  | call | late => exact kept (.answer _ _) _
  | @keep s name v => exact kept (.answer (.keep name v) s) []
  | @giveUp s name => exact kept (.answer (.giveUp name) s) []
  | @discard s v => exact kept (.answer (.discard v) s) []
  | @note s b => simp [Moment.awaiting, Command.binding?, queue, noted]
  | @start s q =>
    dsimp only
    rw [Moment.awaiting, Moment.awaiting, queue_withEngine]
  | abandon | stop => rfl
  | @load s s' page q hb hl =>
    have hk := Kept.onHost (Host.load page) s
    rw [settled_of_ok hl] at hk
    refine .inl ⟨⟨page, s', rfl, hl⟩, ?_⟩
    rw [Moment.awaiting_eq (hc hb), Moment.awaiting_eq (hk.queue.trans (hc hb))]
    simp [Command.binding?, List.filterMap_cons, List.filterMap_map, Function.comp_def]
  | @failLoad s s' page q f hl =>
    have hk := Kept.onHost (Host.load page) s
    rw [settled_of_error hl] at hk
    refine .inr ⟨?_, ?_⟩
    · rintro ⟨_, _, ⟨rfl⟩, h⟩
      cases hl.symm.trans h
    · rw [Moment.awaiting, Moment.awaiting, hk.queue]
      simp [Command.binding?, List.filterMap_cons]
  | @install s b q hb =>
    have hk : Kept s ((Event.install b).after s) := .onHost (Host.register b) s
    show Moment.awaiting ⟨s, _⟩ = b :: Moment.awaiting ⟨(Event.install b).after s, q⟩
    rw [Moment.awaiting_eq (hc hb), Moment.awaiting_eq (hk.queue.trans (hc hb))]
    rfl

/-- Nothing that is to be installed gets lost, unless there is no engine. -/
theorem awaiting_quiet (hq : Quiet m m') : m'.awaiting = m.awaiting ∨
    m'.session.engine = none ∧ ∃ b, m.awaiting = b :: m'.awaiting := by
  cases hq with
  | mark => exact .inl rfl
  | ask | pass | takeUp =>
    exact .inl (by simp [Moment.awaiting, Command.binding?, List.filterMap_cons])
  | @defer s q hb =>
    obtain ⟨e, he, -⟩ := (Option.any_eq_true _ _).1 hb
    exact .inl (by simp [Moment.awaiting, queue, enqueue, he])
  | @drop s b q hn =>
    have hs : s.queue = [] := by rw [queue, hn]; rfl
    exact .inr ⟨hn, b, by rw [Moment.awaiting_eq hs, Moment.awaiting_eq hs]; rfl⟩
  | @park s rest q hb =>
    refine .inl ?_
    cases he : s.engine <;> simp [Moment.awaiting, queue, park, he]
  | resume h =>
    exact .inl (by simp [Moment.awaiting, queue, resumed, h, Command.binding?, List.filterMap_cons])

end ScriptProxy.Session
