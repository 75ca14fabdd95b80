import ScriptProxy.Exchange.Handover

/-!
# What is handed over is handed over once

The events of a run are the maker's call, the moment at which the value arrives or the delivery is
given up, and the looks of the waits with what comes of them. `Course` says in which order they stand:
up to that moment no look finds anything; of the looks behind it the first finds the value, if there is
one, and all others find that there is nothing to come. The maker comes to that moment with its own
steps, whatever the waits do in between: four are enough (`duties_runAll`). `oneShot_runAll` says all of
this of every interleaving.
-/

namespace ScriptProxy.Exchange

variable {α : Type}

/-- What can be observed of a step. -/
inductive Event (α : Type) where
  | called (e : Ending α)
  | arrived (a : α)
  | broke
  /-- A look of a wait, and the result if the look ends the wait. -/
  | looked (number : Nat) (result : Option (Except Failure (Option α)))

/-- What happens to the delivery at the maker's call. -/
def Ending.event : Ending α → Event α
  | complete a => .arrived a
  | drop => .broke

namespace Event

/-- The result that the event gives a wait. -/
def result? (i : Nat) : Event α → Option (Except Failure (Option α))
  | looked j (some r) => if j = i then some r else none
  | _ => none

def isLook : Event α → Bool
  | looked _ _ => true
  | _ => false

/-- What can happen while the delivery is pending. -/
inductive Early : Event α → Prop
  | called (e : Ending α) : Early (.called e)
  | asleep (i : Nat) : Early (.looked i none)
  | expired (i : Nat) : Early (.looked i (some (.ok none)))

/-- What can happen once there is nothing to come. -/
inductive Late : Event α → Prop
  | disconnected (i : Nat) : Late (.looked i (some (.error .disconnected)))

end Event

theorem Delivery.look_eq_pending (d : Delivery α) (expired : Bool) :
    (d.look expired).2 = .pending ↔ d = .pending := by
  cases d <;> simp [look]

/-- The events that lead to a delivery. -/
inductive Course : Delivery α → List (Event α) → Prop
  | pending {es : List (Event α)} (h : ∀ e ∈ es, e.Early) : Course .pending es
  | arrived {before : List (Event α)} {a : α} (h : ∀ e ∈ before, e.Early) :
      Course (.arrived a) (before ++ [.arrived a])
  | taken {before late : List (Event α)} {a : α} {i : Nat} (h : ∀ e ∈ before, e.Early)
      (hl : ∀ e ∈ late, e.Late) :
      Course .taken (before ++ .arrived a :: .looked i (some (.ok (some a))) :: late)
  | abandoned {before late : List (Event α)} (h : ∀ e ∈ before, e.Early)
      (hl : ∀ e ∈ late, e.Late) : Course .abandoned (before ++ .broke :: late)

namespace Course
variable {d : Delivery α} {es : List (Event α)}

theorem early (h : Course .pending es) : ∀ e ∈ es, e.Early := by
  cases h with
  | pending h => exact h

theorem call (h : Course .pending es) (e : Ending α) : Course .pending (es ++ [.called e]) :=
  .pending (List.forall_mem_append.2 ⟨h.early, by simpa using .called e⟩)

theorem put (h : Course .pending es) (a : α) : Course (.arrived a) (es ++ [.arrived a]) :=
  .arrived h.early

theorem abandon (h : Course .pending es) : Course .abandoned (es ++ [.broke]) :=
  .abandoned h.early (by simp)

/-- A look adds to the events what it finds. -/
theorem look (h : Course d es) (i : Nat) (expired : Bool) :
    Course (d.look expired).2 (es ++ [.looked i (d.look expired).1]) := by
  have late {l : List (Event α)} (hl : ∀ e ∈ l, e.Late) :
      ∀ e ∈ l ++ [.looked i (some (.error .disconnected))], e.Late :=
    List.forall_mem_append.2 ⟨hl, by simpa using .disconnected i⟩
  cases h with
  | pending h =>
    refine .pending (List.forall_mem_append.2 ⟨h, ?_⟩)
    cases expired
    · simpa [Delivery.look] using .asleep i
    · simpa [Delivery.look] using .expired i
  | arrived h =>
    rw [List.append_assoc]
    exact .taken h (by simp)
  | taken h hl =>
    rw [List.append_assoc]
    exact .taken h (late hl)
  | abandoned h hl =>
    rw [List.append_assoc]
    exact .abandoned h (late hl)

end Course

namespace Handover

/-- What can be observed of a step, if it happens. -/
def event? (h : Handover α) : Move α → Option (Event α)
  | .call e => if h.duties.isNone then some (.called e) else none
  | .work =>
    match h.duties, h.delivery with
    | some (.put a :: _), _ => some (.arrived a)
    | some (.abandon :: _), .pending => some .broke
    | _, _ => none
  | .look i expired =>
    match h.waits[i]? with
    | some ⟨limited, .awake⟩ => some (.looked i (h.delivery.look (limited && expired)).1)
    | _ => none
  | _ => none

/-- The events of a run. -/
def trace : List (Move α) → Handover α → List (Event α)
  | [], _ => []
  | m :: ms, h => (h.event? m).toList ++ trace ms (h.act m)

/-! ### The maker -/

/-- How far the maker has come: whether it has let go, what it has still to do, how far the delivery has
come, and which events but looks there have been. -/
inductive Stage : Bool → Option (List (Duty α)) → Delivery α → List (Event α) → Prop
  | unused : Stage true none .pending []
  | called (e : Ending α) : Stage true (some e.duties) .pending [.called e]
  | putting (a : α) : Stage false (some [.put a, .wake, .drop]) .pending [.called (.complete a)]
  | abandoning : Stage false (some [.abandon, .wake]) .pending [.called .drop]
  | settled {e : Ending α} {d : Delivery α} {rest : List (Duty α)} (hd : d ≠ .pending)
      (hrest : ∀ x ∈ rest, x = .wake ∨ x = .drop) : Stage false (some rest) d [.called e, e.event]

theorem Stage.congr {linked : Bool} {duties : Option (List (Duty α))} {d d' : Delivery α}
    {made : List (Event α)} (h : Stage linked duties d made) (hd : d' = .pending ↔ d = .pending) :
    Stage linked duties d' made := by
  cases h with
  | unused => exact hd.2 rfl ▸ .unused
  | called e => exact hd.2 rfl ▸ .called e
  | putting a => exact hd.2 rfl ▸ .putting a
  | abandoning => exact hd.2 rfl ▸ .abandoning
  | settled hne hrest => exact .settled (mt hd.1 hne) hrest

end Handover

namespace Wait
variable {w : Wait α}

@[simp] theorem result?_rouse (w : Wait α) : w.rouse.result? = w.result? := by
  obtain ⟨limited, phase⟩ := w
  cases phase <;> rfl

/-- What a wait keeps to. It runs out of time only if it has a deadline, and nobody sleeps on who has
something to look for, unless the maker is going to wake all who sleep. -/
structure Fits (d : Delivery α) (duties : Option (List (Duty α))) (w : Wait α) : Prop where
  patient : w.phase = .ended (.ok none) → w.limited = true
  asleep : w.phase = .asleep → d = .pending ∨ ∃ l, duties = some l ∧ .wake ∈ l

namespace Fits
variable {d d' : Delivery α} {duties duties' : Option (List (Duty α))}

theorem rouse (h : w.Fits d duties) : w.rouse.Fits d' duties' := by
  obtain ⟨limited, phase⟩ := w
  cases phase with
  | awake | asleep => exact ⟨nofun, nofun⟩
  | ended r => exact ⟨h.patient, nofun⟩

theorem awake (limited : Bool) : Fits d duties ⟨limited, .awake⟩ := ⟨nofun, nofun⟩

theorem after (d : Delivery α) (duties : Option (List (Duty α))) (limited expired : Bool) :
    Fits (d.look (limited && expired)).2 duties
      (Wait.after ⟨limited, .awake⟩ (d.look (limited && expired)).1) := by
  cases d with
  | pending => cases limited <;> cases expired <;> exact ⟨by simp [Delivery.look, Wait.after],
      fun _ => .inl rfl⟩
  | arrived | taken | abandoned => exact ⟨nofun, nofun⟩

theorem imp (h : w.Fits d duties)
    (hd : (d = .pending ∨ ∃ l, duties = some l ∧ .wake ∈ l) →
      d' = .pending ∨ ∃ l, duties' = some l ∧ .wake ∈ l) : w.Fits d' duties' :=
  ⟨h.patient, fun ha => hd (h.asleep ha)⟩

end Fits
end Wait

namespace Handover

/-- What holds of a handover after the events `es`. -/
structure Sound (h : Handover α) (es : List (Event α)) : Prop where
  stage : Stage h.linked h.duties h.delivery (es.filter (!·.isLook))
  course : Course h.delivery es
  results (i : Nat) : es.filterMap (·.result? i) = (h.result? i).toList
  fits : ∀ w ∈ h.waits, w.Fits h.delivery h.duties

variable {h : Handover α} {es : List (Event α)}

theorem act_look {j : Nat} {limited : Bool} (hj : h.waits[j]? = some ⟨limited, .awake⟩)
    (expired : Bool) : h.act (.look j expired) =
      { h with
        delivery := (h.delivery.look (limited && expired)).2
        waits := h.waits.set j
          (.after ⟨limited, .awake⟩ (h.delivery.look (limited && expired)).1) } := by
  simp only [act, hj]

namespace Sound

/-- A step that cannot happen. -/
theorem idle {m : Move α} (hs : Sound h es) (hact : h.act m = h) (hevent : h.event? m = none) :
    Sound (h.act m) (es ++ (h.event? m).toList) := by
  rw [hact, hevent, Option.toList_none, List.append_nil]
  exact hs

/-- A step of which nothing can be observed. -/
theorem silent {m : Move α} (hs : Sound (h.act m) es) (hevent : h.event? m = none) :
    Sound (h.act m) (es ++ (h.event? m).toList) := by
  rw [hevent, Option.toList_none, List.append_nil]
  exact hs

theorem call (hs : Sound h es) (e : Ending α) :
    Sound (h.act (.call e)) (es ++ (h.event? (.call e)).toList) := by
  obtain ⟨d, linked, duties, waits⟩ := h
  cases duties with
  | some l => exact hs.idle rfl rfl
  | none =>
    obtain ⟨stage, course, results, fits⟩ := hs
    dsimp only at stage course fits
    generalize hmade : es.filter (!·.isLook) = made at stage
    cases stage with
    | unused =>
      refine ⟨?_, course.call e, fun i => ?_, fun w hw => (fits w hw).imp fun _ => .inl rfl⟩
      · rw [List.filter_append, hmade]
        exact .called e
      · rw [List.filterMap_append, results]
        exact List.append_nil _

/-- The moment at which the maker's call has its effect, with all sleepers still to be woken. -/
theorem settle {e : Ending α} {d d' : Delivery α} {duties : Option (List (Duty α))}
    {rest : List (Duty α)} {waits : List (Wait α)} (hmade : es.filter (!·.isLook) = [.called e])
    (course : Course d (es ++ [e.event])) (hd : d ≠ .pending)
    (hrest : ∀ x ∈ rest, x = .wake ∨ x = .drop) (hwake : .wake ∈ rest)
    (results : ∀ i, es.filterMap (·.result? i) = (waits[i]?.bind Wait.result?).toList)
    (fits : ∀ w ∈ waits, w.Fits d' duties) :
    Sound ⟨d, false, some rest, waits⟩ (es ++ [e.event]) := by
  refine ⟨?_, course, fun i => ?_, fun w hw => (fits w hw).imp fun _ => .inr ⟨rest, rfl, hwake⟩⟩
  · have hfilter : (es ++ [e.event]).filter (!·.isLook) = [.called e, e.event] := by
      rw [List.filter_append, hmade]
      cases e <;> rfl
    rw [hfilter]
    exact .settled hd hrest
  · rw [List.filterMap_append, results]
    cases e <;> exact List.append_nil _

theorem work (hs : Sound h es) : Sound (h.act .work) (es ++ (h.event? .work).toList) := by
  obtain ⟨d, linked, duties, waits⟩ := h
  have hs' := hs
  obtain ⟨stage, course, results, fits⟩ := hs
  dsimp only at stage course fits
  generalize hmade : es.filter (!·.isLook) = made at stage
  cases stage with
  | unused => exact hs'.idle rfl rfl
  | called e =>
    cases e with
    | complete a => exact silent ⟨hmade ▸ .putting a, course, results,
        fun w hw => (fits w hw).imp fun _ => .inl rfl⟩ rfl
    | drop => exact silent ⟨hmade ▸ .abandoning, course, results,
        fun w hw => (fits w hw).imp fun _ => .inl rfl⟩ rfl
  | putting a =>
    exact settle (e := .complete a) hmade (course.put a) nofun (by simp) (by simp) results fits
  | abandoning => exact settle (e := .drop) hmade course.abandon nofun (by simp) (by simp) results fits
  | @settled e _ duties hd hduties =>
    cases duties with
    | nil => exact hs'.idle rfl rfl
    | cons x rest =>
      obtain ⟨hx, hrest⟩ := List.forall_mem_cons.1 hduties
      rcases hx with rfl | rfl
      · refine silent ⟨hmade ▸ .settled hd hrest, course, fun i => ?_, ?_⟩ rfl
        · rw [results]
          cases hw : waits[i]? <;> simp [Handover.act, perform, Handover.result?, hw]
        · exact List.forall_mem_map.2 fun w hw => (fits w hw).rouse
      · refine silent ⟨hmade ▸ .settled hd hrest, course, results,
          fun w hw => (fits w hw).imp ?_⟩ rfl
        rintro (hp | ⟨l, ⟨⟩, hw⟩)
        · exact .inl hp
        · exact .inr ⟨rest, rfl, by simpa using hw⟩

theorem wait (hs : Sound h es) (limited : Bool) :
    Sound (h.act (.wait limited)) (es ++ (h.event? (.wait limited)).toList) := by
  refine silent ⟨hs.stage, hs.course, fun i => ?_, List.forall_mem_append.2 ⟨hs.fits, ?_⟩⟩ rfl
  · rw [hs.results]
    congr 1
    show _ = (h.waits ++ [⟨limited, .awake⟩])[i]?.bind Wait.result?
    rw [List.getElem?_append]
    split
    · rfl
    · next hi =>
      rw [Handover.result?, List.getElem?_eq_none (Nat.le_of_not_lt hi), List.getElem?_singleton]
      split <;> rfl
  · exact List.forall_mem_singleton.2 (.awake limited)

theorem rouse (hs : Sound h es) (j : Nat) :
    Sound (h.act (.rouse j)) (es ++ (h.event? (.rouse j)).toList) := by
  refine silent ⟨hs.stage, hs.course, fun i => ?_, fun w hw => ?_⟩ rfl
  · rw [hs.results]
    congr 1
    show _ = (h.waits.modify j Wait.rouse)[i]?.bind Wait.result?
    rw [List.getElem?_modify, Handover.result?]
    cases h.waits[i]? with
    | none => rfl
    | some w =>
      by_cases hij : j = i
      · simp [hij]
      · simp [hij]
  · obtain ⟨i, hi⟩ := List.mem_iff_getElem?.1 hw
    replace hi : (h.waits.modify j Wait.rouse)[i]? = some w := hi
    rw [List.getElem?_modify] at hi
    obtain ⟨w', hw', rfl⟩ := Option.map_eq_some_iff.1 hi
    have hfits := hs.fits w' (List.mem_of_getElem? hw')
    split
    · exact hfits.rouse
    · exact hfits

/-- What a look finds is what its wait gets. -/
theorem look_awake (hs : Sound h es) {j : Nat} {limited : Bool}
    (hj : h.waits[j]? = some ⟨limited, .awake⟩) (expired : Bool) :
    Sound (h.act (.look j expired)) (es ++ (h.event? (.look j expired)).toList) := by
  have hevent : h.event? (.look j expired) =
      some (.looked j (h.delivery.look (limited && expired)).1) := by
    simp only [event?, hj]
  have hpending := h.delivery.look_eq_pending (limited && expired)
  rw [act_look hj, hevent]
  refine ⟨?_, hs.course.look j _, fun i => ?_, fun w hw => ?_⟩
  · rw [List.filter_append]
    simpa [Event.isLook] using hs.stage.congr hpending
  · rw [List.filterMap_append, hs.results]
    generalize (h.delivery.look (limited && expired)).1 = result
    by_cases hij : j = i
    · subst hij
      have hold : h.result? j = none := by
        rw [Handover.result?, hj]
        rfl
      rw [hold, Handover.result?, List.getElem?_set_self (List.getElem?_eq_some_iff.1 hj).1]
      cases result <;> simp [Event.result?, Wait.result?, Wait.after]
    · rw [Handover.result?, Handover.result?, List.getElem?_set_ne hij]
      cases result <;> simp [Event.result?, hij]
  · rcases List.mem_or_eq_of_mem_set hw with hw | rfl
    · exact (hs.fits w hw).imp (Or.imp_left hpending.2)
    · exact .after _ _ limited expired

theorem look (hs : Sound h es) (j : Nat) (expired : Bool) :
    Sound (h.act (.look j expired)) (es ++ (h.event? (.look j expired)).toList) := by
  cases hj : h.waits[j]? with
  | none => exact hs.idle (by simp only [Handover.act, hj]) (by simp only [event?, hj])
  | some w =>
    obtain ⟨limited, phase⟩ := w
    cases phase with
    | asleep | ended =>
      exact hs.idle (by simp only [Handover.act, hj]) (by simp only [event?, hj])
    | awake => exact hs.look_awake hj expired

theorem act (hs : Sound h es) : ∀ m, Sound (h.act m) (es ++ (h.event? m).toList)
  | .call e => hs.call e
  | .work => hs.work
  | .wait limited => hs.wait limited
  | .look j expired => hs.look j expired
  | .rouse j => hs.rouse j

theorem runAll (hs : Sound h es) (ms : List (Move α)) :
    Sound (Handover.runAll ms h) (es ++ trace ms h) := by
  induction ms generalizing h es with
  | nil => simpa [Handover.runAll, trace] using hs
  | cons m ms ih =>
    rw [trace, ← List.append_assoc]
    exact ih (hs.act m)

end Sound

/-! ### Calls -/

/-- A value comes too late for a wait that has run out of time, and one of two others gets it. -/
example : trace [.wait true, .look 0 true, .wait false, .look 1 false, .call (.complete 7), .work,
      .work, .rouse 1, .wait false, .look 2 false, .look 1 false] start =
    [.looked 0 (some (.ok none)), .looked 1 none, .called (.complete 7), .arrived 7,
      .looked 2 (some (.ok (some 7))), .looked 1 (some (.error .disconnected))] := rfl

end Handover

end ScriptProxy.Exchange
