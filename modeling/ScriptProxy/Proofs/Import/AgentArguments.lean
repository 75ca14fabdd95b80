import Mathlib.Data.List.Forall2
import ScriptProxy.Proofs.Import.Items
import ScriptProxy.Proofs.Outcome

/-!
# What agent arguments configure

Whether an item is accepted does not depend on the configuration that it is applied to, and an
accepted item sets what its key governs and nothing else (`Sets`). So a list of items is a map in which
the last item with a key wins: `Configured`. `reads_ofAgentArguments` puts together what this means for
texts.
-/

namespace ScriptProxy.Import.Config

open Outcome

/-! ### One item -/

/-- The key and the value of an item, without the blanks around them. -/
def pair? (item : String) : Option (String × String) :=
  (cut? '=' item).map fun e => (Text.trim e.1, Text.trim e.2)

/-- The class and the method that a text names, with `#` between them. -/
def bridge? (value : String) : Except Failure (String × String) :=
  match cut? '#' value with
  | some (owner, method) => .ok (slashed owner, method)
  | none => .error (.misuse (.notBridge value))

/-- What the settings do that are accepted. -/
inductive Sets (c : Config) : String → String → Config → Prop
  | marker (v : String) : Sets c "annotation" v { c with marker := classDescriptor v }
  | bridge {v owner method : String} (h : bridge? v = .ok (owner, method)) :
      Sets c "bridge" v { c with bridgeClass := owner, bridgeMethod := method }
  | stringWrapper (v : String) :
      Sets c "string_wrapper" v { c with stringWrappers := c.stringWrappers ++ [slashed v] }
  | namespaceName (v : String) : Sets c "namespace" v { c with namespaceName := v }
  | bootTimeout {v : String} {t : Option Duration} (h : timeLimit "boot_timeout_ms" v = .ok t) :
      Sets c "boot_timeout_ms" v { c with bootTimeout := t }
  | executionTimeout {v : String} {t : Option Duration}
      (h : timeLimit "execute_timeout_ms" v = .ok t) :
      Sets c "execute_timeout_ms" v { c with executionTimeout := t }
  | autoBoot {v : String} {b : Bool} (h : boolean "auto_boot" v = .ok b) :
      Sets c "auto_boot" v { c with autoBoot := b }
  | console {v : String} {b : Bool} (h : boolean "console" v = .ok b) :
      Sets c "console" v { c with forwardConsole := b }

theorem set_bridge (c : Config) (value : String) : c.set "bridge" value =
    (fun e => { c with bridgeClass := e.1, bridgeMethod := e.2 }) <$> bridge? value := by
  show (match cut? '#' value with | some (owner, method) => _ | none => _) = _
  unfold bridge?
  cases cut? '#' value <;> rfl

theorem set_eq_ok {c c' : Config} {key value : String} :
    c.set key value = .ok c' ↔ Sets c key value c' := by
  constructor
  · intro h
    by_cases hbridge : key = "bridge"
    · subst hbridge
      obtain ⟨⟨owner, method⟩, hv, rfl⟩ := map_eq_ok.1 ((set_bridge c value).symm.trans h)
      exact .bridge hv
    · unfold set at h
      rw [if_neg hbridge] at h
      split_ifs at h with h₁ h₂ h₃ h₄ h₅ h₆ h₇
      · obtain rfl := Except.ok.inj h
        exact h₁ ▸ .marker value
      · obtain rfl := Except.ok.inj h
        exact h₂ ▸ .stringWrapper value
      · obtain rfl := Except.ok.inj h
        exact h₃ ▸ .namespaceName value
      · subst h₄
        obtain ⟨t, ht, rfl⟩ := map_eq_ok.1 h
        exact .bootTimeout ht
      · subst h₅
        obtain ⟨t, ht, rfl⟩ := map_eq_ok.1 h
        exact .executionTimeout ht
      · subst h₆
        obtain ⟨b, hb, rfl⟩ := map_eq_ok.1 h
        exact .autoBoot hb
      · subst h₇
        obtain ⟨b, hb, rfl⟩ := map_eq_ok.1 h
        exact .console hb
  · intro h
    cases h with
    | marker | stringWrapper | namespaceName => rfl
    | bridge hv => rw [set_bridge, hv]; rfl
    | bootTimeout ht => exact map_eq_ok.2 ⟨_, ht, rfl⟩
    | executionTimeout ht => exact map_eq_ok.2 ⟨_, ht, rfl⟩
    | autoBoot hb => exact map_eq_ok.2 ⟨_, hb, rfl⟩
    | console hb => exact map_eq_ok.2 ⟨_, hb, rfl⟩

/-- What is refused is refused by every configuration, and for the same reason. -/
theorem set_eq_error (c d : Config) {key value : String} {f : Failure}
    (h : c.set key value = .error f) : d.set key value = .error f := by
  by_cases hbridge : key = "bridge"
  · subst hbridge
    rw [set_bridge, map_eq_error] at h ⊢
    exact h
  · unfold set at h ⊢
    rw [if_neg hbridge] at h ⊢
    split_ifs at h ⊢ <;> first | exact h | cases h | exact map_eq_error.2 (map_eq_error.1 h)

theorem apply_eq (c : Config) (item : String) : c.apply item =
    match pair? item with
    | some (key, value) => c.set key value
    | none => .error (.misuse (.notKeyValue item)) := by
  unfold apply pair?
  cases cut? '=' item <;> rfl

theorem apply_eq_ok {c c' : Config} {item : String} : c.apply item = .ok c' ↔
    ∃ key value, pair? item = some (key, value) ∧ Sets c key value c' := by
  rw [apply_eq]
  cases pair? item with
  | none => simp
  | some e =>
    obtain ⟨key, value⟩ := e
    simp [set_eq_ok]

theorem apply_eq_error (c d : Config) {item : String} {f : Failure}
    (h : c.apply item = .error f) : d.apply item = .error f := by
  rw [apply_eq] at h ⊢
  cases hpair : pair? item with
  | none =>
    rw [hpair] at h
    exact h
  | some e =>
    rw [hpair] at h
    exact set_eq_error c d h

/-! ### What a list of items makes of a configuration -/

/-- Induction over the items of a list that is accepted, from the last one to the first. -/
theorem foldlM_induction {I : List String → Config → Prop} {l : List String} {c c' : Config}
    (nil : I [] c')
    (cons : ∀ {item l key v c c₁}, pair? item = some (key, v) → Sets c key v c₁ → I l c₁ →
      I (item :: l) c)
    (hl : l.foldlM apply c = .ok c') : I l c := by
  induction l generalizing c with
  | nil =>
    obtain rfl : c = c' := Except.ok.inj hl
    exact nil
  | cons item l ih =>
    obtain ⟨c₁, hitem, hrest⟩ := bind_eq_ok.1 (List.foldlM_cons.symm.trans hl)
    obtain ⟨key, v, hpair, hsets⟩ := apply_eq_ok.1 hitem
    exact cons hpair hsets (ih hrest)

/-- The values that the items with a key give it, in order. -/
def values (key : String) (l : List String) : List String :=
  l.filterMap fun item => (pair? item).bind fun e => if e.1 = key then some e.2 else none

theorem values_cons {item key' v : String} (h : pair? item = some (key', v)) (key : String)
    (l : List String) :
    values key (item :: l) = if key' = key then v :: values key l else values key l := by
  unfold values
  rw [List.filterMap_cons, h]
  by_cases hkey : key' = key
  · simp [hkey]
  · simp [hkey]

/-- What the last of some values gives, or the default if there are no values. -/
def Last {α : Type} (vs : List String) (read : String → Except Failure α) (default a : α) : Prop :=
  match vs.getLast? with
  | some v => read v = .ok a
  | none => a = default

namespace Last
variable {α : Type} {vs : List String} {read : String → Except Failure α} {a b d d' : α}

theorem cons {v : String} (hv : read v = .ok d) (h : Last vs read d a) :
    Last (v :: vs) read d' a := by
  unfold Last at h ⊢
  rw [List.getLast?_cons]
  cases hlast : vs.getLast? with
  | none =>
    rw [hlast] at h
    exact h ▸ hv
  | some w =>
    rw [hlast] at h
    exact h

theorem unique (h : Last vs read d a) (h' : Last vs read d b) : a = b := by
  unfold Last at h h'
  cases hlast : vs.getLast? with
  | none =>
    rw [hlast] at h h'
    exact h.trans h'.symm
  | some w =>
    rw [hlast] at h h'
    exact Except.ok.inj (h.symm.trans h')

end Last

/-- A part of a configuration that the items with a key set, and no other items. -/
def Governs {α : Type} (key : String) (read : String → Except Failure α) (part : Config → α) :
    Prop :=
  ∀ {c c' : Config} {key' v : String}, Sets c key' v c' →
    if key' = key then read v = .ok (part c') else part c' = part c

theorem Governs.last {α : Type} {key : String} {read : String → Except Failure α}
    {part : Config → α} (h : Governs key read part) {l : List String} {c c' : Config}
    (hl : l.foldlM apply c = .ok c') : Last (values key l) read (part c) (part c') := by
  refine foldlM_induction (I := fun l c => Last (values key l) read (part c) (part c')) rfl ?_ hl
  intro item l key' v c c₁ hpair hsets ih
  have hpart := h hsets
  rw [values_cons hpair]
  split at hpart
  · next hkey =>
    rw [if_pos hkey]
    exact ih.cons hpart
  · next hkey =>
    rw [if_neg hkey, ← hpart]
    exact ih

/-- The configuration that a list of items makes of the defaults. -/
structure Configured (l : List String) (c : Config) : Prop where
  marker : Last (values "annotation" l) (fun v => .ok (classDescriptor v)) standard.marker c.marker
  bridge : Last (values "bridge" l) bridge? (standard.bridgeClass, standard.bridgeMethod)
    (c.bridgeClass, c.bridgeMethod)
  stringWrappers :
    c.stringWrappers = standard.stringWrappers ++ (values "string_wrapper" l).map slashed
  namespaceName : Last (values "namespace" l) .ok standard.namespaceName c.namespaceName
  bootTimeout : Last (values "boot_timeout_ms" l) (timeLimit "boot_timeout_ms")
    standard.bootTimeout c.bootTimeout
  executionTimeout : Last (values "execute_timeout_ms" l) (timeLimit "execute_timeout_ms")
    standard.executionTimeout c.executionTimeout
  autoBoot : Last (values "auto_boot" l) (boolean "auto_boot") standard.autoBoot c.autoBoot
  defaultPage : c.defaultPage = standard.defaultPage
  forwardConsole :
    Last (values "console" l) (boolean "console") standard.forwardConsole c.forwardConsole

theorem stringWrappers_foldlM {l : List String} {c c' : Config} (hl : l.foldlM apply c = .ok c') :
    c'.stringWrappers = c.stringWrappers ++ (values "string_wrapper" l).map slashed := by
  refine foldlM_induction (I := fun l c => c'.stringWrappers =
    c.stringWrappers ++ (values "string_wrapper" l).map slashed) (List.append_nil _).symm ?_ hl
  intro item l key v c c₁ hpair hsets ih
  rw [ih, values_cons hpair]
  cases hsets <;> simp

theorem defaultPage_foldlM {l : List String} {c c' : Config} (hl : l.foldlM apply c = .ok c') :
    c'.defaultPage = c.defaultPage := by
  refine foldlM_induction (I := fun _ c => c'.defaultPage = c.defaultPage) rfl ?_ hl
  intro item l key v c c₁ hpair hsets ih
  rw [ih]
  cases hsets <;> rfl

theorem governs_bridge : Governs "bridge" bridge? fun c => (c.bridgeClass, c.bridgeMethod) :=
  fun hsets => by cases hsets <;> simp [*]

theorem configured_of_foldlM {l : List String} {c : Config} (h : l.foldlM apply standard = .ok c) :
    Configured l c where
  marker := Governs.last (fun hsets => by cases hsets <;> simp) h
  bridge := governs_bridge.last h
  stringWrappers := stringWrappers_foldlM h
  namespaceName := Governs.last (fun hsets => by cases hsets <;> simp) h
  bootTimeout := Governs.last (fun hsets => by cases hsets <;> simp [*]) h
  executionTimeout := Governs.last (fun hsets => by cases hsets <;> simp [*]) h
  autoBoot := Governs.last (fun hsets => by cases hsets <;> simp [*]) h
  defaultPage := defaultPage_foldlM h
  forwardConsole := Governs.last (fun hsets => by cases hsets <;> simp [*]) h

/-- Only the values of each key matter. -/
theorem Configured.unique {l l' : List String} {c c' : Config} (h : Configured l c)
    (h' : Configured l' c') (hvalues : ∀ key, values key l = values key l') : c = c' := by
  obtain ⟨marker, bridge, wrappers, name, boot, execution, auto, page, console⟩ := h
  simp only [hvalues] at marker bridge wrappers name boot execution auto console
  have hbridge := Prod.mk.inj (bridge.unique h'.bridge)
  obtain ⟨⟩ := c
  obtain ⟨⟩ := c'
  congr 1
  · exact marker.unique h'.marker
  · exact hbridge.1
  · exact hbridge.2
  · exact wrappers.trans h'.stringWrappers.symm
  · exact name.unique h'.namespaceName
  · exact boot.unique h'.bootTimeout
  · exact execution.unique h'.executionTimeout
  · exact auto.unique h'.autoBoot
  · exact page.trans h'.defaultPage.symm
  · exact console.unique h'.forwardConsole

/-! ### When a list of items is accepted -/

theorem isOk_apply (c d : Config) {item : String} (h : ∃ c', c.apply item = .ok c') :
    ∃ d', d.apply item = .ok d' := by
  cases hd : d.apply item with
  | ok d' => exact ⟨d', rfl⟩
  | error f =>
    obtain ⟨c', hc⟩ := h
    cases hc.symm.trans (apply_eq_error d c hd)

theorem foldlM_isOk_iff (l : List String) (c : Config) :
    (∃ c', l.foldlM apply c = .ok c') ↔ ∀ a ∈ l, ∃ c', standard.apply a = .ok c' := by
  induction l generalizing c with
  | nil => exact ⟨fun _ => by simp, fun _ => ⟨c, rfl⟩⟩
  | cons item l ih =>
    simp only [List.foldlM_cons, bind_eq_ok, List.forall_mem_cons]
    constructor
    · rintro ⟨c', c₁, hitem, hrest⟩
      exact ⟨isOk_apply c standard ⟨c₁, hitem⟩, (ih c₁).1 ⟨c', hrest⟩⟩
    · rintro ⟨hitem, hrest⟩
      obtain ⟨c₁, hitem⟩ := isOk_apply standard c hitem
      obtain ⟨c', hrest⟩ := (ih c₁).2 hrest
      exact ⟨c', c₁, hitem, hrest⟩

theorem foldlM_eq_error_iff (l : List String) (c : Config) (f : Failure) :
    l.foldlM apply c = .error f ↔ ∃ before a after, l = before ++ a :: after ∧
      (∀ b ∈ before, ∃ c', standard.apply b = .ok c') ∧ standard.apply a = .error f := by
  induction l generalizing c with
  | nil => simp [pure, Except.pure]
  | cons item l ih =>
    rw [List.foldlM_cons, bind_eq_error]
    constructor
    · rintro (hitem | ⟨c₁, hitem, hrest⟩)
      · exact ⟨[], item, l, rfl, by simp, apply_eq_error c standard hitem⟩
      · obtain ⟨before, a, after, rfl, hbefore, ha⟩ := (ih c₁).1 hrest
        exact ⟨item :: before, a, after, rfl,
          List.forall_mem_cons.2 ⟨isOk_apply c standard ⟨c₁, hitem⟩, hbefore⟩, ha⟩
    · rintro ⟨before, a, after, heq, hbefore, ha⟩
      cases before with
      | nil =>
        obtain ⟨rfl, rfl⟩ := List.cons.inj heq
        exact .inl (apply_eq_error standard c ha)
      | cons b before =>
        obtain ⟨rfl, rfl⟩ := List.cons.inj heq
        obtain ⟨hitem, hbefore⟩ := List.forall_mem_cons.1 hbefore
        obtain ⟨c₁, hitem⟩ := isOk_apply standard c hitem
        exact .inr ⟨c₁, hitem, (ih c₁).2 ⟨before, a, after, rfl, hbefore, ha⟩⟩

/-! ### Other orders and other spellings -/

/-- Two neighbouring items with different keys have changed places. -/
def Exchanged (l l' : List String) : Prop :=
  ∃ before a b after, l = before ++ a :: b :: after ∧ l' = before ++ b :: a :: after ∧
    (pair? a).map (·.1) ≠ (pair? b).map (·.1)

theorem Exchanged.values_eq {l l' : List String} (h : Exchanged l l') (key : String) :
    values key l = values key l' := by
  obtain ⟨before, a, b, after, rfl, rfl, hne⟩ := h
  simp only [values, List.filterMap_append, List.filterMap_cons]
  cases ha : pair? a with
  | none => cases pair? b <;> simp
  | some e =>
    cases hb : pair? b with
    | none => simp
    | some e' =>
      have hkeys : e.1 ≠ e'.1 := by simpa [ha, hb] using hne
      by_cases he : e.1 = key
      · have he' : e'.1 ≠ key := fun h' => hkeys (he.trans h'.symm)
        simp [he, he']
      · simp [he]

theorem Exchanged.mem_iff {l l' : List String} (h : Exchanged l l') (a : String) :
    a ∈ l ↔ a ∈ l' := by
  obtain ⟨before, x, y, after, rfl, rfl, -⟩ := h
  simp [or_left_comm]

/-- Two items that name the same class, each with `.` or with `/` between its parts. -/
inductive Respelled : String → String → Prop
  | same (a : String) : Respelled a a
  | name {a b key v w : String} (ha : pair? a = some (key, v)) (hb : pair? b = some (key, w))
      (hkey : key ∈ ["annotation", "string_wrapper"]) (h : slashed v = slashed w) : Respelled a b
  | bridge {a b v w owner owner' method : String} (ha : pair? a = some ("bridge", v))
      (hb : pair? b = some ("bridge", w)) (hv : cut? '#' v = some (owner, method))
      (hw : cut? '#' w = some (owner', method)) (h : slashed owner = slashed owner') : Respelled a b

theorem classDescriptor_congr {v w : String} (h : slashed v = slashed w) :
    classDescriptor v = classDescriptor w := by
  unfold classDescriptor
  rw [h]

theorem bridge?_congr {v w owner owner' method : String} (hv : cut? '#' v = some (owner, method))
    (hw : cut? '#' w = some (owner', method)) (h : slashed owner = slashed owner') :
    bridge? v = bridge? w := by
  simp only [bridge?, hv, hw, h]

namespace Respelled

theorem symm {a b : String} (h : Respelled a b) : Respelled b a := by
  cases h with
  | same => exact .same a
  | name ha hb hkey h => exact .name hb ha hkey h.symm
  | bridge ha hb hv hw h => exact .bridge hb ha hw hv h.symm

theorem apply {a b : String} (h : Respelled a b) {c c' : Config} (hok : c.apply a = .ok c') :
    c.apply b = .ok c' := by
  cases h with
  | same => exact hok
  | name ha hb hkey h =>
    rw [apply_eq, ha] at hok
    rw [apply_eq, hb, ← hok]
    rcases List.mem_cons.1 hkey with rfl | hkey
    · show Except.ok _ = Except.ok _
      rw [classDescriptor_congr h]
    · obtain rfl := List.mem_singleton.1 hkey
      show Except.ok _ = Except.ok _
      rw [h]
  | bridge ha hb hv hw h =>
    rw [apply_eq, ha] at hok
    rw [apply_eq, hb, ← hok]
    dsimp only
    rw [set_bridge, set_bridge, bridge?_congr hv hw h]

theorem foldlM {l l' : List String} (h : List.Forall₂ Respelled l l') {c c' : Config}
    (hok : l.foldlM Config.apply c = .ok c') : l'.foldlM Config.apply c = .ok c' := by
  induction h generalizing c with
  | nil => exact hok
  | cons h _ ih =>
    obtain ⟨c₁, hitem, hrest⟩ := bind_eq_ok.1 (List.foldlM_cons.symm.trans hok)
    rw [List.foldlM_cons]
    exact bind_eq_ok.2 ⟨c₁, h.apply hitem, ih hrest⟩

end Respelled

/-! ### Texts -/

theorem ofAgentArguments_of_mem {arguments a : String} (h : a ∈ items arguments) :
    ofAgentArguments a = standard.apply a := by
  rw [ofAgentArguments, items_of_mem h, List.foldlM_cons]
  cases standard.apply a <;> rfl

/-- What the configuration of a text is made of. -/
structure Reads (arguments : String) : Prop where
  split : items arguments =
    ((arguments.toList.splitOn ',').map fun p => Text.trim (String.ofList p)).filter (· ≠ "")
  alone (a : String) : a ∈ items arguments → items a = [a]
  accepted : (∃ c, ofAgentArguments arguments = .ok c) ↔
    ∀ a ∈ items arguments, ∃ c, ofAgentArguments a = .ok c
  /-- The error is that of the first item that is refused, whatever stands before and behind it. -/
  refused (f : Failure) : ofAgentArguments arguments = .error f ↔
    ∃ before a after, items arguments = before ++ a :: after ∧
      (∀ b ∈ before, ∃ c, ofAgentArguments b = .ok c) ∧ ofAgentArguments a = .error f
  configured (c : Config) : ofAgentArguments arguments = .ok c → Configured (items arguments) c
  exchanged (arguments' : String) (c : Config) :
    Exchanged (items arguments) (items arguments') →
      ofAgentArguments arguments = .ok c → ofAgentArguments arguments' = .ok c
  respelled (arguments' : String) (c : Config) :
    List.Forall₂ Respelled (items arguments) (items arguments') →
      (ofAgentArguments arguments = .ok c ↔ ofAgentArguments arguments' = .ok c)

theorem reads_ofAgentArguments (arguments : String) : Reads arguments where
  split := by rw [items, parts_eq_splitOn]
  alone a ha := items_of_mem ha
  accepted := by
    refine (foldlM_isOk_iff _ _).trans (forall₂_congr fun a ha => ?_)
    rw [ofAgentArguments_of_mem ha]
  refused f := by
    refine (foldlM_eq_error_iff _ _ _).trans ?_
    refine exists_congr fun before => exists_congr fun a => exists_congr fun after =>
      and_congr_right fun hitems => ?_
    have halone (b : String) (hb : b ∈ before ++ a :: after) :
        ofAgentArguments b = standard.apply b := ofAgentArguments_of_mem (hitems ▸ hb)
    rw [halone a (by simp)]
    refine and_congr_left fun _ => forall₂_congr fun b hb => ?_
    rw [halone b (by simp [hb])]
  configured c h := configured_of_foldlM h
  exchanged arguments' c hitems h := by
    have haccepted := (foldlM_isOk_iff _ _).1 ⟨c, h⟩
    obtain ⟨c', hc'⟩ := (foldlM_isOk_iff (items arguments') standard).2 fun a ha =>
      haccepted a ((hitems.mem_iff a).2 ha)
    have heq := (configured_of_foldlM h).unique (configured_of_foldlM hc') hitems.values_eq
    exact heq ▸ hc'
  respelled arguments' c hitems :=
    ⟨Respelled.foldlM hitems,
      Respelled.foldlM (List.Forall₂.flip (hitems.imp fun _ _ => Respelled.symm))⟩

/-- The last setting of a limit counts, blanks and empty items do not, and zero lifts a limit. -/
example : ofAgentArguments " boot_timeout_ms = 250,, namespace=a , boot_timeout_ms=+0," =
    .ok { standard with namespaceName := "a", bootTimeout := none } := rfl

end ScriptProxy.Import.Config
