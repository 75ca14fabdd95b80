import Mathlib.Data.List.Forall2
import ScriptProxy.Proofs.Host.Desk
import ScriptProxy.Proofs.Host.Frame
import ScriptProxy.Proofs.Script.ArrayLength
import ScriptProxy.Proofs.Script.Lookup

/-!
# Values that go in and come out again

A value that is taken into the engine and out of it again is the same value, but for its handles. Each
of them comes back as a new one for the same object: `passThrough_of_live`.

On the way in, an array is copied to a place behind those of the arrays in it. So a value is `Stored`
below some place, and the place is also enough fuel to take the value out again. On the way out, what is
done for a value `Yields` a result with as many handles as the value has, which asks for that much room
in the table.
-/

namespace ScriptProxy

open Exchange (Handle HandleTable)
open Script (Evaluator Realm)

namespace Exchange.Value

mutual
/-- Equality of values, but for their handles, which have to be related. -/
def SameUpTo (R : Handle → Handle → Prop) : Value → Value → Prop
  | array vs, array ws => SameAllUpTo R vs ws
  | object h, object k => R h k
  | v, w => v.same w = true

def SameAllUpTo (R : Handle → Handle → Prop) : List Value → List Value → Prop
  | [], [] => True
  | v :: vs, w :: ws => v.SameUpTo R w ∧ SameAllUpTo R vs ws
  | _, _ => False
end

mutual
/-- The value can go into the engine and out again: all its numbers equal themselves, and none of its
arrays is longer than a script can count. -/
def Passable : Value → Prop
  | double d => d.isNaN = false
  | array vs => vs.length < 2 ^ 53 ∧ AllPassable vs
  | _ => True

def AllPassable : List Value → Prop
  | [] => True
  | v :: vs => v.Passable ∧ AllPassable vs
end

variable {R R' : Handle → Handle → Prop}

mutual
theorem SameUpTo.imp : (v w : Value) → (∀ k ∈ v.handles, ∀ k', R k k' → R' k k') →
    v.SameUpTo R w → v.SameUpTo R' w
  | array vs, w, hR, h => by
    cases w with
    | array ws => exact SameAllUpTo.imp vs ws hR h
    | _ => exact h
  | object k, w, hR, h => by
    cases w with
    | object k' => exact hR k (List.mem_singleton_self k) k' h
    | _ => exact h
  | undefined, _, _, h | null, _, _, h | bool _, _, _, h | int _, _, _, h | double _, _, _, h
  | string _, _, _, h | textLike _, _, _, h => h

theorem SameAllUpTo.imp : (vs ws : List Value) →
    (∀ k ∈ handlesOfAll vs, ∀ k', R k k' → R' k k') → SameAllUpTo R vs ws → SameAllUpTo R' vs ws
  | [], [], _, h => h
  | v :: vs, w :: ws, hR, h =>
    have hR := List.forall_mem_append.1 hR
    ⟨SameUpTo.imp v w hR.1 h.1, SameAllUpTo.imp vs ws hR.2 h.2⟩
end

mutual
/-- With handles that are the same, values are the same. -/
theorem sameUpTo_same : (v w : Value) → (v.SameUpTo (fun h k => h.same k = true) w ↔ v.same w = true)
  | array vs, w => by
    cases w with
    | array ws => exact sameAllUpTo_same vs ws
    | _ => exact Iff.rfl
  | object k, w => by cases w <;> exact Iff.rfl
  | undefined, _ | null, _ | bool _, _ | int _, _ | double _, _ | string _, _ | textLike _, _ =>
    Iff.rfl

theorem sameAllUpTo_same :
    (vs ws : List Value) → (SameAllUpTo (fun h k => h.same k = true) vs ws ↔ sameAll vs ws = true)
  | [], [] => by simp [SameAllUpTo, sameAll]
  | [], _ :: _ | _ :: _, [] => by simp [SameAllUpTo, sameAll]
  | v :: vs, w :: ws => by
    rw [SameAllUpTo, sameAll, Bool.and_eq_true, sameUpTo_same v w, sameAllUpTo_same vs ws]
end

end Exchange.Value

namespace Host

variable {α : Type} {t : HandleTable Nat} {r r' : Realm} {h : Host} {d : Desk}

/-! ### Going in -/

/-- How a value is kept in a realm: as a value of the engine, with all its arrays below a place, and the
arrays in an array below that one. -/
inductive Stored (t : HandleTable Nat) (r : Realm) : (bound : Nat) → Exchange.Value → Script.Value → Prop
  | undefined {n : Nat} : Stored t r n .undefined .undefined
  | null {n : Nat} : Stored t r n .null .null
  | bool {n : Nat} (b : Bool) : Stored t r n (.bool b) (.bool b)
  | int {n : Nat} (i : Int32) : Stored t r n (.int i) (.number (.int i))
  | double {n : Nat} {x : Double} (hx : x.isNaN = false) :
      Stored t r n (.double x) (.number (.ofDouble x))
  | string {n : Nat} (s : String) : Stored t r n (.string s) (.string s)
  | textLike {n : Nat} (s : String) : Stored t r n (.textLike s) (.string s)
  | array {n place : Nat} {vs : List Exchange.Value} {xs : List Script.Value} (hplace : place < n)
      (ho : r.object? place = some (.ofElements Script.Base.array.place xs.toArray))
      (hsize : vs.length < 2 ^ 53) (hlength : vs.length = xs.length)
      (helements : ∀ (i : Nat) (v : Exchange.Value) (x : Script.Value), vs[i]? = some v →
        xs[i]? = some x → Stored t r place v x) : Stored t r n (.array vs) (.object place)
  | object {n place : Nat} {k : Handle} {o : Script.Object} (hk : t.get? k = some place)
      (ho : r.object? place = some o) (hplain : o.isArray = false) :
      Stored t r n (.object k) (.object place)

theorem Stored.mono {m n : Nat} {v : Exchange.Value} {x : Script.Value} (h : Stored t r m v x)
    (hmn : m ≤ n) (hr : r.Keeps r') : Stored t r' n v x := by
  induction h generalizing n with
  | undefined => exact .undefined
  | null => exact .null
  | bool b => exact .bool b
  | int i => exact .int i
  | double hx => exact .double hx
  | string s => exact .string s
  | textLike s => exact .textLike s
  | array hplace ho hsize hlength _ ih =>
    exact .array (Nat.lt_of_lt_of_le hplace hmn) (hr _ _ ho) hsize hlength
      fun i v x hv hx => ih i v x hv hx le_rfl
  | object hk ho hplain => exact .object hk (hr _ _ ho) hplain

/-- Each handle in a value leads to an object that is no array. -/
def Leading (t : HandleTable Nat) (r : Realm) (handles : List Handle) : Prop :=
  ∀ k ∈ handles, ∃ place o, t.get? k = some place ∧ r.object? place = some o ∧ o.isArray = false

theorem Leading.keeps {handles : List Handle} (h : Leading t r handles) (hr : r.Keeps r') :
    Leading t r' handles := fun k hk =>
  have ⟨place, o, hplace, ho, hplain⟩ := h k hk
  ⟨place, o, hplace, hr place o ho, hplain⟩

mutual
/-- A value whose handles lead to objects goes in. No object that was there is changed. -/
theorem enter_stored : (v : Exchange.Value) → v.Passable → (r : Realm) → Leading t r v.handles →
    ∃ x r', enter t v r = .ok x r' ∧ r.Keeps r' ∧ Stored t r' r'.objects.size v x
  | .undefined, _, r, _ => ⟨_, r, rfl, .refl r, .undefined⟩
  | .null, _, r, _ => ⟨_, r, rfl, .refl r, .null⟩
  | .bool b, _, r, _ => ⟨_, r, rfl, .refl r, .bool b⟩
  | .int i, _, r, _ => ⟨_, r, rfl, .refl r, .int i⟩
  | .double _, hx, r, _ => ⟨_, r, rfl, .refl r, .double hx⟩
  | .string s, _, r, _ => ⟨_, r, rfl, .refl r, .string s⟩
  | .textLike s, _, r, _ => ⟨_, r, rfl, .refl r, .textLike s⟩
  | .object k, _, r, hleading => by
    obtain ⟨place, o, hk, ho, hplain⟩ := hleading k (List.mem_singleton_self k)
    exact ⟨.object place, r, by simp only [enter, hk]; rfl, .refl r, .object hk ho hplain⟩
  | .array vs, hv, r, hleading => by
    obtain ⟨hsize, hvs⟩ := hv
    obtain ⟨xs, r', henter, hkeeps, hlength, hstored⟩ := enterAll_stored vs hvs r hleading
    have hadd := Realm.keeps_add r' (.ofElements Script.Base.array.place xs.toArray)
    have ho := Realm.object?_add r' (.ofElements Script.Base.array.place xs.toArray) r'.objects.size
    rw [if_pos rfl] at ho
    refine ⟨.object r'.objects.size, _, ?_, hkeeps.trans hadd, ?_⟩
    · rw [enter, Outcome.bind_of_ok henter]
      rfl
    · exact .array (Realm.lt_size ho) ho hsize hlength fun i v x hv hx =>
        (hstored i v x hv hx).mono le_rfl hadd

theorem enterAll_stored : (vs : List Exchange.Value) → Exchange.Value.AllPassable vs → (r : Realm) →
    Leading t r (Exchange.Value.handlesOfAll vs) →
    ∃ xs r', enterAll t vs r = .ok xs r' ∧ r.Keeps r' ∧ vs.length = xs.length ∧
      ∀ (i : Nat) (v : Exchange.Value) (x : Script.Value), vs[i]? = some v → xs[i]? = some x →
        Stored t r' r'.objects.size v x
  | [], _, r, _ => ⟨[], r, rfl, .refl r, rfl, nofun⟩
  | v :: vs, hv, r, hleading => by
    obtain ⟨hv, hvs⟩ := hv
    obtain ⟨hfirst, hrest⟩ : Leading t r v.handles ∧ Leading t r (Exchange.Value.handlesOfAll vs) :=
      List.forall_mem_append.1 hleading
    obtain ⟨x, r₁, henter, hkeeps, hstored⟩ := enter_stored v hv r hfirst
    obtain ⟨xs, r', henter', hkeeps', hlength, hstored'⟩ :=
      enterAll_stored vs hvs r₁ (hrest.keeps hkeeps)
    refine ⟨x :: xs, r', ?_, hkeeps.trans hkeeps', by simp [hlength], fun i w y hw hy => ?_⟩
    · rw [enterAll, Outcome.bind_of_ok henter, Outcome.bind_of_ok henter']
      rfl
    · cases i with
      | zero =>
        cases hw
        cases hy
        exact hstored.mono hkeeps'.alike.size_le hkeeps'
      | succ i => exact hstored' i w y hw hy
end

/-! ### Coming out -/

/-- The host has the page and the table of a desk, and nothing is left to be printed. -/
structure IsAt (h : Host) (d : Desk) : Prop where
  page : h.page = some d.page
  handles : h.handles = d.custody.table
  printed : d.page.printed = #[]

theorem IsAt.evaluating {m : Evaluator → Script.Evaluation α} {a : α} (hs : h.IsAt d)
    (hm : m h.platform.engine d.page = .ok a d.page) : evaluating m h = .ok a h := by
  have hsame : h.withRealm d.page = h := by
    obtain ⟨config, platform, page, handles, printed⟩ := h
    obtain ⟨hpage, -, hprinted⟩ := hs
    obtain ⟨custody, objects, lines⟩ := d
    dsimp only at hpage hprinted
    subst hprinted hpage
    simp [withRealm]
  rw [evaluating_of_ok hs.page hm, hsame]

/-- On a page with room for some handles, the action gives a result of the wanted kind. It hands those
handles out and does nothing else. -/
def Yields (r : Realm) (n : Nat) (m : EStateM Failure Host α) (wanted : Desk → α → Prop) : Prop :=
  ∀ (h : Host) (d : Desk), h.IsAt d → d.page = r → d.Sound → d.held + n ≤ HandleTable.capacity →
    ∃ a h' d', m h = .ok a h' ∧ h'.IsAt d' ∧ d.HandsOut n d' ∧ wanted d' a

/-- The handles lead to the same object. The first one is followed in a table, the second one is held. -/
def SameObject (t : HandleTable Nat) (d : Desk) (k k' : Handle) : Prop :=
  ∃ place, t.get? k = some place ∧ d.LeadsTo k' place

theorem SameObject.handsOut {d' : Desk} {n : Nat} {k k' : Handle} (hk : SameObject t d k k')
    (hd : d.HandsOut n d') : SameObject t d' k k' :=
  have ⟨place, hplace, hleads⟩ := hk
  ⟨place, hplace, hd.leads hleads⟩

/-- The action gives the value, but with handles of its own. -/
def Returns (t : HandleTable Nat) (r : Realm) (m : EStateM Failure Host Exchange.Value)
    (v : Exchange.Value) : Prop :=
  Yields r v.handles.length m fun d w => v.SameUpTo (SameObject t d) w

theorem returns_pure {v w : Exchange.Value} (hv : v.handles = []) (hw : ∀ R, v.SameUpTo R w) :
    Returns t r (pure w) v := by
  intro h d hs hr hd hroom
  rw [hv]
  exact ⟨w, h, d, rfl, hs, .refl d, hw _⟩

theorem returns_handOut {place : Nat} {k : Handle} {o : Script.Object} (hk : t.get? k = some place)
    (ho : r.object? place = some o) (hplain : o.isArray = false) :
    Returns t r (handOut place) (.object k) := by
  rintro h d hs rfl hd hroom
  obtain ⟨k', d', hinsert, hout, hleads⟩ := hd.exists_insert ho hplain hroom
  refine ⟨.object k', { h with handles := d'.custody.table }, d', ?_, ?_, hout, place, hk, hleads⟩
  · rw [handOut, hs.handles, hinsert]
  · exact ⟨hs.page.trans (congrArg some hout.page.symm), rfl, hout.page ▸ hs.printed⟩

/-- If each element comes out, all of them do. The handles of those that are out stay held. -/
theorem yields_leaveElements {leave : Script.Value → EStateM Failure Host Exchange.Value}
    {x : Script.Value} {numbers : List Nat} {vs : List Exchange.Value}
    (hall : List.Forall₂ (fun i v => ∃ y, (∀ e : Evaluator, e.element x i r = .ok y r) ∧
      Returns t r (leave y) v) numbers vs) :
    Yields r (Exchange.Value.handlesOfAll vs).length (leaveElements leave x numbers)
      fun d ws => Exchange.Value.SameAllUpTo (SameObject t d) vs ws := by
  induction hall with
  | nil => exact fun h d hs _ _ _ => ⟨[], h, d, rfl, hs, .refl d, trivial⟩
  | @cons i v numbers vs hfirst _ ih =>
    rintro h d hs rfl hd hroom
    obtain ⟨y, hy, hreturns⟩ := hfirst
    rw [Exchange.Value.handlesOfAll, List.length_append] at hroom ⊢
    obtain ⟨w, h₁, d₁, hw, hs₁, hout₁, hsame⟩ := hreturns h d hs rfl hd (by omega)
    have hroom₁ : d₁.held + (Exchange.Value.handlesOfAll vs).length ≤ HandleTable.capacity := by
      rw [hout₁.held]
      omega
    obtain ⟨ws, h', d', hws, hs', hout', hsames⟩ :=
      ih h₁ d₁ hs₁ hout₁.page (hd.steps hout₁.steps) hroom₁
    refine ⟨w :: ws, h', d', ?_, hs', hout₁.trans hout', ?_, hsames⟩
    · rw [leaveElements, Outcome.bind_of_ok (hs.evaluating (m := (·.element x i)) (hy _))]
      refine (Outcome.bind_of_ok hw).trans ?_
      rw [hws]
    · exact hsame.imp v w fun _ _ _ hk => hk.handsOut hout'

theorem leaveWithin_of_plain {place : Nat} {o : Script.Object} (depth : Nat) (hpage : h.page = some r)
    (ho : r.object? place = some o) (hplain : o.isArray = false) :
    leaveWithin depth (.object place) h = handOut place h := by
  have harray : ¬ h.hasArray place = true := by
    simp [hasArray, hpage, Realm.isArray, Realm.objectOf?, ho, hplain]
  cases depth <;> rw [leaveWithin, Outcome.bind_of_ok (Outcome.get_apply h), if_neg harray]

theorem leaveWithin_of_array {place n : Nat} {o : Script.Object} (depth : Nat)
    (hs : h.IsAt d) (ho : d.page.object? place = some o) (harray : o.isArray = true)
    (hlength : h.platform.engine.lengthOf (.object place) d.page = .ok n d.page) :
    leaveWithin (depth + 1) (.object place) h =
      (Exchange.Value.array <$> leaveElements (leaveWithin depth) (.object place) (List.range n)) h := by
  have harray : h.hasArray place = true := by
    simp [hasArray, hs.page, Realm.isArray, Realm.objectOf?, ho, harray]
  rw [leaveWithin, Outcome.bind_of_ok (Outcome.get_apply h), if_pos harray,
    Outcome.bind_of_ok (hs.evaluating (m := (·.lengthOf (.object place))) hlength)]
  rfl

theorem returns_number {x : Double} (hx : x.isNaN = false) :
    Returns t r (pure (leaveNumber (.ofDouble x))) (.double x) := by
  have hself : x.same x = true := by simp [Double.same, hx]
  refine returns_pure rfl fun R => ?_
  unfold Script.Number.ofDouble
  split
  · next i hi =>
    rw [← Double.ofInt_of_toInt? hi] at hself
    exact (Double.ofInt_of_toInt? hi) ▸ hself
  · exact hself

/-- A value that is stored comes out again, if the depth is that of the place that it is below. -/
theorem Stored.returns {n depth : Nat} {v : Exchange.Value} {x : Script.Value}
    (hstored : Stored t r n v x) (hdepth : n ≤ depth) : Returns t r (leaveWithin depth x) v := by
  induction hstored generalizing depth with
  | undefined | null =>
    rw [leaveWithin]
    exact returns_pure rfl fun _ => rfl
  | bool b =>
    rw [leaveWithin]
    exact returns_pure rfl fun _ => beq_self_eq_true b
  | int i =>
    rw [leaveWithin]
    exact returns_pure rfl fun _ => beq_self_eq_true i
  | double hx =>
    rw [leaveWithin]
    exact returns_number hx
  | string s | textLike s =>
    rw [leaveWithin]
    exact returns_pure rfl fun _ => beq_self_eq_true s
  | @array n place vs xs hplace ho hsize hlength _ ih =>
    rintro h d hs rfl hd hroom
    -- the arrays in it are below its own place, so that they stand one less deep
    obtain ⟨depth, rfl⟩ : ∃ depth', depth = depth' + 1 := ⟨depth - 1, by omega⟩
    have hcount (e : Evaluator) : e.lengthOf (.object place) d.page = .ok xs.length d.page :=
      Script.lengthOf_ofElements ho (by rwa [List.size_toArray, ← hlength])
    have hall : List.Forall₂ (fun i v => ∃ y,
        (∀ e : Evaluator, e.element (.object place) i d.page = .ok y d.page) ∧
        Returns t d.page (leaveWithin depth y) v) (List.range xs.length) vs := by
      refine List.forall₂_iff_get.2 ⟨by simp [hlength], fun i hi hi' => ?_⟩
      have hx : xs[i]? = some xs[i] := List.getElem?_eq_getElem (by omega)
      have hv : vs[i]? = some vs[i] := List.getElem?_eq_getElem hi'
      simp only [List.get_eq_getElem, List.getElem_range]
      exact ⟨xs[i], fun _ => Script.element_ofElements ho (by simp), ih i _ _ hv hx (by omega)⟩
    obtain ⟨ws, h', d', hws, hs', hout, hsame⟩ := yields_leaveElements hall h d hs rfl hd hroom
    refine ⟨.array ws, h', d', ?_, hs', hout, hsame⟩
    rw [leaveWithin_of_array depth hs ho rfl (hcount _)]
    exact Outcome.step_map_eq_ok.2 ⟨ws, hws, rfl⟩
  | object hk ho hplain =>
    intro h d hs hr
    rw [leaveWithin_of_plain depth (hs.page.trans (congrArg some hr)) ho hplain]
    exact returns_handOut hk ho hplain h d hs hr

/-! ### In and out again -/

theorem leave_eq (x : Script.Value) (hpage : h.page = some r) :
    leave x h = leaveWithin (r.objects.size + Script.stackDepth) x h := by
  unfold leave
  rw [Outcome.bind_of_ok (Outcome.get_apply h), hpage]
  rfl

/-- Takes a value into the engine and out of it again. -/
def passThrough (v : Exchange.Value) : EStateM Failure Host Exchange.Value := do
  let t := (← get).handles
  leave (← evaluating fun _ => enter t v)

/-- A value with handles that are held for the present page goes into the engine and comes out of it as
the same value, except that its handles may be others that are held for the same objects. Its own
handles are still held, and lead to the objects that they led to, which are as they were. All that it
takes is room for as many handles. -/
theorem passThrough_of_live {v : Exchange.Value} (hd : d.Reachable) (hpage : h.page = some d.page)
    (hhandles : h.handles = d.custody.table) (hv : v.Passable) (hlive : ∀ k ∈ v.handles, d.Live k)
    (hroom : h.handles.sweep.occupied + v.handles.length ≤ HandleTable.capacity) :
    ∃ (w : Exchange.Value) (h' : Host) (d' : Desk), passThrough v h = .ok w h' ∧
      d'.Reachable ∧ h'.page = some d'.page ∧ h'.handles = d'.custody.table ∧
      v.SameUpTo (fun k k' => d'.Live k' ∧
        ∃ place, h'.handles.get? k = some place ∧ h'.handles.get? k' = some place) w ∧
      (∀ k ∈ v.handles, d'.Live k ∧ h'.handles.get? k = h.handles.get? k) ∧
      d.page.Keeps d'.page := by
  have hsound := hd.sound
  have hleading : Leading h.handles d.page v.handles := fun k hk => by
    obtain ⟨place, hleads⟩ := hlive k hk
    obtain ⟨o, ho, hplain⟩ := hsound.object? hleads
    exact ⟨place, o, hhandles ▸ hsound.get? hleads, ho, hplain⟩
  obtain ⟨x, r, henter, hkeeps, hstored⟩ := enter_stored v hv d.page hleading
  -- what was printed goes to the host, and the value comes out of a page with the rest
  let d₁ : Desk := ⟨d.custody, { r with printed := #[] }⟩
  have hstep : d.Step d₁ := .evaluate fun place o ho => ⟨o, hkeeps place o ho, rfl⟩
  have hat : (h.withRealm r).IsAt d₁ := ⟨rfl, hhandles, rfl⟩
  have hstored : Stored h.handles d₁.page d₁.page.objects.size v x :=
    hstored.mono le_rfl fun _ _ ho => ho
  have hroom : d₁.held + v.handles.length ≤ HandleTable.capacity := by
    rwa [hhandles, hsound.occupied] at hroom
  obtain ⟨w, h', d', hleave, hat', hout, hsame⟩ :=
    hstored.returns (Nat.le_add_right _ Script.stackDepth) (h.withRealm r) d₁ hat rfl
      (hstep.sound hsound) hroom
  have hreachable : d'.Reachable := hd.steps (.head hstep hout.steps)
  have hfollow {k : Handle} {place : Nat} (hk : d'.LeadsTo k place) : h'.handles.get? k = some place :=
    hat'.handles ▸ hreachable.sound.get? hk
  have hkept (k : Handle) (hk : k ∈ v.handles) :
      d'.Live k ∧ h'.handles.get? k = h.handles.get? k := by
    obtain ⟨place, hleads⟩ := hlive k hk
    have hleads' : d'.LeadsTo k place := hout.leads hleads
    exact ⟨⟨place, hleads'⟩, (hfollow hleads').trans (hhandles ▸ hsound.get? hleads).symm⟩
  refine ⟨w, h', d', ?_, hreachable, hat'.page, hat'.handles, ?_, ?_, ?_⟩
  · rw [passThrough, Outcome.bind_of_ok (Outcome.get_apply h),
      Outcome.bind_of_ok (evaluating_of_ok (m := fun _ => enter h.handles v) hpage henter),
      leave_eq x rfl]
    exact hleave
  · refine hsame.imp v w fun k hk k' hobject => ?_
    obtain ⟨place, hplace, hleads⟩ := hobject
    exact ⟨⟨place, hleads⟩, place, (hkept k hk).2.trans hplace, hfollow hleads⟩
  · exact hkept
  · exact hout.page ▸ hkeeps

/-- A page with one object, two handles that were made for it, and one of them dropped. -/
def mixedDesk : Desk :=
  ⟨Exchange.Custody.runAll [.insert 0, .insert 0, .drop 0] (.start 0),
    ⟨#[.ofProperties .plain none []], #[]⟩⟩

def mixedHost : Host :=
  { Host.start .standard (.standard .none) 0 with
    page := some mixedDesk.page
    handles := mixedDesk.custody.table }

/-- A value of all kinds, with the handle that is left. -/
def mixed : Exchange.Value :=
  .array [.undefined, .bool true, .double ⟨0x4014000000000000⟩, .textLike "a",
    .array [.object ⟨0, 0, 1⟩, .null, .object ⟨0, 0, 1⟩], .int 5]

theorem passThrough_of_live_mixed : ∃ (w : Exchange.Value) (h' : Host) (d' : Desk),
    passThrough mixed mixedHost = .ok w h' ∧
      d'.Reachable ∧ h'.page = some d'.page ∧ h'.handles = d'.custody.table ∧
      mixed.SameUpTo (fun k k' => d'.Live k' ∧
        ∃ place, h'.handles.get? k = some place ∧ h'.handles.get? k' = some place) w ∧
      (∀ k ∈ mixed.handles, d'.Live k ∧ h'.handles.get? k = mixedHost.handles.get? k) ∧
      mixedDesk.page.Keeps d'.page := by
  have hreachable : mixedDesk.Reachable :=
    ⟨0, mixedDesk.page, .tail (.tail (.single (.handOut rfl rfl)) (.handOut rfl rfl)) (.drop 0)⟩
  have hlive (k : Handle) (hk : k ∈ mixed.handles) : mixedDesk.Live k := by
    obtain rfl : k = ⟨0, 0, 1⟩ := by simpa [mixed, Exchange.Value.handles,
      Exchange.Value.handlesOfAll] using hk
    exact ⟨0, ⟨⟨0, 0, 1⟩, 0, 1⟩, by decide, rfl, rfl, by decide⟩
  have hpassable : mixed.Passable := ⟨by decide, trivial, trivial, rfl, trivial,
    ⟨by decide, trivial, trivial, trivial, trivial⟩, trivial, trivial⟩
  exact passThrough_of_live hreachable rfl rfl hpassable hlive (by decide)

end Host

end ScriptProxy
