import ScriptProxy.Proofs.Host.Namespace

/-!
# Constant functions

A script that is an arrow function with a literal as its result is evaluated to a function without
side effects: the evaluation only adds the function, and a call of it changes nothing.
-/

namespace ScriptProxy

namespace Script

variable {script : String} {l : Literal} {r : Realm} {place : Nat} {o : Object}

/-- The literal that a script gives back, if it is an arrow function that does nothing else. -/
def constant? (script : String) : Option Literal :=
  match program ("(" ++ script ++ "\n)") with
  | .ok [.evaluate (.function _ ⟨_, none⟩ true [.giveBack (some (.literal l))] _)] => some l
  | _ => none

/-- A function that gives a literal back. -/
def Object.IsConstant (o : Object) (l : Literal) : Prop :=
  ∃ names source scope,
    o.kind = .closure ⟨⟨names, none⟩, true, [.giveBack (some (.literal l))], source, scope⟩

/-- The literal that an object gives back, if it is a function that does nothing else. -/
def Object.constant? (o : Object) : Option Literal :=
  match o.kind with
  | .closure ⟨⟨_, none⟩, true, [.giveBack (some (.literal l))], _, _⟩ => some l
  | _ => none

theorem Object.isConstant_of_constant? (h : o.constant? = some l) : o.IsConstant l := by
  unfold Object.constant? at h
  split at h
  · next hk =>
    cases h
    exact ⟨_, _, _, hk⟩
  · cases h

theorem Object.IsConstant.isFunction (hc : o.IsConstant l) (ho : r.object? place = some o) :
    r.isFunction (.object place) = true := by
  obtain ⟨names, source, scope, hk⟩ := hc
  simp [Realm.isFunction, Realm.kind?, Realm.objectOf?, ho, hk, Kind.isFunction]

theorem makeFunction_of_bound {f : Closure} (hf : f.bound = true) (name : String) (r : Realm) :
    ∃ o, o.kind = .closure f ∧
      Evaluation.makeFunction name f r = .ok (.object r.objects.size) (r.add o).2 := by
  refine ⟨.ofProperties (.closure f) (some Base.function.place)
    [("length", .constant (.ofNat f.parameters.names.length)), ("name", .constant (.string name))],
    rfl, ?_⟩
  unfold Evaluation.makeFunction
  rw [hf]
  rfl

theorem run_of_constant (h : constant? script = some l) (r : Realm) :
    ∃ o, o.IsConstant l ∧
      engine.run ("(" ++ script ++ "\n)") r = .ok (.object r.objects.size) (r.add o).2 := by
  unfold constant? at h
  split at h
  · next name names l' source hp =>
    cases h
    obtain ⟨o, hk, hm⟩ := makeFunction_of_bound
      (f := ⟨⟨names, none⟩, true, [.giveBack (some (.literal l))], source, Evaluation.pageScope⟩)
      rfl name r
    refine ⟨o, ⟨names, source, Evaluation.pageScope, hk⟩, ?_⟩
    have run (depth : Nat) : Evaluation.script (depth + 3) ("(" ++ script ++ "\n)") r =
        .ok (.object r.objects.size) (r.add o).2 := by
      have hstep : Evaluation.step (depth + 2) (.reached Evaluation.pageScope .undefined)
          (.evaluate (.function name ⟨names, none⟩ true [.giveBack (some (.literal l))] source)) r =
          .ok (.reached Evaluation.pageScope (.object r.objects.size)) (r.add o).2 := by
        unfold Evaluation.step
        simp only [Evaluation.value, bind, EStateM.bind]
        rw [hm]
        rfl
      have hfold : [_].foldlM (Evaluation.step (depth + 2))
          (.reached Evaluation.pageScope .undefined) r =
          .ok (.reached Evaluation.pageScope (.object r.objects.size)) (r.add o).2 :=
        (Outcome.bind_of_ok hstep).trans rfl
      unfold Evaluation.script
      rw [hp]
      -- the script declares no variable
      refine (Outcome.bind_of_ok (show _ = EStateM.Result.ok () r from rfl)).trans ?_
      exact (Outcome.bind_of_ok hfold).trans rfl
    exact run 4997
  · cases h

theorem call_of_constant (ho : r.object? place = some o) (hc : o.IsConstant l) (self : Value)
    (vs : List Value) : engine.call (.object place) self vs r = .ok (Evaluation.literal l) r := by
  obtain ⟨names, source, scope, hk⟩ := hc
  have hkind : r.kind? (.object place) = some (.closure
      ⟨⟨names, none⟩, true, [.giveBack (some (.literal l))], source, scope⟩) := by
    simp [Realm.kind?, Realm.objectOf?, ho, hk]
  have call (depth : Nat) : Evaluation.call (depth + 3) (.object place) self vs r =
      .ok (Evaluation.literal l) r := by
    unfold Evaluation.call
    simp only [bind, EStateM.bind, Outcome.get_apply]
    rw [hkind]
    rfl
  exact call 4997

end Script

namespace Host

open Import (Binding)
open Script (Base Literal Object Realm)

variable {namespaceName script : String} {b : Binding} {l : Literal} {h : Host} {r : Realm}
  {place : Nat} {o : Object}

theorem installable_of_constant (hm : r.Uninherited b.module) (hn : r.Uninherited b.name)
    (hg : ∃ v, pageVariable Script.engine b.module r = .ok v r)
    (hs : b.script = some script) (hc : Script.constant? script = some l) :
    Installable Script.engine namespaceName b r where
  module := hm
  name := hn
  global := by
    obtain ⟨v, hv⟩ := hg
    exact ⟨v, hv, fun hnone => nomatch hs.symm.trans hnone⟩
  script := fun script' hs' m r₁ _ => by
    cases hs.symm.trans hs'
    obtain ⟨o, ho, hrun⟩ := Script.run_of_constant hc r₁
    exact ⟨_, _, hrun, r₁.keeps_add o, ho.isFunction (by rw [Realm.object?_add, if_pos rfl])⟩

/-- The function that a constant script has evaluated to is constant. -/
theorem Stems.isConstant {f : Script.Value} (h : Stems Script.engine script f r)
    (hc : Script.constant? script = some l) :
    ∃ place o, f = .object place ∧ r.object? place = some o ∧ o.IsConstant l := by
  obtain ⟨r₁, r₂, hrun, hobj⟩ := h
  obtain ⟨o, ho, hrun'⟩ := Script.run_of_constant hc r₁
  cases hrun.symm.trans hrun'
  refine ⟨_, o, rfl, hobj.trans ?_, ho⟩
  show (r₁.add o).2.object? r₁.objects.size = some o
  rw [Realm.object?_add, if_pos rfl]

/-- What a literal is outside. -/
def outside : Literal → Exchange.Value
  | .null => .null
  | .bool b => .bool b
  | .number n => leaveNumber n
  | .string s => .string s

theorem leave_literal (l : Literal) (h : Host) :
    leave (Script.Evaluation.literal l) h = .ok (outside l) h := by
  unfold leave
  simp only [bind, EStateM.bind, Outcome.get_apply]
  cases l <;> unfold leaveWithin <;> rfl

/-- A call of a constant function gives its literal and changes no object. -/
theorem apply_of_constant (hengine : h.platform.engine = Script.engine) (hp : h.page = some r)
    (ho : r.object? place = some o) (hc : o.IsConstant l) (self : Script.Value) :
    ∃ h' r', apply (.object place) self [] h = .ok (outside l) h' ∧ h'.page = some r' ∧
      r.Keeps r' := by
  have he : entering [] h = .ok [] (h.withRealm r) :=
    evaluating_of_ok (m := fun _ => enterAll h.handles []) hp (by rw [enterAll]; rfl)
  have hcall := Script.call_of_constant (r := { r with printed := #[] }) ho hc self []
  have hv := evaluating_of_ok (h := h.withRealm r) (m := (·.call (.object place) self [])) rfl
    (hengine ▸ hcall)
  refine ⟨(h.withRealm r).withRealm { r with printed := #[] }, { r with printed := #[] }, ?_, rfl,
    fun _ _ h => h⟩
  unfold apply
  rw [Outcome.bind_of_ok he, Outcome.bind_of_ok hv]
  exact leave_literal l _

end Host
end ScriptProxy
