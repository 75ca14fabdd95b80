import ScriptProxy.Proofs.Host.Namespace
import ScriptProxy.Proofs.Script.Lookup

/-!
# What calls find after a failed registration

A registration looks for the module before it evaluates the script, and a module that is not in the
namespace is made and put there first (`Makes`). It stays there if the script fails. A call prefers
the namespace to the variables of the page, so that it no longer finds the functions of a variable
with the name of the module: of the new module it finds what the object behind all others has, and
nothing else. All other calls find what they found before (`finds_of_register_error`).

It is asked that no accessor is called by the way (`Readable`), and that the script has changed no
object when it fails (`Quiet`). A script that cannot be read has not (`quiet_of_unreadable`).
-/

namespace ScriptProxy.Host

open Import (Binding)
open Outcome (bind_of_ok)
open Script (Base Evaluation Evaluator Object Realm)

variable {e : Evaluator} {namespaceName module name : String} {b : Binding} {space : Nat}
  {r r' r₁ : Realm}
  {m v f : Script.Value} {found : Option (Script.Value × Script.Value)} {h h' : Host}

/-! ### What a call finds -/

/-- The object of a module for a call, unless an accessor is called for it. It is no object if there
is no such module. -/
def target? (namespaceName module : String) (r : Realm) : Option Script.Value :=
  match r.value? Base.globals.place namespaceName with
  | some (.object space) =>
    match r.value? space module with
    | some (.object m) => some (.object m)
    | some _ => r.value? Base.globals.place module
    | none => none
  | some _ => r.value? Base.globals.place module
  | none => none

/-- What a call finds in the object of a module, unless an accessor is called for it. -/
def member? (m : Script.Value) (name : String) (r : Realm) :
    Option (Option (Script.Value × Script.Value)) :=
  match m with
  | .object place =>
    (r.value? place name).map fun f => if r.isFunction f then some (m, f) else none
  | _ => some none

/-- What a call finds, unless an accessor is called for it. -/
def lookup? (namespaceName module name : String) (r : Realm) :
    Option (Option (Script.Value × Script.Value)) :=
  (target? namespaceName module r).bind fun m => member? m name r

/-- A call of the function finds this on the page of the host. -/
def Finds (h : Host) (module name : String) (found : Option (Script.Value × Script.Value)) : Prop :=
  ∃ r, h.page = some r ∧
    function? h.platform.engine h.config.namespaceName module name r = .ok found r

/-- A call does what it has found. -/
theorem invoke_of_finds (hf : h.Finds module name found) (args : List Exchange.Value) :
    ∃ r, h.page = some r ∧ invoke module name args h = match found with
      | some (m, f) => apply f m args (h.withRealm r)
      | none => .error (.unknownFunction module name) (h.withRealm r) := by
  obtain ⟨r, hp, hf⟩ := hf
  refine ⟨r, hp, ?_⟩
  cases found with
  | some mf => exact invoke_of_found hp hf args
  | none =>
    unfold invoke
    simp only [bind, EStateM.bind, Outcome.get_apply]
    rw [evaluating_of_ok (m := (function? · h.config.namespaceName module name)) hp hf]
    rfl

/-- What `function?` does once it knows the object of the module. -/
theorem member_of_member? (hm : member? m name r = some found) :
    (do
      if !m.isObject then return none
      let f ← e.read m name
      return if (← get).isFunction f then some (m, f) else none : Evaluation _) r =
      .ok found r := by
  cases m with
  | object place =>
    obtain ⟨f, hf, rfl⟩ := Option.map_eq_some_iff.1 hm
    exact bind_of_ok (Script.read_of_value? e hf)
  | _ =>
    cases hm
    rfl

theorem function?_of_lookup? (hl : lookup? namespaceName module name r = some found) :
    function? e namespaceName module name r = .ok found r := by
  obtain ⟨m, ht, hm⟩ := Option.bind_eq_some_iff.1 hl
  have hm := member_of_member? (e := e) hm
  unfold target? at ht
  split at ht
  · next space hspace =>
    refine (bind_of_ok (Script.read_of_value? e hspace)).trans ?_
    split at ht
    · next hfound =>
      cases ht
      exact (bind_of_ok (Script.read_of_value? e hfound)).trans hm
    · next v hno hfound =>
      refine (bind_of_ok (Script.read_of_value? e hfound)).trans ?_
      cases v with
      | object m => exact absurd rfl (hno m)
      | _ => exact (bind_of_ok (Script.read_of_value? e ht)).trans hm
    · cases ht
  · next v hno hspace =>
    refine (bind_of_ok (Script.read_of_value? e hspace)).trans ?_
    cases v with
    | object space => exact absurd rfl (hno space)
    | _ => exact (bind_of_ok (Script.read_of_value? e ht)).trans hm
  · cases ht

theorem holds_of_target? (hc : r.Closed) (ht : target? namespaceName module r = some m) :
    r.holds m = true := by
  have hglobals := hc.base .globals
  unfold target? at ht
  split at ht
  · next space hspace =>
    have hsize : space < r.objects.size :=
      of_decide_eq_true (hc.holds_of_value? hglobals hspace)
    split at ht
    · next hfound =>
      cases ht
      exact hc.holds_of_value? hsize hfound
    · exact hc.holds_of_value? hglobals ht
    · cases ht
  · exact hc.holds_of_value? hglobals ht
  · cases ht

theorem target?_congr
    (hspace : r'.value? Base.globals.place namespaceName = r.value? Base.globals.place namespaceName)
    (hfound : ∀ space, r.value? Base.globals.place namespaceName = some (.object space) →
      r'.value? space module = r.value? space module)
    (hglobal : r'.value? Base.globals.place module = r.value? Base.globals.place module) :
    target? namespaceName module r' = target? namespaceName module r := by
  unfold target?
  rw [hspace, hglobal]
  split
  · next space hs => rw [hfound space hs]
  · rfl
  · rfl

/-- A call finds the same in every later realm that keeps the objects. -/
theorem lookup?_of_keeps (hk : r.Keeps r') (hc : r.Closed)
    (hl : lookup? namespaceName module name r = some found) :
    lookup? namespaceName module name r' = some found := by
  have hglobals := hc.base .globals
  obtain ⟨m, ht, hm⟩ := Option.bind_eq_some_iff.1 hl
  have hsize := holds_of_target? hc ht
  refine Option.bind_eq_some_iff.2 ⟨m, ?_, ?_⟩
  · rw [target?_congr (hk.alike.value? hc hglobals trivial) (fun space hs => ?_)
      (hk.alike.value? hc hglobals trivial), ht]
    exact hk.alike.value? hc (of_decide_eq_true (hc.holds_of_value? hglobals hs)) trivial
  · cases m with
    | object place =>
      have hplace := of_decide_eq_true hsize
      obtain ⟨f, hf, rfl⟩ := Option.map_eq_some_iff.1 hm
      refine Option.map_eq_some_iff.2 ⟨f, (hk.alike.value? hc hplace trivial).trans hf, ?_⟩
      rw [hk.alike.isFunction (hc.holds_of_value? hplace hf)]
    | _ => exact hm

theorem isFunction_of_newModule {place : Nat} (h : r.object? place = some newModule) :
    r.isFunction (.object place) = false := by
  rw [Realm.isFunction, Realm.kind?, Realm.objectOf?, h]
  rfl

section Given

variable {module' : String} {old new : Script.Value} (hc : r.Closed)
  (hg : Realm.Given r r' space module new) (hold : r.value? space module = some old)
  (hobj : old.isObject = false)
include hc hg hold

theorem value?_of_given {place : Nat} (hp : place < r.objects.size)
    (hv : r.value? place name = some v) :
    r'.value? place name = some v ∨ v = old ∧ r'.value? place name = some new := by
  refine (hg.value?_cases hc hp name).imp (fun h => h.trans hv) fun ⟨hname, hsame, hvalue⟩ => ?_
  refine ⟨?_, hvalue⟩
  rw [hname] at hv hsame
  exact Option.some.inj (hv.symm.trans (hsame.trans hold))

include hobj

/-- The same is called for a function if no object stood where there is no function now. -/
theorem called_of_given {place : Nat} (hp : place < r.objects.size)
    (hv : r.value? place name = some v) (self : Script.Value) (hnew : r'.isFunction new = false) :
    (r'.value? place name).map (fun f => if r'.isFunction f then some (self, f) else none) =
      some (if r.isFunction v then some (self, v) else none) := by
  rcases value?_of_given hc hg hold hp hv with h | ⟨rfl, h⟩
  · rw [h, Option.map_some, hg.alike.isFunction (hc.holds_of_value? hp hv)]
  · have hnone : r.isFunction v = false := by
      cases v with
      | object => cases hobj
      | _ => rfl
    rw [h, Option.map_some, hnew, hnone]
    rfl

theorem space_of_given
    (hspace : r.value? Base.globals.place namespaceName = some (.object space)) :
    r'.value? Base.globals.place namespaceName = some (.object space) := by
  rcases value?_of_given hc hg hold (hc.base .globals) hspace with h | ⟨rfl, -⟩
  · exact h
  · cases hobj

/-- A call of a function in any other module finds what it found before the module was put into the
namespace. -/
theorem lookup?_of_given (hnew : r'.isFunction new = false)
    (hspace : r.value? Base.globals.place namespaceName = some (.object space))
    (hne : module' ≠ module) (hl : lookup? namespaceName module' name r = some found) :
    lookup? namespaceName module' name r' = some found := by
  have hglobals := hc.base .globals
  obtain ⟨m, ht, hm⟩ := Option.bind_eq_some_iff.1 hl
  have hsize := holds_of_target? hc ht
  refine Option.bind_eq_some_iff.2 ⟨m, ?_, ?_⟩
  · rw [target?_congr _ (fun space' hs => ?_) (hg.alike.value? hc hglobals hne), ht]
    · exact (space_of_given hc hg hold hobj hspace).trans hspace.symm
    · exact hg.alike.value? hc (of_decide_eq_true (hc.holds_of_value? hglobals hs)) hne
  · cases m with
    | object place =>
      obtain ⟨f, hf, rfl⟩ := Option.map_eq_some_iff.1 hm
      exact called_of_given hc hg hold hobj (of_decide_eq_true hsize) hf (.object place) hnew
    | _ => exact hm

/-- Of an empty object that has been put into the namespace a call finds what the object behind all
others has. -/
theorem lookup?_of_made {place : Nat} (hnew : r'.object? place = some newModule)
    (hplace : new = .object place)
    (hspace : r.value? Base.globals.place namespaceName = some (.object space))
    (hf : r.value? Base.object.place name = some f) :
    lookup? namespaceName module name r' =
      some (if r.isFunction f then some (.object place, f) else none) := by
  subst hplace
  obtain ⟨o, o', -, ho', -, -, hv, -⟩ := hg.object
  have hmodule : r'.value? space module = some (.object place) := Realm.value?_of_data ho' hv
  have ht : target? namespaceName module r' = some (.object place) := by
    unfold target?
    rw [space_of_given hc hg hold hobj hspace]
    dsimp only
    rw [hmodule]
  have hbehind : r'.value? place name = r'.value? Base.object.place name :=
    Realm.value?_of_behind hnew ((isPlain_newModule.takes name).own?_eq_none rfl) rfl
  unfold lookup?
  rw [ht, Option.bind_some]
  unfold member?
  dsimp only
  rw [hbehind]
  exact called_of_given hc hg hold hobj (hc.base .object) hf (.object place)
    (isFunction_of_newModule hnew)

end Given

/-! ### The steps of a registration -/

/-- What a registration does once it has the object of the module. -/
def finishing (e : Evaluator) (b : Binding) (m : Script.Value) : Evaluation Unit := do
  match b.script with
  | none => return
  | some script =>
    let f ← e.run ("(" ++ script ++ "\n)")
    e.write m b.name f

theorem installing_eq_bind (e : Evaluator) (namespaceName : String) (b : Binding) :
    installing e namespaceName b = Host.module e namespaceName b >>= finishing e b := rfl

/-- The module of a binding is made. -/
def Makes (e : Evaluator) (namespaceName : String) (b : Binding) (r : Realm) : Prop :=
  ∃ r₁, Host.module e namespaceName b r = .ok (.object r.objects.size) r₁

/-- The module of a binding is looked for without a call of an accessor, and the namespace is no
object that keeps its elements apart. -/
structure Readable (namespaceName : String) (b : Binding) (r : Realm) : Prop where
  space : (r.value? Base.globals.place namespaceName).isSome
  module : ∀ space, r.value? Base.globals.place namespaceName = some (.object space) →
    ∃ old, r.value? space b.module = some old ∧
      (old.isObject = false → (r.value? Base.globals.place b.module).isSome)
  plain : ∀ space o, r.value? Base.globals.place namespaceName = some (.object space) →
    r.object? space = some o → o.isArray = false ∧ o.elements = #[]

def isReadable (namespaceName : String) (b : Binding) (r : Realm) : Bool :=
  match r.value? Base.globals.place namespaceName with
  | some (.object space) =>
    (r.value? space b.module).any (fun old =>
        old.isObject || (r.value? Base.globals.place b.module).isSome) &&
      (r.object? space).all fun o => !o.isArray && o.elements.isEmpty
  | some _ => true
  | none => false

theorem readable_of_isReadable (h : isReadable namespaceName b r = true) :
    Readable namespaceName b r := by
  unfold isReadable at h
  split at h
  · next space hspace =>
    rw [Bool.and_eq_true, Option.any_eq_true] at h
    obtain ⟨⟨old, hold, hglobal⟩, hplain⟩ := h
    refine ⟨by rw [hspace]; rfl, fun space' hs => ⟨old, ?_, fun hobj => ?_⟩, fun space' o hs ho => ?_⟩
    · cases hspace.symm.trans hs
      exact hold
    · rwa [hobj, Bool.false_or] at hglobal
    · cases hspace.symm.trans hs
      rw [ho] at hplain
      simpa using hplain
  · next v hno hspace =>
    have hne (space : Nat) :
        r.value? Base.globals.place namespaceName ≠ some (.object space) := by
      rw [hspace]
      exact fun h => hno space (Option.some.inj h)
    exact ⟨by rw [hspace]; rfl, fun space hs => absurd hs (hne space),
      fun space o hs => absurd hs (hne space)⟩
  · cases h

/-- The script of a binding has changed no object when it fails, and neither does the question for
the message of the failure. -/
def Quiet (e : Evaluator) (namespaceName : String) (b : Binding) (r : Realm) : Prop :=
  ∀ m r₁ v r₂, Host.module e namespaceName b r = .ok m r₁ → finishing e b m r₁ = .error v r₂ →
    r₁.Keeps (failureOf e v r₂).2

/-- An error that the engine throws has a message of its own. -/
theorem failureOf_raise {α : Type} {k : Script.ErrorKind} {message : String}
    (he : (Evaluation.raise k message : Evaluation α) r = .error v r') :
    r.Keeps r' ∧ failureOf e v r' = (.script message, r') := by
  let o : Object := .ofProperties .error (some (Base.error k).place)
    [("message", .unlisted (.string message))]
  obtain ⟨rfl, rfl⟩ : v = .object r.objects.size ∧ r' = (r.add o).2 := by
    cases he
    exact ⟨rfl, rfl⟩
  have ho : (r.add o).2.object? r.objects.size = some o := by rw [Realm.object?_add, if_pos rfl]
  have hd : (r.add o).2.data? r.objects.size "message" = some (.string message) := by
    rw [Realm.data?, ho]
    rfl
  have hkind : (r.add o).2.kind? (.object r.objects.size) = some .error := by
    rw [Realm.kind?, Realm.objectOf?, ho]
    rfl
  have hm : e.messageOf (.object r.objects.size) (r.add o).2 = .ok message (r.add o).2 := by
    unfold Evaluator.messageOf
    simp only [bind, EStateM.bind, Outcome.get_apply]
    rw [hkind]
    simp only [EStateM.bind, tryCatch, tryCatchThe, MonadExceptOf.tryCatch, EStateM.tryCatch,
      Script.read_of_data e hd]
    rfl
  refine ⟨r.keeps_add o, ?_⟩
  unfold failureOf
  rw [hm]

/-- A script that cannot be read does nothing before it fails. -/
theorem quiet_of_unreadable {script : String} (hs : b.script = some script)
    (hp : (Script.program ("(" ++ script ++ "\n)")).isOk = false) :
    Quiet Script.engine namespaceName b r := by
  intro m r₁ v r₂ _ hfin
  obtain ⟨message, hrun⟩ : ∃ message, Script.engine.run ("(" ++ script ++ "\n)") r₁ =
      Evaluation.raise .reading message r₁ := by
    cases hprogram : Script.program ("(" ++ script ++ "\n)") with
    | ok ss =>
      rw [hprogram] at hp
      cases hp
    | error message =>
      refine ⟨message, ?_⟩
      show Evaluation.script (4999 + 1) _ r₁ = _
      unfold Evaluation.script
      rw [hprogram]
  unfold finishing at hfin
  rw [hs] at hfin
  rcases Outcome.step_bind_eq_error.1 hfin with he | ⟨f, r₂, he, -⟩
  · obtain ⟨hk, hf⟩ := failureOf_raise (hrun.symm.trans he)
    rw [hf]
    exact hk
  · cases hrun.symm.trans he

/-- An object is put into the namespace, or an error is thrown. -/
theorem put_cases {r₀ : Realm} (hc : r.Closed) (hr : Readable namespaceName b r)
    (hspace : r.value? Base.globals.place namespaceName = some (.object space))
    (hk : r.Keeps r₀) (m : Script.Value) :
    (∃ k message, (do e.write (.object space) b.module m; return m : Evaluation _) r₀ =
        Evaluation.raise k message r₀) ∨
      ∃ r₁, (do e.write (.object space) b.module m; return m : Evaluation _) r₀ = .ok m r₁ ∧
        Realm.Given r₀ r₁ space b.module m := by
  have hsize : space < r.objects.size :=
    of_decide_eq_true (hc.holds_of_value? (hc.base .globals) hspace)
  obtain ⟨old, hold, -⟩ := hr.module space hspace
  obtain ⟨o, ho⟩ := Realm.exists_object? hsize
  obtain ⟨harr, he⟩ := hr.plain space o hspace ho
  rcases Script.write_cases e (hk space o ho) harr he
    ((hk.alike.value? hc hsize trivial).trans hold) m with ⟨message, hw⟩ | ⟨r₁, hw, hg⟩
  · refine .inl ⟨.type, message, ?_⟩
    show EStateM.bind _ _ _ = _
    rw [EStateM.bind, hw]
    rfl
  · exact .inr ⟨r₁, bind_of_ok hw, hg⟩

/-- The module of a binding is found, or it is put into the namespace, unless an error is thrown. If
there is a script, then what is put there is a new object. -/
theorem module_cases (hc : r.Closed) (hr : Readable namespaceName b r) :
    (∃ r₀ k message, r.Keeps r₀ ∧
        Host.module e namespaceName b r = Evaluation.raise k message r₀) ∨
      (∃ place, place < r.objects.size ∧ Host.module e namespaceName b r = .ok (.object place) r) ∨
      ∃ space old m r₁, Host.module e namespaceName b r = .ok m r₁ ∧
        r.value? Base.globals.place namespaceName = some (.object space) ∧
        r.value? space b.module = some old ∧ old.isObject = false ∧
        Realm.Given r r₁ space b.module m ∧
        (b.script = none ∨
          m = .object r.objects.size ∧ r₁.object? r.objects.size = some newModule) := by
  obtain ⟨v, hspace⟩ := Option.isSome_iff_exists.1 hr.space
  have hread : pageVariable e namespaceName r = .ok v r := Script.read_of_value? e hspace
  cases v with
  | object space =>
    have hsize : space < r.objects.size :=
      of_decide_eq_true (hc.holds_of_value? (hc.base .globals) hspace)
    obtain ⟨old, hold, hsome⟩ := hr.module space hspace
    have hmodule : Host.module e namespaceName b r = _ := (bind_of_ok hread).trans
      (bind_of_ok (Script.read_of_value? e hold))
    cases hobj : old.isObject with
    | true =>
      cases old with
      | object place =>
        exact .inr (.inl ⟨place, of_decide_eq_true (hc.holds_of_value? hsize hold), hmodule⟩)
      | _ => cases hobj
    | false =>
      obtain ⟨global, hglobal⟩ := Option.isSome_iff_exists.1 (hsome hobj)
      have hvariable : pageVariable e b.module r = .ok global r :=
        Script.read_of_value? e hglobal
      rw [hobj, if_neg Bool.false_ne_true, bind_of_ok hvariable] at hmodule
      cases hcond : global.isObject && b.script.isNone with
      | true =>
        rw [hcond, if_pos rfl] at hmodule
        have hnone := Option.isNone_iff_eq_none.1 (Bool.and_eq_true_iff.1 hcond).2
        rcases put_cases hc hr hspace (.refl r) global with ⟨k, message, hput⟩ | ⟨r₁, hput, hg⟩
        · exact .inl ⟨r, k, message, .refl r, hmodule.trans hput⟩
        · exact .inr (.inr ⟨space, old, global, r₁, hmodule.trans hput, hspace, hold, hobj, hg,
            .inl hnone⟩)
      | false =>
        have hk := r.keeps_add newModule
        rw [hcond, if_neg Bool.false_ne_true] at hmodule
        rcases put_cases hc hr hspace hk (.object r.objects.size) with
          ⟨k, message, hput⟩ | ⟨r₁, hput, hg⟩
        · exact .inl ⟨_, k, message, hk, hmodule.trans hput⟩
        · refine .inr (.inr ⟨space, old, _, r₁, hmodule.trans hput, hspace, hold, hobj,
            hk.given hsize hg, .inr ⟨rfl, hg.others _ _ (Nat.ne_of_gt hsize) ?_⟩⟩)
          rw [Realm.object?_add, if_pos rfl]
  | _ => exact .inl ⟨r, _, _, .refl r, (bind_of_ok hread).trans rfl⟩

/-- A registration that fails has changed no object, or it has made the module and has put it into the
namespace. -/
theorem installing_error {r₂ : Realm} (hc : r.Closed) (hr : Readable namespaceName b r)
    (hq : Quiet e namespaceName b r) (he : installing e namespaceName b r = .error v r₂) :
    ¬ Makes e namespaceName b r ∧ r.Keeps (failureOf e v r₂).2 ∨
      Makes e namespaceName b r ∧ ∃ space old,
        r.value? Base.globals.place namespaceName = some (.object space) ∧
        r.value? space b.module = some old ∧ old.isObject = false ∧
        Realm.Given r (failureOf e v r₂).2 space b.module (.object r.objects.size) ∧
        (failureOf e v r₂).2.object? r.objects.size = some newModule := by
  rw [installing_eq_bind, Outcome.step_bind_eq_error] at he
  rcases module_cases (e := e) hc hr with ⟨r₀, k, message, hk, hm⟩ | ⟨place, hplace, hm⟩ |
    ⟨space, old, m, r₁, hm, hspace, hold, hobj, hg, hnone | ⟨rfl, hnew⟩⟩
  · rcases he with he | ⟨m, r₁, hm', -⟩
    · obtain ⟨hk', hf⟩ := failureOf_raise (hm.symm.trans he)
      refine .inl ⟨fun ⟨r₁, hmakes⟩ => ?_, ?_⟩
      · cases hm.symm.trans hmakes
      · rw [hf]
        exact hk.trans hk'
    · cases hm.symm.trans hm'
  · rcases he with he | ⟨m, r₁, hm', hfin⟩
    · cases hm.symm.trans he
    · cases hm.symm.trans hm'
      refine .inl ⟨fun ⟨r₁, hmakes⟩ => ?_, hq _ _ _ _ hm hfin⟩
      cases hm.symm.trans hmakes
      exact absurd hplace (Nat.lt_irrefl _)
  · rcases he with he | ⟨m', r₁', hm', hfin⟩
    · cases hm.symm.trans he
    · -- there is no script that could fail
      unfold finishing at hfin
      rw [hnone] at hfin
      cases hfin
  · rcases he with he | ⟨m', r₁', hm', hfin⟩
    · cases hm.symm.trans he
    · cases hm.symm.trans hm'
      have hk := hq _ _ _ _ hm hfin
      exact .inr ⟨⟨r₁, hm⟩, space, old, hspace, hold, hobj, hg.keeps hk, hk _ _ hnew⟩

/-- After a registration that has failed, every call finds what it found before, unless the module
has been made: then a call of a function in this module finds what every object has. -/
theorem finds_of_register_error {failure : Failure} (hp : h.page = some r) (hc : r.Closed)
    (hr : Readable h.config.namespaceName b r) (hq : Quiet h.platform.engine h.config.namespaceName b r)
    (he : register b h = .error failure h') :
    (∀ module name found, (module = b.module → ¬ Makes h.platform.engine h.config.namespaceName b r) →
      lookup? h.config.namespaceName module name r = some found →
        h.Finds module name found ∧ h'.Finds module name found) ∧
    (Makes h.platform.engine h.config.namespaceName b r → ∀ name f, r.value? Base.object.place name = some f →
      h'.Finds b.module name
        (if r.isFunction f then some (.object r.objects.size, f) else none)) := by
  rw [register_eq, evaluating, hp] at he
  dsimp only at he
  split at he
  · cases he
  · next v r₂ hinst =>
    cases he
    have hprinted : (failureOf h.platform.engine v r₂).2.Keeps { (failureOf h.platform.engine v r₂).2 with printed := #[] } :=
      fun _ _ h => h
    have finds {module name : String} {found : Option (Script.Value × Script.Value)}
        (hl : lookup? h.config.namespaceName module name
          { (failureOf h.platform.engine v r₂).2 with printed := #[] } = some found) :
        (h.withRealm (failureOf h.platform.engine v r₂).2).Finds module name found :=
      ⟨_, rfl, function?_of_lookup? hl⟩
    rcases installing_error hc hr hq hinst with ⟨hmakes, hk⟩ |
      ⟨hmakes, space, old, hspace, hold, hobj, hg, hnew⟩
    · refine ⟨fun module name found _ hl => ⟨⟨r, hp, function?_of_lookup? hl⟩, finds ?_⟩,
        fun h => absurd h hmakes⟩
      exact lookup?_of_keeps (hk.trans hprinted) hc hl
    · have hg := hg.keeps hprinted
      have hnew := hprinted _ _ hnew
      refine ⟨fun module name found hne hl => ⟨⟨r, hp, function?_of_lookup? hl⟩, finds ?_⟩,
        fun _ name f hf => finds (lookup?_of_made hc hg hold hobj hnew rfl hspace hf)⟩
      exact lookup?_of_given hc hg hold hobj (isFunction_of_newModule hnew) hspace
        (fun h => hne h hmakes) hl

/-- A function for the module of the engine's own mathematical functions. The script is cut off. -/
def cutOff : Binding := ⟨"Math", "g", some "function ("⟩

/-- Whether the registration of that function fails when it has made the module, and what a call
finds before. -/
def isShadowed (h : Host) (r : Realm) : Bool :=
  r.isClosed && isReadable h.config.namespaceName cutOff r &&
    (match Host.module h.platform.engine h.config.namespaceName cutOff r with
      | .ok m _ => m = .object r.objects.size
      | .error _ _ => false) &&
    (match register cutOff h with
      | .ok _ _ => false
      | .error _ _ => true) &&
    r.value? Base.object.place "max" = some .undefined &&
    (lookup? h.config.namespaceName "Math" "max" r).any (·.isSome) &&
    (lookup? h.config.namespaceName "Array" "isArray" r).any (·.isSome)

theorem isShadowed_load :
    (match Host.load (.content "") (.start .standard (.standard .none) 0) with
      | .ok _ h => h.page.any (isShadowed h)
      | .error _ _ => false) = true := by decide +kernel

/-- On a page without scripts, the registration of a function whose script is cut off takes a
function of the same module away, and leaves those of other modules. -/
theorem finds_of_register_error_cutOff : ∃ (h h' : Host) (failure : Failure),
    register cutOff h = .error failure h' ∧
      (∃ f, h.Finds "Math" "max" (some f)) ∧ h'.Finds "Math" "max" none ∧
      ∃ f, h.Finds "Array" "isArray" (some f) ∧ h'.Finds "Array" "isArray" (some f) := by
  have hs := isShadowed_load
  split at hs
  case h_2 => cases hs
  case h_1 _ h hload =>
    have hengine : h.platform.engine = Script.engine := by rw [(kept_load hload).platform]; rfl
    obtain ⟨r, hp, hs⟩ := (Option.any_eq_true _ _).1 hs
    simp only [isShadowed, Bool.and_eq_true, decide_eq_true_eq] at hs
    obtain ⟨⟨⟨⟨⟨⟨hclosed, hreadable⟩, hmakes⟩, herror⟩, hmax⟩, hbefore⟩, hother⟩ := hs
    cases he : register cutOff h with
    | ok _ _ =>
      rw [he] at herror
      cases herror
    | error failure h' =>
      have hquiet : Quiet h.platform.engine h.config.namespaceName cutOff r :=
        hengine ▸ quiet_of_unreadable rfl (by decide +kernel)
      obtain ⟨hfinds, hmade⟩ := finds_of_register_error hp (Realm.closed_of_isClosed hclosed)
        (readable_of_isReadable hreadable) hquiet he
      have hm : Makes h.platform.engine h.config.namespaceName cutOff r := by
        split at hmakes
        · next m r₁ hm =>
          exact ⟨r₁, by rw [hm, of_decide_eq_true hmakes]⟩
        · cases hmakes
      obtain ⟨_, hf, hsome⟩ := (Option.any_eq_true _ _).1 hbefore
      obtain ⟨f, rfl⟩ := Option.isSome_iff_exists.1 hsome
      obtain ⟨_, hg, hsome⟩ := (Option.any_eq_true _ _).1 hother
      obtain ⟨g, rfl⟩ := Option.isSome_iff_exists.1 hsome
      exact ⟨h, h', failure, he, ⟨f, r, hp, function?_of_lookup? hf⟩, hmade hm "max" _ hmax,
        g, hfinds "Array" "isArray" _ (fun h => absurd h (by decide)) hg⟩

end ScriptProxy.Host
