import ScriptProxy.Proofs.Host.Frame
import ScriptProxy.Proofs.Script.Property

/-!
# The namespace of a page

`Namespace` says that the namespace object of a page is plain and that its properties are modules: other
objects, of which two names may share one. The installation of a function keeps it so, puts the function
where a call finds it, and takes no other function away: `Namespace.installing_eq`. It is asked that the
installation does nothing besides (`Installable`), so that the script evaluates to a function without
side effects and the names are none that every object has, and that an object of the page that stands
for a module takes the function (`Receives`).

`Separate` says that the modules have been made for the namespace, each for its own name. As long as all
functions come with their scripts, it stays so (`Carries.separate`), and a function is only replaced under
its own name then (`Carries.functions`).
-/

namespace ScriptProxy.Host

open Import (Binding)
open Outcome (bind_of_ok left)
open Script (Base Evaluation Evaluator Object Realm)

variable {e : Evaluator} {namespaceName module name module' name' : String} {b : Binding}
  {space m m' : Nat} {r r' r₁ : Realm} {o : Object} {v f : Script.Value}

structure Namespace (namespaceName : String) (space : Nat) (r : Realm) : Prop where
  rooted : r.Rooted
  bound : r.data? Base.globals.place namespaceName = some (.object space)
  plain : ∃ o, r.object? space = some o ∧ o.IsPlain
  modules : ∀ module v, r.data? space module = some v →
    ∃ m o, v = .object m ∧ r.object? m = some o ∧ m ≠ space ∧ m ≠ Base.globals.place
  apart : space ≠ Base.globals.place

/-- No two modules in the namespace are one object, and all are plain. -/
structure Separate (space : Nat) (r : Realm) : Prop where
  distinct : ∀ module module' m, r.data? space module = some (.object m) →
    r.data? space module' = some (.object m) → module = module'
  plain : ∀ module m, r.data? space module = some (.object m) →
    ∃ o, r.object? m = some o ∧ o.IsPlain

/-- A function of a module in the namespace. -/
structure Offers (space : Nat) (r : Realm) (module name : String) (m : Nat) (f : Script.Value) :
    Prop where
  module : r.data? space module = some (.object m)
  function : r.data? m name = some f
  isFunction : r.isFunction f = true

/-- What was in the namespace is in it still. -/
structure Extends (space : Nat) (r r' : Realm) : Prop where
  modules : ∀ module v, r.data? space module = some v → r'.data? space module = some v
  functions : ∀ {module name m f}, Offers space r module name m f →
    r'.data? m name = some f ∧ r'.objectOf? f = r.objectOf? f

/-- What was in the namespace is in it still, but for one function that may have been replaced. -/
structure Carries (space : Nat) (installed : Option Binding) (r r' : Realm) : Prop where
  present : ∀ {module name m f}, Offers space r module name m f →
    ∃ f', Offers space r' module name m f'
  functions : ∀ {module name m f}, Separate space r' → Offers space r module name m f →
    (∀ b ∈ installed, b.script ≠ none → b.key ≠ (module, name)) →
      Offers space r' module name m f ∧ r'.objectOf? f = r.objectOf? f
  separate : Separate space r → (∀ b ∈ installed, b.script ≠ none) → Separate space r'

/-- The namespace, its modules and their functions have not been touched. -/
structure Spares (namespaceName : String) (space : Nat) (r r' : Realm) : Prop where
  rooted : r'.Rooted
  bound : r'.data? Base.globals.place namespaceName = r.data? Base.globals.place namespaceName
  object : r'.object? space = r.object? space
  modules : ∀ module m, r.data? space module = some (.object m) → r'.object? m = r.object? m
  functions : ∀ {module name m f}, Offers space r module name m f →
    r'.objectOf? f = r.objectOf? f

/-! ### What calls find -/

theorem pageVariable_of_data (h : r.data? Base.globals.place name = some v) :
    pageVariable e name r = .ok v r := Script.read_of_data e h

/-- A function of the namespace is the one that a call finds. -/
theorem Offers.function?_eq (hb : r.data? Base.globals.place namespaceName = some (.object space))
    (h : Offers space r module name m f) :
    function? e namespaceName module name r = .ok (some (.object m, f)) r := by
  refine (bind_of_ok (pageVariable_of_data hb)).trans ?_
  refine (bind_of_ok (Script.read_of_data e h.module)).trans ?_
  refine (bind_of_ok (Script.read_of_data e h.function)).trans ?_
  show EStateM.Result.ok (if r.isFunction f then some (Script.Value.object m, f) else none) r = _
  rw [h.isFunction]
  rfl

theorem isFunction_of_objectOf? (h : r'.objectOf? f = r.objectOf? f) :
    r'.isFunction f = r.isFunction f := by
  rw [Realm.isFunction, Realm.isFunction, Realm.kind?, Realm.kind?, h]

/-- An object that has a function is not one itself if it is ordinary. -/
theorem objectOf?_of_ordinary (hf : r.isFunction f = true) (ho : r.object? m = some o)
    (hp : o.IsOrdinary) (hrest : ∀ place o, place ≠ m → r.object? place = some o →
      r'.object? place = some o) : r'.objectOf? f = r.objectOf? f := by
  cases f with
  | object place =>
    obtain ⟨k, hk, hf⟩ := (Option.any_eq_true _ _).1 hf
    obtain ⟨o', ho', rfl⟩ := Option.map_eq_some_iff.1 hk
    have ho' : r.object? place = some o' := ho'
    refine (hrest place o' ?_ ho').trans ho'.symm
    rintro rfl
    cases ho.symm.trans ho'
    rw [hp.kind] at hf
    cases hf
  | _ => rfl

/-! ### Relations between realms -/

namespace Extends

theorem refl (space : Nat) (r : Realm) : Extends space r r := ⟨fun _ _ h => h, fun h => ⟨h.function, rfl⟩⟩

theorem offers (h : Extends space r r') (ho : Offers space r module name m f) :
    Offers space r' module name m f := by
  obtain ⟨hf, hobj⟩ := h.functions ho
  exact ⟨h.modules module _ ho.module, hf, (isFunction_of_objectOf? hobj).trans ho.isFunction⟩

theorem trans (h : Extends space r r₁) (h' : Extends space r₁ r') : Extends space r r' where
  modules := fun module v hv => h'.modules module v (h.modules module v hv)
  functions := fun ho => by
    obtain ⟨hf, hobj⟩ := h'.functions (h.offers ho)
    exact ⟨hf, hobj.trans (h.functions ho).2⟩

theorem carries {installed : Option Binding} (h : Extends space r r')
    (hs : Separate space r → (∀ b ∈ installed, b.script ≠ none) → Separate space r') :
    Carries space installed r r' where
  present := fun ho => ⟨_, h.offers ho⟩
  functions := fun _ ho _ => ⟨h.offers ho, (h.functions ho).2⟩
  separate := hs

end Extends

theorem Separate.congr (h : Separate space r)
    (hd : ∀ module, r'.data? space module = r.data? space module)
    (hp : ∀ module m o, r.data? space module = some (.object m) → r.object? m = some o →
      o.IsPlain → ∃ o', r'.object? m = some o' ∧ o'.IsPlain) : Separate space r' where
  distinct := fun module module' m hm hm' =>
    h.distinct module module' m (hd module ▸ hm) (hd module' ▸ hm')
  plain := fun module m hm =>
    let ⟨o, ho, hplain⟩ := h.plain module m (hd module ▸ hm)
    hp module m o (hd module ▸ hm) ho hplain

namespace Spares

variable (h : Spares namespaceName space r r')
include h

theorem data? (module : String) : r'.data? space module = r.data? space module := by
  rw [Realm.data?, Realm.data?, h.object]

theorem extended : Extends space r r' where
  modules := fun module v hv => (h.data? module).trans hv
  functions := fun {module name m f} ho => by
    refine ⟨?_, h.functions ho⟩
    rw [Realm.data?, h.modules module m ho.module]
    exact ho.function

theorem separate_iff : Separate space r' ↔ Separate space r := by
  refine ⟨fun hs => hs.congr (fun module => (h.data? module).symm) fun module m o hm ho hp => ?_,
    fun hs => hs.congr h.data? fun module m o hm ho hp => ?_⟩
  · exact ⟨o, (h.modules module m (h.data? module ▸ hm)).symm.trans ho, hp⟩
  · exact ⟨o, (h.modules module m hm).trans ho, hp⟩

theorem carries {installed : Option Binding} : Carries space installed r r' :=
  h.extended.carries fun hs _ => h.separate_iff.2 hs

/-- What has been carried to a realm is carried on. -/
theorem carries_of {installed : Option Binding} {r₀ : Realm} (hc : Carries space installed r₀ r) :
    Carries space installed r₀ r' where
  present := fun ho =>
    let ⟨f', hf'⟩ := hc.present ho
    ⟨f', h.extended.offers hf'⟩
  functions := fun hs ho hne => by
    obtain ⟨ho', hobj⟩ := hc.functions (h.separate_iff.1 hs) ho hne
    exact ⟨h.extended.offers ho', (h.functions ho').trans hobj⟩
  separate := fun hs hb => h.separate_iff.2 (hc.separate hs hb)

theorem namespace_of (hN : Namespace namespaceName space r) : Namespace namespaceName space r' where
  rooted := h.rooted
  bound := h.bound.trans hN.bound
  plain := by
    obtain ⟨o, ho, hp⟩ := hN.plain
    exact ⟨o, h.object.trans ho, hp⟩
  modules := fun module v hv => by
    obtain ⟨m, o, rfl, ho, hne⟩ := hN.modules module v (h.data? module ▸ hv)
    exact ⟨m, o, rfl, (h.modules module m (h.data? module ▸ hv)).trans ho, hne⟩
  apart := hN.apart

end Spares

namespace Namespace

/-- Where no object has changed, the namespace has not been touched. -/
theorem spares (hN : Namespace namespaceName space r) (hk : r.Keeps r') :
    Spares namespaceName space r r' where
  rooted := by
    obtain ⟨o, ho, hb⟩ := hN.rooted
    exact ⟨o, hk _ o ho, hb⟩
  bound := (hk.data? hN.bound).trans hN.bound.symm
  object := by
    obtain ⟨o, ho, -⟩ := hN.plain
    exact (hk _ o ho).trans ho.symm
  modules := fun module m hm => by
    obtain ⟨k, o, hk', ho, -⟩ := hN.modules module _ hm
    cases hk'
    exact (hk m o ho).trans ho.symm
  functions := fun {module name m f} ho => by
    cases f with
    | object place =>
      obtain ⟨k, hk', -⟩ := (Option.any_eq_true _ _).1 ho.isFunction
      obtain ⟨o, ho, -⟩ := Option.map_eq_some_iff.1 hk'
      have ho : r.object? place = some o := ho
      exact (hk place o ho).trans ho.symm
    | _ => rfl

theorem keeps (hN : Namespace namespaceName space r) (hk : r.Keeps r') :
    Namespace namespaceName space r' := (hN.spares hk).namespace_of hN

/-- The namespace is not the object behind all others, and neither is a module that takes a
function. -/
theorem ne_root (h : Namespace namespaceName space r) {place : Nat} (ho : r.object? place = some o)
    (hp : o.IsOrdinary) : Base.object.place ≠ place := by
  rintro rfl
  obtain ⟨root, hr, hb⟩ := h.rooted
  cases ho.symm.trans hr
  cases hb.symm.trans hp.behind

/-! ### Modules and functions -/

section WithModule

variable (hN : Namespace namespaceName space r) (hnone : r.data? space module = none)
  (ho : r.object? space = some o) (hs : r'.object? space = some (o.written module (.object m)))
include hN ho hs

theorem data?_withModule (module' : String) : r'.data? space module' =
    if module = module' then some (.object m) else r.data? space module' := by
  obtain ⟨o', ho', hp⟩ := hN.plain
  cases ho.symm.trans ho'
  rw [Realm.data?, hs, Option.bind_some, (hp.takes module).data?_written, Realm.data?, ho,
    Option.bind_some]

variable (hrest : ∀ place o, place ≠ space → r.object? place = some o → r'.object? place = some o)
include hrest

/-- An object becomes a module. -/
theorem withModule (hm : ∃ o, r'.object? m = some o) (hms : m ≠ space)
    (hmg : m ≠ Base.globals.place) : Namespace namespaceName space r' := by
  obtain ⟨o', ho', hp⟩ := hN.plain
  cases ho.symm.trans ho'
  obtain ⟨root, hroot, hb⟩ := hN.rooted
  obtain ⟨globals, hglobals, hspace⟩ := Option.bind_eq_some_iff.1 hN.bound
  refine ⟨⟨root, hrest _ root (hN.ne_root ho hp.toIsOrdinary) hroot, hb⟩, ?_,
    ⟨_, hs, hp.written module _⟩, fun module' v hv => ?_, hN.apart⟩
  · rw [Realm.data?, hrest _ globals hN.apart.symm hglobals]
    exact hspace
  · rw [hN.data?_withModule ho hs] at hv
    split at hv
    · cases hv
      obtain ⟨new, hnew⟩ := hm
      exact ⟨m, new, rfl, hnew, hms, hmg⟩
    · obtain ⟨k, ok, rfl, hk, hks, hkg⟩ := hN.modules module' v hv
      exact ⟨k, ok, rfl, hrest k ok hks hk, hks, hkg⟩

include hnone

theorem extends_withModule : Extends space r r' := by
  obtain ⟨o', ho', hp⟩ := hN.plain
  cases ho.symm.trans ho'
  have hsame (module' : String) (v : Script.Value) (hv : r.data? space module' = some v) :
      r'.data? space module' = some v := by
    rw [hN.data?_withModule ho hs, if_neg, hv]
    rintro rfl
    cases hnone.symm.trans hv
  refine ⟨hsame, fun {module' name k f} hof => ⟨?_, ?_⟩⟩
  · obtain ⟨j, ok, hj, hk, hks, -⟩ := hN.modules module' _ hof.module
    cases hj
    rw [Realm.data?, hrest k ok hks hk, ← hk]
    exact hof.function
  · exact objectOf?_of_ordinary hof.isFunction ho hp.toIsOrdinary fun place o hne => hrest place o hne

omit hnone in
theorem separate_withModule (hnew : ∀ module', r.data? space module' ≠ some (.object m))
    (hm : ∃ o, r'.object? m = some o ∧ o.IsPlain) (h : Separate space r) : Separate space r' where
  distinct := fun module₁ module₂ k h₁ h₂ => by
    rw [hN.data?_withModule ho hs] at h₁ h₂
    split at h₁ <;> split at h₂
    · next e₁ e₂ => exact e₁.symm.trans e₂
    · cases h₁
      exact absurd h₂ (hnew module₂)
    · cases h₂
      exact absurd h₁ (hnew module₁)
    · exact h.distinct module₁ module₂ k h₁ h₂
  plain := fun module' k hk => by
    rw [hN.data?_withModule ho hs] at hk
    split at hk
    · cases hk
      exact hm
    · obtain ⟨ok, hok, hp⟩ := h.plain module' k hk
      obtain ⟨j, _, hj, -, hne, -⟩ := hN.modules module' _ hk
      cases hj
      exact ⟨ok, hrest k ok hne hok, hp⟩

end WithModule

section WithFunction

variable (hN : Namespace namespaceName space r) (hm : r.data? space b.module = some (.object m))
  (ho : r.object? m = some o) (hp : o.Takes b.name)
  (hs : r'.object? m = some (o.written b.name f))
  (hrest : ∀ place, place ≠ m → r'.object? place = r.object? place)
include hN hm ho hp hs hrest

/-- A module is given a function. -/
theorem withFunction : Namespace namespaceName space r' := by
  obtain ⟨k, _, hk, ho', hms, hmg⟩ := hN.modules b.module _ hm
  cases hk
  cases ho.symm.trans ho'
  obtain ⟨root, hroot, hb⟩ := hN.rooted
  obtain ⟨os, hos, hps⟩ := hN.plain
  have hsame {place : Nat} (h : place ≠ m) (name : String) :
      r'.data? place name = r.data? place name := by
    rw [Realm.data?, Realm.data?, hrest place h]
  refine ⟨⟨root, (hrest _ (hN.ne_root ho hp.toIsOrdinary)).trans hroot, hb⟩,
    (hsame hmg.symm _).trans hN.bound, ⟨os, (hrest space hms.symm).trans hos, hps⟩,
    fun module' v hv => ?_, hN.apart⟩
  rw [hsame hms.symm] at hv
  obtain ⟨k, ok, rfl, hk, hne⟩ := hN.modules module' v hv
  by_cases hkm : k = m
  · subst hkm
    exact ⟨k, _, rfl, hs, hne⟩
  · exact ⟨k, ok, rfl, (hrest k hkm).trans hk, hne⟩

theorem offers_withFunction (hf : r.isFunction f = true) :
    Offers space r' b.module b.name m f ∧ r'.objectOf? f = r.objectOf? f := by
  obtain ⟨k, _, hk, -, hms, -⟩ := hN.modules b.module _ hm
  cases hk
  have hobj : r'.objectOf? f = r.objectOf? f :=
    objectOf?_of_ordinary hf ho hp.toIsOrdinary fun place o hne h => (hrest place hne).trans h
  refine ⟨⟨?_, ?_, (isFunction_of_objectOf? hobj).trans hf⟩, hobj⟩
  · rw [Realm.data?, hrest space hms.symm]
    exact hm
  · rw [Realm.data?, hs, Option.bind_some, hp.data?_written, if_pos rfl]

theorem carries_withFunction (hf : r.isFunction f = true) (hb : b.script ≠ none) :
    Carries space (some b) r r' := by
  obtain ⟨k, _, hk, -, hms, -⟩ := hN.modules b.module _ hm
  cases hk
  have hspace (module : String) : r'.data? space module = r.data? space module := by
    rw [Realm.data?, Realm.data?, hrest space hms.symm]
  have hobj {f' : Script.Value} (hf' : r.isFunction f' = true) : r'.objectOf? f' = r.objectOf? f' :=
    objectOf?_of_ordinary hf' ho hp.toIsOrdinary fun place o hne h => (hrest place hne).trans h
  have hsame {module name : String} {k : Nat} {f' : Script.Value}
      (hof : Offers space r module name k f') (hne : k = m → b.name ≠ name) :
      Offers space r' module name k f' := by
    refine ⟨(hspace module).trans hof.module, ?_,
      (isFunction_of_objectOf? (hobj hof.isFunction)).trans hof.isFunction⟩
    by_cases hkm : k = m
    · subst hkm
      rw [Realm.data?, hs, Option.bind_some, hp.data?_written, if_neg (hne rfl)]
      have := hof.function
      rwa [Realm.data?, ho] at this
    · rw [Realm.data?, hrest k hkm]
      exact hof.function
  refine ⟨fun {module name k f'} hof => ?_, fun {module name k f'} hsep hof hne => ?_,
    fun h _ => h.congr hspace fun module k ok hk hok hpk => ?_⟩
  · by_cases hk : k = m ∧ b.name = name
    · obtain ⟨rfl, rfl⟩ := hk
      have hnew := (hN.offers_withFunction hm ho hp hs hrest hf).1
      exact ⟨f, (hspace module).trans hof.module, hnew.function, hnew.isFunction⟩
    · exact ⟨f', hsame hof fun hkm hn => hk ⟨hkm, hn⟩⟩
  · refine ⟨hsame hof fun hkm hn => ?_, hobj hof.isFunction⟩
    subst hkm hn
    have hmod := hsep.distinct b.module module k ((hspace _).trans hm) ((hspace _).trans hof.module)
    exact hne b rfl hb (by rw [Binding.key, hmod])
  · by_cases hkm : k = m
    · subst hkm
      cases ho.symm.trans hok
      exact ⟨_, hs, hpk.written b.name f⟩
    · exact ⟨ok, (hrest k hkm).trans hok, hpk⟩

end WithFunction

end Namespace

/-! ### Installations -/

/-- The installation of a function does nothing but install it. -/
structure Installable (e : Evaluator) (namespaceName : String) (b : Binding) (r : Realm) : Prop where
  module : r.Uninherited b.module
  name : r.Uninherited b.name
  /-- The variable of the module's name is read without any effect. If the function comes without a
  script and that is an object, it is neither the namespace nor the object of the variables. -/
  global : ∃ v, pageVariable e b.module r = .ok v r ∧ (b.script = none → ∀ m, v = .object m →
    (∃ o, r.object? m = some o) ∧ m ≠ Base.globals.place ∧
      r.data? Base.globals.place namespaceName ≠ some (.object m))
  script : ∀ script, b.script = some script → ∀ m r₁, Host.module e namespaceName b r = .ok m r₁ →
    ∃ f r₂, e.run ("(" ++ script ++ "\n)") r₁ = .ok f r₂ ∧ r₁.Keeps r₂ ∧ r₂.isFunction f = true

/-- A module that is not plain, as it is an object that the page has, takes the function. -/
def Receives (namespaceName : String) (b : Binding) (r : Realm) : Prop :=
  b.script ≠ none → ∀ space m o, r.data? Base.globals.place namespaceName = some (.object space) →
    r.data? space b.module = some (.object m) → r.object? m = some o → ¬ o.IsPlain → o.Takes b.name

/-- Where all modules have been made for the namespace, they take every function. -/
theorem Separate.receives (h : Separate space r)
    (hb : r.data? Base.globals.place namespaceName = some (.object space)) (b : Binding) :
    Receives namespaceName b r := by
  intro _ space' m o hspace hm ho hp
  cases hb.symm.trans hspace
  obtain ⟨o', ho', hplain⟩ := h.plain b.module m hm
  cases ho.symm.trans ho'
  exact absurd hplain hp

/-- The function is what the script has evaluated to. -/
def Stems (e : Evaluator) (script : String) (f : Script.Value) (r : Realm) : Prop :=
  ∃ r₁ r₂, e.run ("(" ++ script ++ "\n)") r₁ = .ok f r₂ ∧ r.objectOf? f = r₂.objectOf? f

/-- The object that is made for a new module. -/
def newModule : Object := .ofProperties .plain (some Base.object.place) []

theorem isPlain_newModule : newModule.IsPlain := by
  refine ⟨⟨rfl, rfl, rfl, rfl⟩, fun name p hp => ?_⟩
  simp [newModule, Object.own?, Object.indexed?, Object.ofProperties, OrderedMap.get?,
    OrderedMap.lookup] at hp

/-- An object stands in the namespace for the module of a binding, and takes its function. -/
structure Prepared (namespaceName : String) (space : Nat) (b : Binding) (m : Nat) (r r₁ : Realm) :
    Prop where
  isNamespace : Namespace namespaceName space r₁
  module : r₁.data? space b.module = some (.object m)
  takes : b.script ≠ none → ∃ o, r₁.object? m = some o ∧ o.Takes b.name
  root : r₁.object? Base.object.place = r.object? Base.object.place
  extended : Extends space r r₁
  separate : Separate space r → b.script ≠ none → Separate space r₁

namespace Namespace

theorem prepared_of_found (hN : Namespace namespaceName space r)
    (ht : Receives namespaceName b r) (hm : r.data? space b.module = some (.object m)) :
    Prepared namespaceName space b m r r where
  isNamespace := hN
  module := hm
  takes := fun hs => by
    obtain ⟨k, o, hk, ho, -⟩ := hN.modules b.module _ hm
    cases hk
    by_cases hp : o.IsPlain
    · exact ⟨o, ho, hp.takes b.name⟩
    · exact ⟨o, ho, ht hs space m o hN.bound hm ho hp⟩
  root := rfl
  extended := .refl space r
  separate := fun h _ => h

/-- What is put into the namespace where there was no module. -/
theorem prepared_of_written (hN : Namespace namespaceName space r) (hk : r.Keeps r₁)
    (hi : Installable e namespaceName b r) (hnone : r.data? space b.module = none)
    (hm : ∃ o, r₁.object? m = some o ∧ (b.script ≠ none → o.IsPlain)) (hms : m ≠ space)
    (hmg : m ≠ Base.globals.place)
    (hnew : b.script ≠ none → ∀ module', r.data? space module' ≠ some (.object m)) :
    ∃ r', e.write (.object space) b.module (.object m) r₁ = .ok () r' ∧
      Prepared namespaceName space b m r r' := by
  obtain ⟨o, ho, hp⟩ := hN.plain
  have hN₁ := hN.keeps hk
  have hd (module : String) : r₁.data? space module = r.data? space module :=
    (hN.spares hk).data? module
  obtain ⟨om, hom, hplain⟩ := hm
  obtain ⟨r', hw, hs, hrest⟩ := Script.write_of_takes e hN₁.rooted
    (hk.uninherited hN.rooted hi.module) (hk _ o ho) (hp.takes b.module) (.object m)
  have hrest' : ∀ place o, place ≠ space → r₁.object? place = some o →
      r'.object? place = some o := fun place o hne h => (hrest place hne).trans h
  have hom' : r'.object? m = some om := hrest' m om hms hom
  refine ⟨r', hw, hN₁.withModule (hk _ o ho) hs hrest' ⟨om, hom'⟩ hms hmg, ?_, ?_, ?_, ?_, ?_⟩
  · rw [hN₁.data?_withModule (hk _ o ho) hs, if_pos rfl]
  · exact fun h => ⟨om, hom', (hplain h).takes b.name⟩
  · obtain ⟨root, hroot, -⟩ := hN.rooted
    rw [hrest _ (hN.ne_root ho hp.toIsOrdinary), hroot]
    exact hk _ root hroot
  · exact (hN.spares hk).extended.trans
      (hN₁.extends_withModule ((hd _).trans hnone) (hk _ o ho) hs hrest')
  · exact fun h hb => hN₁.separate_withModule (hk _ o ho) hs hrest'
      (fun module' hm => hnew hb module' ((hd module').symm.trans hm)) ⟨om, hom', hplain hb⟩
      ((hN.spares hk).separate_iff.2 h)

/-- The module of a function is found or made. -/
theorem module_eq (hN : Namespace namespaceName space r) (hi : Installable e namespaceName b r)
    (ht : Receives namespaceName b r) :
    ∃ m r₁, Host.module e namespaceName b r = .ok (.object m) r₁ ∧
      Prepared namespaceName space b m r r₁ := by
  have hspace : pageVariable e namespaceName r = .ok (.object space) r :=
    pageVariable_of_data hN.bound
  obtain ⟨o, ho, hp⟩ := hN.plain
  cases hd : r.data? space b.module with
  | some v =>
    obtain ⟨m, om, rfl, -⟩ := hN.modules b.module v hd
    refine ⟨m, r, ?_, hN.prepared_of_found ht hd⟩
    refine (bind_of_ok hspace).trans ?_
    exact bind_of_ok (Script.read_of_data e hd)
  | none =>
    obtain ⟨v, hv, halias⟩ := hi.global
    have hfound : e.read (.object space) b.module r = .ok .undefined r := by
      rw [Script.read_object, Realm.nearest?_of_ordinary hN.rooted hi.module ho hp.toIsOrdinary,
        (hp.takes b.module).own?_eq_none]
      rwa [Realm.data?, ho] at hd
    -- the module is the variable of its name, or a new object
    by_cases hcond : (v.isObject && b.script.isNone) = true
    · obtain ⟨hobj, hs⟩ := Bool.and_eq_true_iff.1 hcond
      have hs := Option.isNone_iff_eq_none.1 hs
      cases v with
      | object m =>
        obtain ⟨⟨om, hom⟩, hmg, hms⟩ := halias hs m rfl
        obtain ⟨r', hw, hprep⟩ := hN.prepared_of_written (.refl r) hi hd
          ⟨om, hom, absurd hs⟩ (fun h => hms (h ▸ hN.bound)) hmg (absurd hs)
        refine ⟨m, r', ?_, hprep⟩
        refine (bind_of_ok hspace).trans ((bind_of_ok hfound).trans ((bind_of_ok hv).trans ?_))
        rw [if_pos hcond]
        exact (bind_of_ok rfl).trans (bind_of_ok hw)
      | _ => cases hobj
    · have hmade :
          Evaluation.makeObject [] r = .ok (.object r.objects.size) (r.add newModule).2 := rfl
      have hnone : r.object? r.objects.size = none := by simp [Realm.object?]
      have hne {place : Nat} {o : Object} (h : r.object? place = some o) :
          r.objects.size ≠ place := by
        rintro rfl
        cases hnone.symm.trans h
      obtain ⟨globals, hglobals, -⟩ := Option.bind_eq_some_iff.1 hN.bound
      obtain ⟨r', hw, hprep⟩ := hN.prepared_of_written (r.keeps_add newModule) hi hd
        ⟨newModule, by rw [Realm.object?_add, if_pos rfl], fun _ => isPlain_newModule⟩ (hne ho)
        (hne hglobals) fun _ module' hm => by
          obtain ⟨k, om, hk, hom, -⟩ := hN.modules module' _ hm
          cases hk
          exact hne hom rfl
      refine ⟨r.objects.size, r', ?_, hprep⟩
      refine (bind_of_ok hspace).trans ((bind_of_ok hfound).trans ((bind_of_ok hv).trans ?_))
      rw [if_neg hcond]
      exact (bind_of_ok hmade).trans (bind_of_ok hw)

/-- The installation of a function succeeds. Nothing else that is in the namespace goes. -/
theorem installing_eq (hN : Namespace namespaceName space r)
    (hi : Installable e namespaceName b r) (ht : Receives namespaceName b r) :
    ∃ r', installing e namespaceName b r = .ok () r' ∧ Namespace namespaceName space r' ∧
      Carries space (some b) r r' ∧ ∀ script, b.script = some script →
        ∃ m f, Offers space r' b.module b.name m f ∧ Stems e script f r' := by
  obtain ⟨m, r₁, hm, h₁⟩ := hN.module_eq hi ht
  unfold installing
  cases hs : b.script with
  | none =>
    exact ⟨r₁, (bind_of_ok hm).trans rfl, h₁.isNamespace,
      h₁.extended.carries fun h hb => h₁.separate h (hb b rfl), nofun⟩
  | some script =>
    have hb : b.script ≠ none := by simp [hs]
    obtain ⟨f, r₂, hrun, hk, hf⟩ := hi.script script hs _ r₁ hm
    have hN₂ := h₁.isNamespace.keeps hk
    have hspares := h₁.isNamespace.spares hk
    obtain ⟨o, ho, hp⟩ := h₁.takes hb
    have hm₂ : r₂.data? space b.module = some (.object m) := hk.data? h₁.module
    have hname : r₂.Uninherited b.name :=
      hk.uninherited h₁.isNamespace.rooted fun root hr => hi.name root (h₁.root ▸ hr)
    obtain ⟨r₃, hw, hobj, hrest⟩ := Script.write_of_takes e hN₂.rooted hname (hk _ o ho) hp f
    have hc := hN₂.carries_withFunction hm₂ (hk _ o ho) hp hobj hrest hf hb
    obtain ⟨hof, hobjf⟩ := hN₂.offers_withFunction hm₂ (hk _ o ho) hp hobj hrest hf
    have he₂ : Extends space r r₂ := h₁.extended.trans hspares.extended
    refine ⟨r₃, ?_, hN₂.withFunction hm₂ (hk _ o ho) hp hobj hrest, ?_, ?_⟩
    · exact (bind_of_ok hm).trans ((bind_of_ok hrun).trans hw)
    · refine ⟨fun hof => hc.present (he₂.offers hof), fun hsep hof hne => ?_, fun h hb' => ?_⟩
      · obtain ⟨hof', hobj'⟩ := hc.functions hsep (he₂.offers hof) hne
        exact ⟨hof', hobj'.trans (he₂.functions hof).2⟩
      · exact hc.separate (hspares.separate_iff.2 (h₁.separate h hb)) hb'
    · rintro _ ⟨rfl⟩
      exact ⟨m, f, hof, r₁, r₂, hrun, hobjf⟩

end Namespace

/-- A host installs a function on a page with a namespace. -/
theorem register_of_namespace {h : Host} (hns : h.config.namespaceName = namespaceName)
    (hp : h.page = some r) (hN : Namespace namespaceName space r)
    (hi : Installable h.platform.engine namespaceName b r) (ht : Receives namespaceName b r) :
    ∃ r', (left (register b h)).page = some r' ∧ Namespace namespaceName space r' ∧
      Carries space (some b) r r' ∧ ∀ script, b.script = some script →
        ∃ m f, Offers space r' b.module b.name m f ∧ Stems h.platform.engine script f r' := by
  obtain ⟨r', hr, hN', hc, hs⟩ := hN.installing_eq hi ht
  -- the lines that were printed go to the host, and all objects stay
  have hspares : Spares namespaceName space r' { r' with printed := #[] } :=
    hN'.spares fun _ _ h => h
  refine ⟨{ r' with printed := #[] }, ?_, hspares.namespace_of hN', hspares.carries_of hc,
    fun script hscript => ?_⟩
  · rw [register_eq, hns, evaluating_of_ok (m := (installing · namespaceName b)) hp hr]
    rfl
  · obtain ⟨m, f, ho, r₁, r₂, hrun, hobj⟩ := hs script hscript
    exact ⟨m, f, ⟨ho.module, ho.function, ho.isFunction⟩, r₁, r₂, hrun, hobj⟩

end ScriptProxy.Host
