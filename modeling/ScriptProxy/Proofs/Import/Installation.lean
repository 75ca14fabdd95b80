import ScriptProxy.Import.Rewrite
import ScriptProxy.Proofs.ClassFile.Codec
import ScriptProxy.Proofs.Import.Findings
import ScriptProxy.Proofs.Import.ProxyBody

/-!
# How proxies are put into a class

A rewrite finds the methods that are bound and makes the bodies for all of them. Only then it goes through
them, and tells its registrar of each before it puts in the body. `install_mapM` says how far it gets, and
`patches_of_putAll` what has become of the methods of the class by then.
-/

namespace ScriptProxy.Import

open ClassFile Outcome

/-! ### What becomes of methods -/

/-- `m'` is the method `m` of a class with the pool `old` with a proxy as its body, in a class with the
pool `new`. -/
structure Replaced (config : Config) (key : MethodKey) (b : Binding) (old new : Pool)
    (m m' : Member) : Prop where
  /-- All flags but the one of native methods are kept. -/
  access : m'.access.bits = m.access.bits &&& 0xFEFF
  name : m'.name = m.name
  descriptor : m'.descriptor = m.descriptor
  attributes : ∃ a, m'.attributes = a :: m.attributes.filter fun a => !a.isNamed new "Code"
  /-- The body is the one that is made for the binding when the pool has grown so far. -/
  code : ∃ code before after, m'.code new = .ok (some code) ∧ old.Extends before ∧
    Proxy.body config key b m.access.isStatic before = .ok code after ∧ after.Extends new

/-- What becomes of a method. -/
def Patches (config : Config) (registry : Registry) (old new : Pool) (m m' : Member) : Prop :=
  ∃ name descriptor, old.text m.name = .ok name ∧ old.text m.descriptor = .ok descriptor ∧
    match registry.get? ⟨name, descriptor⟩ with
    | none => m' = m
    | some b => Replaced config ⟨name, descriptor⟩ b old new m m'

/-! ### Methods that are bound -/

/-- The binding of a method in a registry. -/
def boundMethod? (c : ClassFile) (registry : Registry) (m : Member) : Option Patched :=
  (keyOf? c m).bind fun key => (registry.get? key).map (⟨key, ·⟩)

/-- The methods of a class that a registry binds, in order. -/
def boundMethods (c : ClassFile) (registry : Registry) : List Patched :=
  c.methods.filterMap (boundMethod? c registry)

theorem boundMethod?_eq {c : ClassFile} {registry : Registry} {m : Member} {name descriptor : String}
    (hn : c.pool.text m.name = .ok name) (hd : c.pool.text m.descriptor = .ok descriptor) :
    boundMethod? c registry m =
      (registry.get? ⟨name, descriptor⟩).map (⟨⟨name, descriptor⟩, ·⟩) := by
  have hkey : keyOf? c m = some ⟨name, descriptor⟩ := keyOf?_eq_some.2 ⟨hn, hd⟩
  rw [boundMethod?, hkey, Option.bind_some]

/-- A method that is bound gets the proxy for its binding. -/
theorem Patches.replaced {config : Config} {registry : Registry} {c : ClassFile} {new : Pool}
    {m m' : Member} {x : Patched} (h : Patches config registry c.pool new m m')
    (hx : boundMethod? c registry m = some x) : Replaced config x.method x.binding c.pool new m m' := by
  obtain ⟨name, descriptor, hn, hd, h⟩ := h
  rw [boundMethod?_eq hn hd] at hx
  obtain ⟨b, hb, rfl⟩ := Option.map_eq_some_iff.1 hx
  rwa [hb] at h

/-- The site of a method, if a registry binds it. -/
def siteOf? (c : ClassFile) (registry : Registry) (m : Member × Nat) : Except Failure (Option Site) := do
  let name ← c.methodName m.1
  let method : MethodKey := ⟨name, ← c.methodDescriptor m.1⟩
  return (registry.get? method).map fun binding => ⟨m.2, method, binding, m.1.access.isStatic⟩

theorem siteOf?_eq_ok {c : ClassFile} {registry : Registry} {m : Member} {i : Nat} {o : Option Site} :
    siteOf? c registry (m, i) = .ok o ↔ ∃ name descriptor, c.pool.text m.name = .ok name ∧
      c.pool.text m.descriptor = .ok descriptor ∧
      o = (registry.get? ⟨name, descriptor⟩).map fun b =>
        ⟨i, ⟨name, descriptor⟩, b, m.access.isStatic⟩ := by
  constructor
  · intro h
    obtain ⟨name, hn, h⟩ := bind_eq_ok.1 h
    obtain ⟨descriptor, hd, h⟩ := bind_eq_ok.1 h
    cases h
    exact ⟨name, descriptor, hn, hd, rfl⟩
  · rintro ⟨name, descriptor, hn, hd, rfl⟩
    exact bind_eq_ok.2 ⟨name, hn, bind_eq_ok.2 ⟨descriptor, hd, rfl⟩⟩

theorem filterMapM_cons_eq_ok {ε α β : Type} {f : α → Except ε (Option β)} {a : α} {l : List α}
    {bs : List β} (h : (a :: l).filterMapM f = .ok bs) :
    ∃ o more, f a = .ok o ∧ l.filterMapM f = .ok more ∧ bs = o.toList ++ more := by
  rw [List.filterMapM_cons] at h
  obtain ⟨o, ho, h⟩ := bind_eq_ok.1 h
  cases o with
  | none => exact ⟨none, bs, ho, h, rfl⟩
  | some b =>
    obtain ⟨more, hm, h⟩ := bind_eq_ok.1 h
    cases h
    exact ⟨some b, more, ho, hm, rfl⟩

theorem exists_of_mem_forall₂ {α β : Type} {R : α → β → Prop} {as : List α} {bs : List β} {b : β}
    (h : List.Forall₂ R as bs) (hb : b ∈ bs) : ∃ a ∈ as, R a b := by
  induction h with
  | nil => cases hb
  | cons hab _ ih =>
    rcases List.mem_cons.1 hb with rfl | hb
    · exact ⟨_, by simp, hab⟩
    · obtain ⟨a, ha, hR⟩ := ih hb
      exact ⟨a, by simp [ha], hR⟩

/-! ### Bodies -/

/-- The body of a site is made at some time between two states of the pool. -/
def MadeBetween (config : Config) (p q : Pool) (s : Site) (code : Code) : Prop :=
  ∃ before after, p.Extends before ∧
    Proxy.body config s.method s.binding s.isStatic before = .ok code after ∧ after.Extends q

theorem made_of_mapM {config : Config} {ss : List Site} {prepared : List (Site × Code)} {p q : Pool}
    (hp : p.WellFormed)
    (h : (ss.mapM fun s => return (s, ← Proxy.body config s.method s.binding s.isStatic) :
      Pool.Edit (List (Site × Code))) p = .ok prepared q) :
    q.WellFormed ∧ p.Extends q ∧
      List.Forall₂ (fun s sc => sc.1 = s ∧ MadeBetween config p q s sc.2) ss prepared := by
  induction ss generalizing p prepared with
  | nil =>
    cases h
    exact ⟨hp, .refl _, .nil⟩
  | cons s ss ih =>
    rw [List.mapM_cons] at h
    obtain ⟨sc, p₁, hs, h⟩ := step_bind_eq_ok.1 h
    obtain ⟨more, p₂, hm, h⟩ := step_bind_eq_ok.1 h
    obtain ⟨code, p₃, hbody, hs⟩ := step_bind_eq_ok.1 hs
    cases hs
    cases h
    obtain ⟨hp₁, hgrown, -⟩ := Proxy.body_eq_ok hp hbody
    obtain ⟨hq, hgrown', hall⟩ := ih hp₁ hm
    refine ⟨hq, hgrown.trans hgrown', .cons ⟨rfl, _, _, .refl _, hbody, hgrown'⟩ ?_⟩
    refine hall.imp fun s sc ⟨hs, before, after, hb, hcode, ha⟩ => ⟨hs, before, after, ?_, hcode, ha⟩
    exact hgrown.trans hb

theorem prepare_eq_ok {config : Config} {ss : List Site} {prepared : List (Site × Code)}
    {codeName : UInt16} {p q : Pool} (hp : p.WellFormed)
    (h : prepare config ss p = .ok (prepared, codeName) q) :
    q.WellFormed ∧ p.Extends q ∧ q.text codeName = .ok "Code" ∧
      List.Forall₂ (fun s sc => sc.1 = s ∧ MadeBetween config p q s sc.2) ss prepared := by
  obtain ⟨prepared, p₁, hm, h⟩ := step_bind_eq_ok.1 h
  obtain ⟨codeName, p₂, hname, h⟩ := step_bind_eq_ok.1 h
  cases h
  obtain ⟨hp₁, hgrown, hall⟩ := made_of_mapM hp hm
  have hg := Pool.grows_addText hp₁ Code.attributeName
  rw [hname] at hg
  refine ⟨hg.wellFormed, hgrown.trans hg.extends_left, hg.found _ _ rfl, ?_⟩
  refine hall.imp fun s sc ⟨hs, before, after, hb, hcode, ha⟩ => ⟨hs, before, after, hb, hcode, ?_⟩
  exact ha.trans hg.extends_left

/-- A body of a proxy can be written, and be the body of an attribute. -/
theorem Proxy.exists_toBytes_of_body {config : Config} {key : MethodKey} {b : Binding}
    {isStatic : Bool} {p q : Pool} {code : Code}
    (h : Proxy.body config key b isStatic p = .ok code q) :
    ∃ bytes, code.toBytes = .ok bytes ∧ bytes.length < UInt32.size := by
  unfold Proxy.body at h
  cases ht : MethodType.ofDescriptor key.descriptor with
  | error d =>
    rw [ht] at h
    cases h
  | ok t =>
  rw [ht] at h
  dsimp only at h
  split at h
  · cases h
  split at h
  · cases h
  split at h
  · next code' hfinish =>
    cases h
    unfold Bytecode.Emitter.finish at hfinish
    split at hfinish
    · cases hfinish
    next hsize =>
    cases hfinish
    rw [not_or, Nat.not_lt] at hsize
    refine ⟨_, Code.toBytes_eq_ok.2 ⟨⟨fun hnil => hsize.1 (by simpa using hnil),
      by simpa using hsize.2⟩, _, _, rfl, rfl, rfl⟩, ?_⟩
    have hle := hsize.2
    simp [Written.word16, BigEndian.length_digits, UInt32.size]
    omega
  · cases h

/-- The method that a body is for, with its binding. -/
def patchedOf (sc : Site × Code) : Patched := ⟨sc.1.method, sc.1.binding⟩

/-! ### The registrar -/

section
variable {σ : Type}

/-- Tells a registrar of bindings, one after the other, up to the first one that it refuses. -/
def tellAll (register : Registrar σ) : List Binding → EStateM Failure σ Unit
  | [] => pure ()
  | b :: bs => do
    register b
    tellAll register bs

theorem tellAll_cons (register : Registrar σ) (b : Binding) (bs : List Binding) (s : σ) :
    tellAll register (b :: bs) s =
      match register b s with
      | .ok _ s => tellAll register bs s
      | .error f s => .error f s := by
  show EStateM.bind (register b) _ s = _
  unfold EStateM.bind
  cases register b s <;> rfl

theorem tellAll_append (register : Registrar σ) (bs bs' : List Binding) (s : σ) :
    tellAll register (bs ++ bs') s =
      match tellAll register bs s with
      | .ok _ s => tellAll register bs' s
      | .error f s => .error f s := by
  induction bs generalizing s with
  | nil => rfl
  | cons b bs ih =>
    rw [List.cons_append, tellAll_cons, tellAll_cons]
    cases register b s with
    | ok _ s => exact ih s
    | error f s => rfl

/-! ### Putting bodies in -/

theorem install_eq (register : Registrar σ) (codeName : UInt16) (s : Site) {code : Code} {body : Bytes}
    (h : code.toBytes = .ok body) (c : ClassFile) (t : σ) :
    install register codeName s code ⟨c, t⟩ =
      match register s.binding t with
      | .ok _ t => .ok ⟨s.method, s.binding⟩
        ⟨{ c with methods := c.methods.modify s.index (withBody c.pool codeName body) }, t⟩
      | .error f t => .error f ⟨c, t⟩ := by
  show EStateM.bind (tell register s.binding) _ _ = _
  unfold EStateM.bind tell
  cases register s.binding t with
  | ok _ t =>
    dsimp only
    rw [h]
    rfl
  | error f t => rfl

/-- Puts a body into its method. -/
def put (codeName : UInt16) (c : ClassFile) (sc : Site × Code) : ClassFile :=
  sc.2.toBytes.toOption.elim c fun body =>
    { c with methods := c.methods.modify sc.1.index (withBody c.pool codeName body) }

theorem put_eq {sc : Site × Code} {body : Bytes} (codeName : UInt16) (c : ClassFile)
    (h : sc.2.toBytes = .ok body) : put codeName c sc =
      { c with methods := c.methods.modify sc.1.index (withBody c.pool codeName body) } := by
  rw [put, h]
  rfl

def putAll (codeName : UInt16) (c : ClassFile) (bodies : List (Site × Code)) : ClassFile :=
  bodies.foldl (put codeName) c

theorem pool_putAll (codeName : UInt16) (c : ClassFile) (bodies : List (Site × Code)) :
    (putAll codeName c bodies).pool = c.pool := by
  induction bodies generalizing c with
  | nil => rfl
  | cons sc bodies ih =>
    have hput : (put codeName c sc).pool = c.pool := by
      unfold put
      cases sc.2.toBytes <;> rfl
    exact (ih (put codeName c sc)).trans hput

/-- The bodies are put in one by one, up to one that the registrar refuses. -/
theorem install_mapM (register : Registrar σ) (codeName : UInt16) {prepared : List (Site × Code)}
    (h : ∀ sc ∈ prepared, ∃ body, sc.2.toBytes = .ok body) (c : ClassFile) (t : σ) :
    let installed := (prepared.mapM fun (s, code) => install register codeName s code :
      EStateM Failure (Rewriting σ) (List Patched)) ⟨c, t⟩
    (∃ t', tellAll register ((prepared.map patchedOf).map (·.binding)) t = .ok () t' ∧
      installed = .ok (prepared.map patchedOf) ⟨putAll codeName c prepared, t'⟩) ∨
    ∃ front sc back t₁ f t', prepared = front ++ sc :: back ∧
      tellAll register ((front.map patchedOf).map (·.binding)) t = .ok () t₁ ∧
      register (patchedOf sc).binding t₁ = .error f t' ∧
      installed = .error f ⟨putAll codeName c front, t'⟩ := by
  induction prepared generalizing c t with
  | nil => exact .inl ⟨t, rfl, rfl⟩
  | cons sc prepared ih =>
    obtain ⟨body, hbody⟩ := h sc List.mem_cons_self
    have hput := put_eq codeName c hbody
    have hinstall := install_eq register codeName sc.1 hbody c t
    have htell (front : List (Site × Code)) :
        tellAll register (((sc :: front).map patchedOf).map (·.binding)) t =
          match register sc.1.binding t with
          | .ok _ t => tellAll register ((front.map patchedOf).map (·.binding)) t
          | .error f t => .error f t := tellAll_cons ..
    rw [List.mapM_cons]
    dsimp only
    cases hb : register sc.1.binding t with
    | error f t' =>
      rw [hb] at hinstall
      exact .inr ⟨[], sc, prepared, t, f, t', rfl, rfl, hb, step_bind_eq_error.2 (.inl hinstall)⟩
    | ok _ t₁ =>
      rw [hb] at hinstall
      simp only [hb] at htell
      dsimp only at hinstall
      rw [← hput] at hinstall
      rw [bind_of_ok hinstall]
      rcases ih (fun sc hsc => h sc (List.mem_cons_of_mem _ hsc)) (put codeName c sc) t₁ with
        ⟨t', htold, hrest⟩ | ⟨front, sc', back, t₂, f, t', rfl, htold, hrefused, hrest⟩
      · exact .inl ⟨t', (htell _).trans htold, step_bind_eq_ok.2 ⟨_, _, hrest, rfl⟩⟩
      · exact .inr ⟨sc :: front, sc', back, t₂, f, t', rfl, (htell _).trans htold, hrefused,
          step_bind_eq_error.2 (.inl hrest)⟩

/-! ### The methods by then -/

section
variable {codeName : UInt16}

theorem modify_length_append {α : Type} (done : List α) (m : α) (ms : List α) (f : α → α) :
    (done ++ m :: ms).modify done.length f = done ++ f m :: ms := by
  induction done with
  | nil => rfl
  | cons a done ih => simpa using ih

/-- A method that gets a body is replaced as it should be. -/
theorem replaced_withBody {config : Config} {key : MethodKey} {b : Binding} {old new : Pool}
    {m : Member} {code : Code} {body : Bytes} {i : Nat} (hname : new.text codeName = .ok "Code")
    (hbody : code.toBytes = .ok body)
    (hmade : MadeBetween config old new ⟨i, key, b, m.access.isStatic⟩ code) :
    Replaced config key b old new m (withBody new codeName body m) := by
  obtain ⟨before, after, hb, hcode, ha⟩ := hmade
  refine ⟨rfl, rfl, rfl, ⟨_, rfl⟩, code, before, after, ?_, hb, hcode, ha⟩
  have hnamed : Attribute.isNamed new "Code" ⟨codeName, body⟩ = true := by
    simp [Attribute.isNamed, hname]
  have hfirst : (withBody new codeName body m).attribute? new Code.attributeName =
      some ⟨codeName, body⟩ := List.find?_cons_of_pos hnamed
  rw [Member.code, hfirst]
  have hread := Code.ofBytes_of_toBytes hbody []
  rw [List.append_nil] at hread
  exact map_eq_ok.2 ⟨code, hread, rfl⟩

/-- The methods begin with the one that the first of the bodies is for. Without bodies there are none. -/
def Awaits (c : ClassFile) (registry : Registry) (ms : List Member) : List (Site × Code) → Prop
  | [] => ms = []
  | sc :: _ => ∃ m rest, ms = m :: rest ∧ boundMethod? c registry m = some (patchedOf sc)

/-- Bodies are put in as their sites stand among the methods: the methods in `done` are behind them, and
those in `ms` are replaced or left alone one after the other, up to the method of the first body that is
not put in. -/
theorem patches_of_putAll {config : Config} {registry : Registry} {c d : ClassFile} {ms : List Member}
    (done : List Member) {ss : List Site} {front back : List (Site × Code)}
    (hname : d.pool.text codeName = .ok "Code")
    (hsites : (ms.zipIdx done.length).filterMapM (siteOf? c registry) = .ok ss)
    (hmade : List.Forall₂ (fun s sc => sc.1 = s ∧ MadeBetween config c.pool d.pool s sc.2) ss
      (front ++ back))
    (hwritten : ∀ sc ∈ front, ∃ body, sc.2.toBytes = .ok body)
    (hms : d.methods = done ++ ms) :
    ∃ ms₁ ms₂ ms₁', ms = ms₁ ++ ms₂ ∧
      putAll codeName d front = { d with methods := done ++ (ms₁' ++ ms₂) } ∧
      List.Forall₂ (Patches config registry c.pool d.pool) ms₁ ms₁' ∧
      ms₁.filterMap (boundMethod? c registry) = front.map patchedOf ∧
      Awaits c registry ms₂ back := by
  -- indices count from the first method, so what is done must be kept in front
  induction ms generalizing done ss front d with
  | nil =>
    cases hsites
    obtain ⟨rfl, rfl⟩ := List.append_eq_nil_iff.1 (List.forall₂_nil_left_iff.1 hmade)
    have hnone : putAll codeName d [] = { d with methods := done ++ [] } := by
      rw [← hms]
      rfl
    exact ⟨[], [], [], rfl, hnone, .nil, rfl, rfl⟩
  | cons m ms ih =>
    rw [List.zipIdx_cons] at hsites
    obtain ⟨o, more, ho, hmore, rfl⟩ := filterMapM_cons_eq_ok hsites
    obtain ⟨name, descriptor, hn, hd, rfl⟩ := siteOf?_eq_ok.1 ho
    have hbound : boundMethod? c registry m = _ := boundMethod?_eq hn hd
    cases hb : registry.get? ⟨name, descriptor⟩ with
    | none =>
      -- the method is not a site, and the next body is for a later one
      rw [hb] at hmade hbound
      obtain ⟨ms₁, ms₂, ms₁', rfl, hput, hall, hfront, hback⟩ :=
        ih (done ++ [m]) hname (by simpa using hmore) hmade hwritten (by simpa using hms)
      refine ⟨m :: ms₁, ms₂, m :: ms₁', rfl, by simpa using hput, .cons ⟨name, descriptor, hn, hd, ?_⟩ hall,
        ?_, hback⟩
      · rw [hb]
      · rw [List.filterMap_cons, hbound, ← hfront]
        rfl
    | some b =>
      rw [hb] at hmade hbound
      obtain ⟨sc, rest, ⟨hs, hbetween⟩, hrest, hsplit⟩ := List.forall₂_cons_left_iff.1 hmade
      have hpatched : boundMethod? c registry m = some (patchedOf sc) := by
        rw [hbound, patchedOf, hs]
        rfl
      cases front with
      | nil =>
        rw [List.nil_append] at hsplit
        subst hsplit
        have hnone : putAll codeName d [] = { d with methods := done ++ m :: ms } := by
          rw [← hms]
          rfl
        exact ⟨[], m :: ms, [], rfl, hnone, .nil, rfl, m, ms, rfl, hpatched⟩
      | cons sc' front =>
        obtain ⟨rfl, rfl⟩ := List.cons.inj hsplit
        obtain ⟨body, hbody⟩ := hwritten sc' List.mem_cons_self
        have hput : put codeName d sc' =
            { d with methods := done ++ withBody d.pool codeName body m :: ms } := by
          rw [put_eq codeName d hbody, hs]
          dsimp only
          rw [hms, modify_length_append]
        obtain ⟨ms₁, ms₂, ms₁', rfl, hputs, hall, hfront, hback⟩ :=
          ih (d := put codeName d sc') (done ++ [withBody d.pool codeName body m])
            (by rw [hput]; exact hname) (by simpa using hmore) (by rw [hput]; exact hrest)
            (fun sc hsc => hwritten sc (List.mem_cons_of_mem _ hsc)) (by rw [hput]; simp)
        have hpool : (put codeName d sc').pool = d.pool := by rw [hput]
        rw [hpool] at hall
        refine ⟨m :: ms₁, ms₂, withBody d.pool codeName body m :: ms₁', rfl, ?_,
          .cons ⟨name, descriptor, hn, hd, ?_⟩ hall, ?_, hback⟩
        · rw [putAll, List.foldl_cons]
          refine hputs.trans ?_
          rw [hput]
          simp
        · rw [hb]
          exact replaced_withBody hname hbody hbetween
        · rw [List.filterMap_cons, hpatched, List.map_cons, hfront]

end

end

/-! ### Whole classes -/

/-- What there is to be put into a class, where the names can be read and there are proxies for all methods
that are bound: the sites with their bodies, and the index of the name of the attribute. -/
def staged (config : Config) (registry : Registry) (c : ClassFile) :
    EStateM.Result Failure Pool (List (Site × Code) × UInt16) :=
  match sites c registry with
  | .error f => .error f c.pool
  | .ok ss => prepare config ss c.pool

section
variable {σ : Type} {config : Config} {registry : Registry} {c : ClassFile} {pool : Pool}
  {prepared : List (Site × Code)} {codeName : UInt16}

theorem rewrite_of_staged (register : Registrar σ) (t : σ) :
    rewrite config register registry ⟨c, t⟩ =
      match staged config registry c with
      | .error f pool => .error f ⟨{ c with pool }, t⟩
      | .ok (prepared, codeName) pool =>
        (prepared.mapM fun (s, code) => install register codeName s code :
          EStateM Failure (Rewriting σ) (List Patched)) ⟨{ c with pool }, t⟩ := by
  rw [rewrite, staged]
  cases sites c registry with
  | error f => rfl
  | ok ss => cases hprepare : prepare config ss c.pool <;> simp only [hprepare]

theorem staged_eq_ok (hp : c.pool.WellFormed)
    (h : staged config registry c = .ok (prepared, codeName) pool) :
    pool.WellFormed ∧ c.pool.Extends pool ∧ pool.text codeName = .ok "Code" ∧
      ∃ ss, sites c registry = .ok ss ∧
        List.Forall₂ (fun s sc => sc.1 = s ∧ MadeBetween config c.pool pool s sc.2) ss prepared := by
  unfold staged at h
  cases hsites : sites c registry with
  | error f =>
    rw [hsites] at h
    cases h
  | ok ss =>
    rw [hsites] at h
    obtain ⟨hpool, hgrown, hname, hmade⟩ := prepare_eq_ok hp h
    exact ⟨hpool, hgrown, hname, ss, rfl, hmade⟩

theorem written_of_staged (hp : c.pool.WellFormed)
    (h : staged config registry c = .ok (prepared, codeName) pool) :
    ∀ sc ∈ prepared, ∃ body, sc.2.toBytes = .ok body := by
  intro sc hsc
  obtain ⟨-, -, -, ss, -, hmade⟩ := staged_eq_ok hp h
  obtain ⟨s, -, -, before, after, -, hbody, -⟩ := exists_of_mem_forall₂ hmade hsc
  obtain ⟨body, hbody, -⟩ := Proxy.exists_toBytes_of_body hbody
  exact ⟨body, hbody⟩

/-- What a class is when some of the bodies are put in, from the first one on. -/
theorem putAll_of_staged (hp : c.pool.WellFormed) {front back : List (Site × Code)}
    (h : staged config registry c = .ok (front ++ back, codeName) pool) :
    ∃ ms₁ ms₂ ms₁', c.methods = ms₁ ++ ms₂ ∧
      putAll codeName { c with pool } front = { c with pool, methods := ms₁' ++ ms₂ } ∧
      List.Forall₂ (Patches config registry c.pool pool) ms₁ ms₁' ∧
      ms₁.filterMap (boundMethod? c registry) = front.map patchedOf ∧ Awaits c registry ms₂ back := by
  obtain ⟨-, -, hname, ss, hsites, hmade⟩ := staged_eq_ok hp h
  exact patches_of_putAll (d := { c with pool }) [] hname hsites hmade
    (fun sc hsc => written_of_staged hp h sc (List.mem_append_left _ hsc)) rfl

/-- The bodies are for all methods that are bound. -/
theorem patched_of_staged (hp : c.pool.WellFormed)
    (h : staged config registry c = .ok (prepared, codeName) pool) :
    prepared.map patchedOf = boundMethods c registry := by
  rw [← List.append_nil prepared] at h
  obtain ⟨ms₁, ms₂, -, hsplit, -, -, hfront, rfl⟩ := putAll_of_staged hp h
  rw [boundMethods, hsplit, List.append_nil, hfront]

end

end ScriptProxy.Import
