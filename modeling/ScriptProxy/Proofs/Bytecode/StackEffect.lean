import ScriptProxy.Proofs.Bytecode.Machine

/-!
# What instructions do to the depth of the stack

`Action.effect?` tells how many slots of the operand stack an action takes and how many it puts there,
and `stackDepths?` follows the depth through the instructions of a code array. A machine whose stack
is followed so has as many slots in use as is told: `slotsIn_performAll`.
-/

namespace ScriptProxy.Bytecode

open ClassFile Outcome

/-- The number of slots that are taken off the stack, and the number of those put on it then. -/
structure Effect where
  pops : Nat
  pushes : Nat
  deriving DecidableEq, Repr

/-- What an action does to the depth of the stack. A call takes its arguments and its receiver, if its
descriptor can be read. -/
def Action.effect? : Action → Option Effect
  | null | int _ | text _ => some ⟨0, 1⟩
  | load c _ => some ⟨0, c.slots⟩
  | store => some ⟨3, 0⟩
  | duplicate => some ⟨1, 2⟩
  | drop n => some ⟨n, 0⟩
  | cut _ | newArray _ | cast _ => some ⟨1, 1⟩
  | call onReceiver m =>
    (MethodType.ofDescriptor m.descriptor).toOption.map fun t =>
      ⟨t.parameterSlots + (if onReceiver then 1 else 0), t.result.slots⟩
  | giveBack none => some ⟨0, 0⟩
  | giveBack (some c) => some ⟨c.slots, 0⟩

theorem Action.pushes_le {a : Action} {x : Effect} (h : a.effect? = some x) : x.pushes ≤ 2 := by
  cases a with
  | load c slot =>
    cases h
    cases c <;> decide
  | call onReceiver m =>
    obtain ⟨t, -, rfl⟩ := toOption_map_eq_some.1 h
    exact t.result.slots_le
  | drop n =>
    cases h
    exact Nat.zero_le 2
  | giveBack c =>
    cases c <;> cases h <;> exact Nat.zero_le 2
  | _ =>
    cases h
    decide

/-- The actions have these effects, one by one. -/
abbrev HaveEffects (as : List Action) (xs : List Effect) : Prop :=
  List.Forall₂ (fun a x => a.effect? = some x) as xs

/-! ### Following the depth -/

/-- The depth at first and behind each of the effects, if there is always as much as is taken. -/
def depths? : Nat → List Effect → Option (List Nat)
  | d, [] => some [d]
  | d, x :: xs => if x.pops ≤ d then (depths? (d - x.pops + x.pushes) xs).map (d :: ·) else none

/-- The depths of the stack at first and behind each instruction of a code array, whose constants are
looked up in a pool. -/
def stackDepths? (p : Pool) (code : Bytes) : Option (List Nat) := do
  let is ← (decode code).toOption
  depths? 0 (← is.mapM fun i => (Unplaced.action? p ⟨i.opcode, i.operands⟩).bind Action.effect?)

/-- Taken instruction by instruction, the code never takes more slots off the stack than there are,
leaves `depth` of them, and has `height` of them in use at most. -/
def Replays (p : Pool) (code : Bytes) (depth height : Nat) : Prop :=
  ∃ ds, stackDepths? p code = some ds ∧ ds.getLast? = some depth ∧ ds.max? = some height

section
variable {d d' : Nat} {x : Effect} {xs ys : List Effect} {ds es : List Nat}

theorem depths?_cons : depths? d (x :: xs) = some ds ↔
    x.pops ≤ d ∧ ∃ es, depths? (d - x.pops + x.pushes) xs = some es ∧ d :: es = ds := by
  rw [depths?]
  split
  · next h => simp [h]
  · next h => simp [h]

theorem exists_cons_of_depths? (h : depths? d xs = some ds) : ∃ es, ds = d :: es := by
  cases xs with
  | nil =>
    cases h
    exact ⟨[], rfl⟩
  | cons x xs =>
    obtain ⟨-, es, -, rfl⟩ := depths?_cons.1 h
    exact ⟨es, rfl⟩

/-- Where some effects end, others go on. -/
theorem depths?_append (h : depths? d xs = some ds) (hlast : ds.getLast? = some d')
    (h' : depths? d' ys = some es) :
    depths? d (xs ++ ys) = some (ds.dropLast ++ es) := by
  induction xs generalizing d ds with
  | nil =>
    cases h
    cases hlast
    exact h'
  | cons x xs ih =>
    obtain ⟨hpops, rest, hrest, rfl⟩ := depths?_cons.1 h
    obtain ⟨tail, rfl⟩ := exists_cons_of_depths? hrest
    rw [List.getLast?_cons_cons] at hlast
    exact depths?_cons.2 ⟨hpops, _, ih hrest hlast, rfl⟩

/-- The depths of some effects are the first ones of those with others behind. -/
theorem depths?_prefix (h : depths? d (xs ++ ys) = some ds) :
    ∃ es, depths? d xs = some es ∧ es <+: ds := by
  induction xs generalizing d ds with
  | nil =>
    obtain ⟨rest, rfl⟩ := exists_cons_of_depths? h
    exact ⟨[d], rfl, List.prefix_append [d] rest⟩
  | cons x xs ih =>
    obtain ⟨hpops, rest, hrest, rfl⟩ := depths?_cons.1 h
    obtain ⟨es, hes, hprefix⟩ := ih hrest
    exact ⟨d :: es, depths?_cons.2 ⟨hpops, es, hes, rfl⟩, List.cons_prefix_cons.2 ⟨rfl, hprefix⟩⟩

theorem mapM_eq_some {α β : Type} {f : α → Option β} {l : List α} {l' : List β}
    (h : List.Forall₂ (fun a b => f a = some b) l l') : l.mapM f = some l' := by
  induction h with
  | nil => rfl
  | cons ha _ ih => rw [List.mapM_cons, ha, ih]; rfl

/-- Instructions change the depth as the actions do that they stand for. -/
theorem stackDepths?_assemble {p : Pool} {us : List Unplaced} {as : List Action}
    (hus : ∀ u ∈ us, u.Sized) (hact : List.Forall₂ (fun u a => u.action? p = some a) us as)
    (heffect : HaveEffects as xs) :
    stackDepths? p (assemble us) = depths? 0 xs := by
  have heffects : List.Forall₂ (fun u x => (u.action? p).bind Action.effect? = some x) us xs := by
    clear hus
    induction hact generalizing xs with
    | nil =>
      cases heffect
      exact .nil
    | cons ha _ ih =>
      obtain _ | ⟨hx, hxs⟩ := heffect
      exact .cons (by rw [ha]; exact hx) (ih hxs)
  rw [← map_placed 0 us, List.forall₂_map_left_iff] at heffects
  rw [stackDepths?, decode_assemble hus]
  exact congrArg (· >>= depths? 0) (mapM_eq_some heffects)

end

/-! ### The depth of the stack of a machine -/

section
variable {O : Type}

/-- The number of slots that cells take up. -/
def slotsIn : List (Cell O) → Nat
  | [] => 0
  | c :: cells => c.category.slots + slotsIn cells

theorem slotsIn_append (cells cells' : List (Cell O)) :
    slotsIn (cells ++ cells') = slotsIn cells + slotsIn cells' := by
  induction cells with
  | nil => simp [slotsIn]
  | cons c cells ih => simp [slotsIn, ih, Nat.add_assoc]

theorem slotsIn_reverse (cells : List (Cell O)) : slotsIn cells.reverse = slotsIn cells := by
  induction cells with
  | nil => rfl
  | cons c cells ih => simp [slotsIn_append, slotsIn, ih, Nat.add_comm]

theorem slotsIn_of_categories {cells : List (Cell O)} {ks : List ValueKind}
    (h : cells.map Cell.category = ks.map category) (n : Nat) :
    ks.foldl (fun slots k => slots + k.slots) n = n + slotsIn cells := by
  induction ks generalizing cells n with
  | nil =>
    rw [List.map_nil, List.map_eq_nil_iff] at h
    rw [h]
    rfl
  | cons k ks ih =>
    obtain ⟨c, cells, rfl, hc, h⟩ := List.map_eq_cons_iff.1 h
    rw [List.foldl_cons, ih h, slotsIn, hc, slots_category, Nat.add_assoc]

theorem slotsIn_drop {n : Nat} {cells below : List (Cell O)} (h : State.drop n cells = .ok below) :
    slotsIn cells = n + slotsIn below := by
  induction n, cells using State.drop.induct with
  | case1 cells =>
    cases h
    simp
  | case2 => cases h
  | case3 n c cells hc ih =>
    unfold State.drop at h
    rw [if_pos hc] at h
    rw [slotsIn, hc, ih h]
    omega
  | case4 c cells hc =>
    unfold State.drop at h
    rw [if_neg hc] at h
    cases h
  | case5 c cells hc n ih =>
    unfold State.drop at h
    rw [if_neg hc] at h
    have hwide : c.category.slots = 2 := by
      revert hc
      cases c.category <;> simp [Category.slots]
    rw [slotsIn, hwide, ih h]
    omega

variable {w : World O} {f : Frame O} {s s' : State O} {a : Action}

/-- The depth of the stack is told by the effect. -/
structure Follows (s s' : State O) (x : Effect) : Prop where
  pops_le : x.pops ≤ slotsIn s.stack
  depth_eq : slotsIn s'.stack = slotsIn s.stack - x.pops + x.pushes

/-- The cells on top are taken and others put there. -/
theorem Follows.of_stack {x : Effect} (top top' : List (Cell O)) {below : List (Cell O)}
    (hs : s.stack = top ++ below) (hs' : s'.stack = top' ++ below) (hpops : slotsIn top = x.pops)
    (hpushes : slotsIn top' = x.pushes) : Follows s s' x := by
  constructor
  · rw [hs, slotsIn_append]
    omega
  · rw [hs, hs', slotsIn_append, slotsIn_append]
    omega

theorem follows_makeCall {below : List (Cell O)} {call : Call O} {t : MethodType} {pops : Nat}
    (ht : MethodType.ofDescriptor call.method.descriptor = .ok t) (top : List (Cell O))
    (hs : s.stack = top ++ below) (hpops : slotsIn top = pops)
    (h : s.makeCall w t.result below call = .ok s') : Follows s s' ⟨pops, t.result.slots⟩ := by
  unfold State.makeCall at h
  dsimp only at h
  split at h
  · cases h
  · next hresult =>
    cases h
    exact .of_stack top [] hs rfl hpops (by rw [hresult]; rfl)
  · next d k hanswer hresult =>
    cases h
    refine .of_stack top [.datum d] hs rfl hpops ?_
    have hfits : d.category = category k := w.fits hanswer ht hresult
    rw [hresult, slotsIn, slotsIn, Cell.category, hfits, slots_category]
    rfl

theorem follows_call {onReceiver : Bool} {m : MethodSymbol} {t : MethodType}
    (ht : MethodType.ofDescriptor m.descriptor = .ok t) (h : s.call w onReceiver m t = .ok s') :
    Follows s s' ⟨t.parameterSlots + (if onReceiver then 1 else 0), t.result.slots⟩ := by
  unfold State.call at h
  dsimp only at h
  split at h
  · cases h
  split at h
  · cases h
  next hcategories =>
  have hsplit : s.stack = s.stack.take t.parameters.length ++ s.stack.drop t.parameters.length :=
    (List.take_append_drop ..).symm
  have hslots : slotsIn (s.stack.take t.parameters.length) = t.parameterSlots := by
    have hsum := slotsIn_of_categories (Classical.not_not.1 hcategories) 0
    rw [slotsIn_reverse, Nat.zero_add] at hsum
    exact hsum.symm
  cases onReceiver with
  | false => exact follows_makeCall ht _ hsplit (by simpa using hslots) h
  | true =>
    rw [if_pos rfl] at h
    split at h
    · cases h
    · cases h
    · next d below _ hbelow =>
      split at h
      · next hd =>
        rw [hbelow] at hsplit
        refine follows_makeCall ht (s.stack.take t.parameters.length ++ [.datum d])
          (by simpa using hsplit) ?_ h
        rw [slotsIn_append, hslots, slotsIn, slotsIn, Cell.category, hd]
        rfl
      · cases h
    · cases h

/-- The machine changes the depth of its stack as is told. -/
theorem follows_perform (h : s.perform w f a = .ok s') : ∃ x, a.effect? = some x ∧ Follows s s' x := by
  cases a with
  | null | int v | text t =>
    cases h
    exact ⟨_, rfl, .of_stack [] [_] rfl rfl rfl rfl⟩
  | load c slot =>
    refine ⟨_, rfl, ?_⟩
    rw [State.perform] at h
    split at h
    · cases h
    split at h
    · next d _ =>
      split at h
      · next hd =>
        cases h
        refine .of_stack [] [.datum d] rfl rfl rfl ?_
        rw [slotsIn, slotsIn, Cell.category, hd]
        rfl
      · cases h
    · cases h
  | store =>
    refine ⟨_, rfl, ?_⟩
    rw [State.perform] at h
    split at h
    · next d i place below hs =>
      split at h
      · cases h
      split at h
      · cases h
      next hd =>
      split at h
      · cases h
      split at h
      · cases h
      · cases h
        refine .of_stack [.datum d, .datum (.int i), .array place] [] hs rfl ?_ rfl
        simp only [slotsIn, Cell.category, Classical.not_not.1 hd]
        rfl
    · cases h
    · cases h
  | duplicate =>
    refine ⟨_, rfl, ?_⟩
    rw [State.perform] at h
    split at h
    · cases h
    · next c below hs =>
      split at h
      · next hc =>
        cases h
        exact .of_stack [c] [c, c] hs (by simp [hs]) (by simp [slotsIn, hc])
          (by simp [slotsIn, hc])
      · cases h
  | drop n =>
    refine ⟨_, rfl, ?_⟩
    rw [State.perform] at h
    split at h
    · next stack hstack =>
      cases h
      have hslots := slotsIn_drop hstack
      constructor <;> dsimp only <;> omega
    · cases h
  | cut k =>
    refine ⟨_, rfl, ?_⟩
    rw [State.perform] at h
    split at h
    · cases h
    · next v below hs =>
      cases h
      exact .of_stack [_] [_] hs rfl rfl rfl
    · cases h
  | newArray component =>
    refine ⟨_, rfl, ?_⟩
    rw [State.perform] at h
    split at h
    · cases h
    · next n below hs =>
      split at h
      · cases h
      · cases h
        exact .of_stack [_] [_] hs rfl rfl rfl
    · cases h
  | cast name =>
    refine ⟨_, rfl, ?_⟩
    rw [State.perform] at h
    split at h
    · cases h
    · next below hs =>
      cases h
      exact .of_stack [_] [_] hs hs rfl rfl
    · next d below _ hs =>
      split at h
      · cases h
      next hd =>
      have hslots : slotsIn [Cell.datum d] = 1 := by
        rw [slotsIn, slotsIn, Cell.category, Classical.not_not.1 hd]
        rfl
      split at h
      · cases h
        exact .of_stack [_] [_] hs hs hslots hslots
      · cases h
    · cases h
  | call onReceiver m =>
    rw [State.perform] at h
    split at h
    · next t ht => exact ⟨_, by rw [Action.effect?, ht]; rfl, follows_call ht h⟩
    · cases h
  | giveBack c =>
    cases c with
    | none => cases h
    | some c =>
      rw [State.perform] at h
      split at h
      · cases h
      · split at h <;> cases h
      · cases h

/-- As long as the machine goes on, it has as many slots in use as is told for where it is. -/
theorem slotsIn_performAll {as : List Action} {xs : List Effect} {ds : List Nat}
    (heffect : HaveEffects as xs)
    (hdepths : depths? (slotsIn s.stack) xs = some ds) (h : as.foldlM (State.perform w f) s = .ok s') :
    ds.getLast? = some (slotsIn s'.stack) := by
  induction heffect generalizing s ds with
  | nil =>
    cases h
    cases hdepths
    rfl
  | cons ha _ ih =>
    rw [List.foldlM_cons] at h
    obtain ⟨s₁, h₁, h⟩ := bind_eq_ok.1 h
    obtain ⟨x, hx, hfollows⟩ := follows_perform h₁
    obtain rfl := Option.some.inj (ha.symm.trans hx)
    obtain ⟨-, es, hes, rfl⟩ := depths?_cons.1 hdepths
    rw [← hfollows.depth_eq] at hes
    have hlast := ih hes h
    obtain ⟨rest, rfl⟩ := exists_cons_of_depths? hes
    rwa [List.getLast?_cons_cons]

end

end ScriptProxy.Bytecode
