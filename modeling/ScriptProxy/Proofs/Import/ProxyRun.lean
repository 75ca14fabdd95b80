import ScriptProxy.Proofs.Bytecode.Machine
import ScriptProxy.Proofs.Import.ProxyBody

/-!
# What proxies do when they run

`proxied` tells what a proxy is to do, without a machine: convert the arguments one after the other,
call the bridge, convert its result. `run_body` says that the instructions of a proxy do just that on
the machine, whatever the world answers.
-/

namespace ScriptProxy.Import.Proxy

open ClassFile Bytecode Outcome

variable {O : Type}

/-! ### What a proxy is to do -/

/-- The method of a wrapper class that makes an object of a primitive value. -/
def valueOf : Primitive → MethodSymbol
  | .byte => ⟨"java/lang/Byte", "valueOf", "(B)Ljava/lang/Byte;"⟩
  | .char => ⟨"java/lang/Character", "valueOf", "(C)Ljava/lang/Character;"⟩
  | .double => ⟨"java/lang/Double", "valueOf", "(D)Ljava/lang/Double;"⟩
  | .float => ⟨"java/lang/Float", "valueOf", "(F)Ljava/lang/Float;"⟩
  | .int => ⟨"java/lang/Integer", "valueOf", "(I)Ljava/lang/Integer;"⟩
  | .long => ⟨"java/lang/Long", "valueOf", "(J)Ljava/lang/Long;"⟩
  | .short => ⟨"java/lang/Short", "valueOf", "(S)Ljava/lang/Short;"⟩
  | .boolean => ⟨"java/lang/Boolean", "valueOf", "(Z)Ljava/lang/Boolean;"⟩

/-- The object that stands for an argument in the array for the bridge. -/
def passed (c : Config) (w : World O) : ValueKind → Datum O → Talk O (Datum O)
  | .primitive p, d => ask w ⟨valueOf p, none, [.datum d]⟩
  | .object name, d =>
    if name ∈ c.stringWrappers then
      ask w ⟨⟨"java/util/Objects", "toString",
        "(Ljava/lang/Object;Ljava/lang/String;)Ljava/lang/String;"⟩, none,
        [.datum d, .datum .null]⟩
    else pure d
  | .array _, d => pure d

/-- The objects for all arguments, in their order. -/
def passedAll (c : Config) (w : World O) (ks : List ValueKind) (ds : List (Datum O)) :
    Talk O (List (Datum O)) :=
  (ks.zip ds).mapM fun (k, d) => passed c w k d

/-- The method that gives the primitive value of an object, which is to be of its class. -/
def valueIn : Primitive → MethodSymbol
  | .boolean => ⟨"java/lang/Boolean", "booleanValue", "()Z"⟩
  | .long => ⟨"java/lang/Number", "longValue", "()J"⟩
  | .float => ⟨"java/lang/Number", "floatValue", "()F"⟩
  | .double => ⟨"java/lang/Number", "doubleValue", "()D"⟩
  | .byte | .char | .short | .int => ⟨"java/lang/Number", "intValue", "()I"⟩

/-- An integer cut down to a kind. -/
def narrowed (p : Primitive) : Datum O → Datum O
  | .int v => .int (cutDown p v)
  | d => d

/-- The value of a kind that an object stands for. -/
def given (w : World O) : ValueKind → Datum O → Talk O (Datum O)
  | .primitive p, d => do
    match ← castTo w (valueIn p).owner d with
    | .null => throw (.nullReceiver (valueIn p))
    | d => narrowed p <$> ask w ⟨valueIn p, some d, []⟩
  | .object name, d => if name = "java/lang/Object" then pure d else castTo w name d
  | .array component, d => castTo w (ValueKind.array component).descriptor d

/-- The result of a method for the object that the bridge gives. -/
def returned (w : World O) : ReturnKind → Datum O → Talk O (Option (Datum O))
  | .void, _ => pure none
  | .value k, d => some <$> given w k d

/-- The call of the bridge, with the arguments in an array of objects. -/
def bridgeCall (c : Config) (b : Binding) (elements : List (Datum O)) : Call O :=
  ⟨⟨c.bridgeClass, c.bridgeMethod, bridgeDescriptor⟩, none,
    [.datum (.text b.module), .datum (.text b.name), .array ⟨"java/lang/Object", elements⟩]⟩

/-- What a proxy does: convert the arguments, call the bridge, convert its result. -/
def proxied (c : Config) (b : Binding) (t : MethodType) (w : World O) (args : List (Datum O)) :
    Talk O (Option (Datum O)) := do
  let elements ← passedAll c w t.parameters args
  let object ← ask w (bridgeCall c b elements)
  returned w t.result object

/-! ### The methods that are called -/

theorem isStringWrapper_iff {c : Config} {name : String} :
    c.isStringWrapper name ↔ name ∈ c.stringWrappers := List.contains_iff_mem

theorem boxing_eq (p : Primitive) : boxing p = valueOf p := by cases p <;> rfl

theorem unboxing_eq (p : Primitive) : unboxing p = valueIn p := by cases p <;> rfl

theorem type_valueOf (p : Primitive) : MethodType.ofDescriptor (valueOf p).descriptor =
    .ok ⟨[.primitive p], .value (.object p.boxClass)⟩ := by
  cases p <;> cbv

theorem type_toText : MethodType.ofDescriptor toText.descriptor =
    .ok ⟨[.object "java/lang/Object", .object "java/lang/String"],
      .value (.object "java/lang/String")⟩ := by
  cbv

theorem type_bridge : MethodType.ofDescriptor bridgeDescriptor =
    .ok ⟨[.object "java/lang/String", .object "java/lang/String",
      .array (.object "java/lang/Object")], .value (.object "java/lang/Object")⟩ := by
  cbv

/-- The kind of the value before it is narrowed. -/
def wideKind : Primitive → Primitive
  | .byte | .char | .short => .int
  | p => p

theorem type_valueIn (p : Primitive) : MethodType.ofDescriptor (valueIn p).descriptor =
    .ok ⟨[], .value (.primitive (wideKind p))⟩ := by
  cases p <;> cbv

/-! ### Arguments -/

section
variable {c : Config} {w : World O} {f : Frame O} {rest : List Action} {below : List (Cell O)}
  {arrays : List (ObjectArray O)} {log : List (Call O)} {k : ValueKind} {d : Datum O}

theorem run_marshal (hd : d.Fits k) :
    run w f (marshalActions c k ++ rest) ⟨.datum d :: below, arrays, log⟩ =
      follow (passed c w k d log) fun d log => run w f rest ⟨.datum d :: below, arrays, log⟩ := by
  cases k with
  | primitive p =>
    rw [marshalActions, boxing_eq]
    exact run_static [.datum d] below (type_valueOf p) rfl (congrArg (fun x => [x]) hd)
  | object name =>
    rw [marshalActions, passed]
    by_cases hname : name ∈ c.stringWrappers
    · rw [if_pos (isStringWrapper_iff.2 hname), if_pos hname]
      exact run_static [.datum d, .datum .null] below type_toText rfl
        (congrArg (fun x => [x, Category.reference]) hd)
    · rw [if_neg (fun h => hname (isStringWrapper_iff.1 h)), if_neg hname]
      rfl
  | array component => rfl

/-- Every argument is passed as an object. -/
theorem category_of_passed (hd : d.Fits k) {d' : Datum O} {log' : List (Call O)}
    (h : passed c w k d log = .ok d' log') : d'.category = .reference := by
  cases k with
  | primitive p => exact fits_of_ask h (type_valueOf p) rfl
  | object name =>
    rw [passed] at h
    split at h
    · exact fits_of_ask h type_toText rfl
    · cases h
      exact hd
  | array component =>
    cases h
    exact hd

theorem run_pass {place position slot : Nat} {elements : List (Datum O)} (hd : d.Fits k)
    (harray : arrays[place]? = some ⟨"java/lang/Object", elements⟩) (hposition : position < elements.length)
    (hint : position < 2 ^ 31) (hlocal : f.locals[slot]? = some (some d))
    (hsize : slot + (category k).slots ≤ f.size) :
    run w f (passActions c k position slot ++ rest) ⟨.array place :: below, arrays, log⟩ =
      follow (passed c w k d log) fun d log => run w f rest
        ⟨.array place :: below,
          arrays.set place ⟨"java/lang/Object", elements.set position d⟩, log⟩ := by
  have hload : State.perform w f ⟨.datum (.int (Int32.ofNat position)) :: .array place ::
      .array place :: below, arrays, log⟩ (.load (category k) slot) =
        .ok ⟨.datum d :: .datum (.int (Int32.ofNat position)) :: .array place :: .array place ::
          below, arrays, log⟩ := by
    rw [State.perform, if_neg (Nat.not_lt.2 hsize), hlocal]
    exact if_pos hd
  rw [passActions, List.cons_append, List.cons_append, List.cons_append, List.append_assoc,
    run_cons_of_ok rfl, run_cons_of_ok rfl, run_cons_of_ok hload, run_marshal hd]
  refine follow_congr fun d' log' h => run_cons_of_ok ?_
  have hi : (Int32.ofNat position).toInt = position := by
    have hsize : Int32.size = 2 ^ 32 := rfl
    rw [Int32.toInt_ofNat', Int.bmod_eq_of_le (by omega) (by omega)]
  have hd' := category_of_passed hd h
  have hin : 0 ≤ (position : Int) ∧ (position : Int) < elements.length :=
    ⟨Int.natCast_nonneg _, Int.ofNat_lt.2 hposition⟩
  simp only [State.perform, harray, hi, Int.toNat_natCast]
  rw [if_neg (Classical.not_not.2 hd'), if_neg (Classical.not_not.2 hin),
    if_neg (by rw [w.admits_object hd']; decide)]

/-- The slots that a value takes up among the local variables. -/
def spread (d : Datum O) : List (Option (Datum O)) :=
  if d.category.slots = 2 then [some d, none] else [some d]

theorem slots_pos (k : ValueKind) : 0 < k.slots := by
  rw [← slots_category]
  cases category k <;> decide

theorem length_spread (hd : d.Fits k) : (spread d).length = k.slots := by
  rw [← slots_category, ← show d.category = category k from hd, spread]
  cases d <;> rfl

theorem length_flatMap_spread {args : List (Datum O)} {ks : List ValueKind}
    (h : List.Forall₂ Datum.Fits args ks) : (args.flatMap spread).length = slotSum ks := by
  induction h with
  | nil => rfl
  | cons hd _ ih =>
    rw [List.flatMap_cons, List.length_append, ih, length_spread hd, slotSum_cons]

theorem getElem?_of_drop {l : List (Option (Datum O))} {slot : Nat}
    {more : List (Option (Datum O))} (h : l.drop slot = spread d ++ more) :
    l[slot]? = some (some d) := by
  have h0 : (l.drop slot)[0]? = some (some d) := by
    rw [h, spread]
    split <;> rfl
  rwa [List.getElem?_drop, Nat.add_zero] at h0

theorem passedAll_cons (c : Config) (w : World O) (k : ValueKind) (ks : List ValueKind)
    (d : Datum O) (ds : List (Datum O)) :
    passedAll c w (k :: ks) (d :: ds) = passed c w k d >>= fun x =>
      passedAll c w ks ds >>= fun xs => pure (x :: xs) := by
  simp [passedAll]

theorem length_of_passedAll {args : List (Datum O)} {ks : List ValueKind}
    (hargs : List.Forall₂ Datum.Fits args ks) {elements : List (Datum O)} {log' : List (Call O)}
    (h : passedAll c w ks args log = .ok elements log') : elements.length = ks.length := by
  induction hargs generalizing log elements log' with
  | nil => cases h; rfl
  | cons _ _ ih =>
    rw [passedAll_cons] at h
    obtain ⟨x, _, -, h⟩ := step_bind_eq_ok.1 h
    obtain ⟨xs, _, hxs, h⟩ := step_bind_eq_ok.1 h
    cases h
    exact congrArg (· + 1) (ih hxs)

/-- The array is filled from the front, and the local variables from `slot` on are the arguments that
are left. -/
theorem run_passAll {args : List (Datum O)} {ks : List ValueKind}
    (hargs : List.Forall₂ Datum.Fits args ks) (place slot : Nat) (front : List (Datum O))
    (log : List (Call O))
    (harray : arrays[place]? =
      some ⟨"java/lang/Object", front ++ List.replicate ks.length .null⟩)
    (hint : front.length + ks.length < 2 ^ 31)
    (hlocals : f.locals.drop slot = args.flatMap spread) (hsize : f.locals.length = f.size) :
    run w f (passAllActions c ks front.length slot ++ rest) ⟨.array place :: below, arrays, log⟩ =
      follow (passedAll c w ks args log) fun elements log => run w f rest
        ⟨.array place :: below, arrays.set place ⟨"java/lang/Object", front ++ elements⟩, log⟩ := by
  induction hargs generalizing slot front arrays log with
  | nil =>
    -- the array is full and stays as it is
    have hset : arrays.set place ⟨"java/lang/Object", front ++ []⟩ = arrays := by
      obtain ⟨hplace, he⟩ := List.getElem?_eq_some_iff.1 harray
      rw [show ObjectArray.mk "java/lang/Object" (front ++ []) = arrays[place] from he.symm,
        List.set_getElem_self]
    show _ = run w f rest ⟨_, arrays.set place ⟨"java/lang/Object", front ++ []⟩, log⟩
    rw [hset]
    rfl
  | @cons d k args ks hd hargs ih =>
    have hlength := congrArg List.length hlocals
    rw [List.length_drop, List.flatMap_cons, List.length_append, length_spread hd] at hlength
    have hpos := slots_pos k
    rw [passAllActions, List.append_assoc, run_pass hd harray (by simp) (by omega)
      (getElem?_of_drop hlocals) (by rw [slots_category]; omega), passedAll_cons, follow_bind]
    refine follow_congr fun x log' _ => ?_
    rw [follow_bind]
    have hset : (front ++ List.replicate (k :: ks).length Datum.null).set front.length x =
        front ++ [x] ++ List.replicate ks.length Datum.null := by
      simp [List.replicate_succ]
    rw [hset]
    have hplace : place < arrays.length := (List.getElem?_eq_some_iff.1 harray).1
    have hrest := ih (slot + k.slots) (front ++ [x]) log' (List.getElem?_set_self hplace)
      (by simp at hint ⊢; omega)
      (by rw [← List.drop_drop, hlocals, List.flatMap_cons, ← length_spread hd, List.drop_left])
    rw [List.length_append, List.length_singleton] at hrest
    rw [hrest]
    refine follow_congr fun xs log'' _ => ?_
    rw [List.set_set, List.append_assoc, List.singleton_append]
    rfl

/-! ### Results -/

theorem run_cut (p : Primitive) (hd : d.Fits (.primitive (wideKind p))) :
    run w f (Emitter.narrowing (.primitive p) ++ rest) ⟨.datum d :: below, arrays, log⟩ =
      run w f rest ⟨.datum (narrowed p d) :: below, arrays, log⟩ := by
  cases p <;> cases d <;> first | rfl | cases hd

theorem fits_narrowed {p : Primitive} (hd : d.Fits (.primitive (wideKind p))) :
    (narrowed p d).Fits (.primitive p) := by
  cases p <;> cases d <;> first | rfl | cases hd

theorem run_unmarshal (hd : d.category = .reference) (k : ValueKind) :
    run w f (unmarshalActions k ++ rest) ⟨.datum d :: below, arrays, log⟩ =
      follow (given w k d log) fun d log => run w f rest ⟨.datum d :: below, arrays, log⟩ := by
  cases k with
  | primitive p =>
    rw [unmarshalActions, unboxing_eq, List.cons_append, List.cons_append, run_cast _ hd, given,
      follow_bind]
    refine follow_congr fun d' log' hcast => ?_
    obtain ⟨rfl, rfl⟩ := castTo_eq_ok hcast
    split
    · exact run_virtual_null (type_valueIn p) rfl
    · next hnull =>
      rw [run_virtual (type_valueIn p) rfl rfl hd hnull, follow_map]
      exact follow_congr fun v log'' hask => run_cut p (fits_of_ask hask (type_valueIn p) rfl)
  | object name =>
    rw [unmarshalActions, given, objectClass]
    split
    · rfl
    · exact run_cast name hd
  | array component => exact run_cast _ hd

theorem fits_of_given (hd : d.category = .reference) {d' : Datum O} {log' : List (Call O)}
    (h : given w k d log = .ok d' log') : d'.Fits k := by
  cases k with
  | primitive p =>
    obtain ⟨x, log₁, -, h⟩ := step_bind_eq_ok.1 h
    split at h
    · cases h
    · obtain ⟨v, hask, rfl⟩ := step_map_eq_ok.1 h
      exact fits_narrowed (fits_of_ask hask (type_valueIn p) rfl)
  | object name =>
    rw [given] at h
    split at h
    · cases h
      exact hd
    · exact (castTo_eq_ok h).1 ▸ hd
  | array component => exact (castTo_eq_ok h).1 ▸ hd

theorem run_result (hd : d.category = .reference) (r : ReturnKind) :
    run w f (resultActions r) ⟨.datum d :: below, arrays, log⟩ =
      follow (returned w r d log) fun v log => (.returned v, log) := by
  cases r with
  | void =>
    have hdrop : State.perform w f ⟨.datum d :: below, arrays, log⟩ (.drop 1) =
        .ok ⟨below, arrays, log⟩ := by
      simp [State.perform, State.drop, Cell.category, hd, Category.slots]
    rw [resultActions, run_cons_of_ok hdrop]
    rfl
  | value k =>
    rw [resultActions, run_unmarshal hd, returned, follow_map]
    refine follow_congr fun d' log' h => run_cons_of_error ?_
    exact if_pos (fits_of_given hd h)

end

/-! ### Whole bodies -/

/-- The local variables at the start of a method, and the slots that its body asks for. -/
def frame (isStatic : Bool) (receiver : Datum O) (args : List (Datum O)) (size : Nat) : Frame O :=
  ⟨(if isStatic then [] else [some receiver]) ++ args.flatMap spread, size⟩

/-- The machine at the start of a method. -/
def start : State O := ⟨[], [], []⟩

theorem length_le_slotSum (ks : List ValueKind) : ks.length ≤ slotSum ks := by
  induction ks with
  | nil => exact Nat.le_refl _
  | cons k ks ih =>
    have hpos := slots_pos k
    rw [slotSum_cons, List.length_cons]
    omega

section
variable {isStatic : Bool} {receiver : Datum O} {args : List (Datum O)} {size : Nat}

theorem drop_locals : (frame isStatic receiver args size).locals.drop (receiverSlots isStatic) =
    args.flatMap spread := by
  cases isStatic <;> rfl

theorem length_locals {ks : List ValueKind} (h : List.Forall₂ Datum.Fits args ks) :
    (frame isStatic receiver args size).locals.length = receiverSlots isStatic + slotSum ks := by
  rw [frame, List.length_append, length_flatMap_spread h]
  cases isStatic <;> rfl

/-- The actions of a body do what the proxy is to do. -/
theorem run_body {c : Config} {b : Binding} {t : MethodType} {w : World O}
    (hargs : List.Forall₂ Datum.Fits args t.parameters)
    (hsize : size = receiverSlots isStatic + slotSum t.parameters) (hmax : size ≤ maxSlots) :
    run w (frame isStatic receiver args size) (bodyActions c b t (receiverSlots isStatic)) start =
      follow (proxied c b t w args []) fun v log => (.returned v, log) := by
  -- no more parameters than slots, so that their number is one that the machine can count to
  have hcount : t.parameters.length ≤ 255 := by
    have := length_le_slotSum t.parameters
    have : maxSlots = 255 := rfl
    omega
  have hint : (Int32.ofNat t.parameters.length).toInt = t.parameters.length := by
    have : Int32.size = 2 ^ 32 := rfl
    rw [Int32.toInt_ofNat', Int.bmod_eq_of_le (by omega) (by omega)]
  have harray : State.perform w (frame isStatic receiver args size)
      ⟨[.datum (.int (Int32.ofNat t.parameters.length)), .datum (.text b.name),
        .datum (.text b.module)], [], []⟩ (.newArray objectClass) =
      .ok ⟨[.array 0, .datum (.text b.name), .datum (.text b.module)],
        [⟨objectClass, List.replicate t.parameters.length .null⟩], []⟩ := by
    have hneg : ¬ (t.parameters.length : Int) < 0 := by omega
    simp [State.perform, hint, hneg]
  rw [bodyActions, start, run_cons_of_ok rfl, run_cons_of_ok rfl, run_cons_of_ok rfl,
    run_cons_of_ok harray]
  refine (run_passAll hargs 0 _ [] [] rfl (by simp; omega) drop_locals
    ((length_locals hargs).trans hsize.symm)).trans ?_
  rw [proxied, follow_bind]
  refine follow_congr fun elements log _ => ?_
  rw [follow_bind]
  refine (run_static [.datum (.text b.module), .datum (.text b.name), .array 0] [] type_bridge
    rfl rfl).trans (follow_congr fun d log' h => ?_)
  exact run_result (fits_of_ask h type_bridge rfl) _

end

end ScriptProxy.Import.Proxy
