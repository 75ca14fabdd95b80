import ScriptProxy.Proofs.Bytecode.Refusals
import ScriptProxy.Proofs.ClassFile.Descriptor
import ScriptProxy.Proofs.Import.ProxyRun

/-!
# Whether proxies can be made

`body_outcome`: a proxy is refused to a method exactly if its descriptor is none or takes too many slots.
Otherwise there is room in the pool for the constants of the proxy, and then its body is made and not too
long, or there is none, and then all slots of the pool are in use.
-/

namespace ScriptProxy.Import.Proxy

open ClassFile Bytecode Outcome

/-! ### The parts of a body -/

theorem parameterSlots_single (k : ValueKind) (r : ReturnKind) :
    MethodType.parameterSlots ⟨[k], r⟩ = k.slots := by
  simp [MethodType.parameterSlots]

theorem hinges_marshal (c : Config) (k : ValueKind) {d : Nat} (hd : d + 2 ≤ 65535) :
    Hinges (marshal c k) (marshalActions c k) (d + k.slots) (d + 1) := by
  have hone : d + 1 ≤ 65535 := Nat.le_of_succ_le hd
  cases k with
  | primitive p =>
    have ht := type_valueOf p
    rw [← boxing_eq] at ht
    have hslots := parameterSlots_single (.primitive p) (.value (.object p.boxClass))
    have hle := (ValueKind.primitive p).slots_le
    have hcall := Hinges.call (r := .invokestatic (boxing p)) (d := d) false rfl rfl ht (by omega) hone
    rwa [hslots] at hcall
  | object name =>
    rw [marshal, marshalActions]
    split
    · have hnull : Hinges Emitter.aconstNull [.null] (d + 1) (d + 2) :=
        Hinges.request (r := .aconstNull) (t := ⟨0, 1⟩) (.of_none rfl) rfl hd
      have hcall : Hinges (Emitter.invokestatic toText) [.call false toText] (d + 2) (d + 1) :=
        Hinges.call (r := .invokestatic toText) false rfl rfl type_toText (by decide) hone
      exact hnull.bind hcall
    · exact .pure
  | array component => exact .pure

theorem hinges_passArguments (c : Config) (ks : List ValueKind) (position slot : Nat)
    (hslot : slot + slotSum ks ≤ 65535) :
    Hinges (passArguments c ks position slot) (passAllActions c ks position slot) 3 3 := by
  induction ks generalizing position slot with
  | nil => exact .pure
  | cons k ks ih =>
    rw [slotSum_cons] at hslot
    have hdup : Hinges Emitter.dup [.duplicate] 3 4 :=
      Hinges.request (r := .dup) (t := ⟨1, 2⟩) (d := 2) (.of_none rfl) rfl (by decide)
    have hposition : Hinges (Emitter.pushInt (Int32.ofNat position)) [.int (Int32.ofNat position)] 4 5 :=
      Hinges.request (r := .pushInt _) (t := ⟨0, 1⟩) (d := 4) (.of_none rfl) rfl (by decide)
    have hload : Hinges (Emitter.load k (UInt16.ofNat slot)) [.load (category k) slot] 5 (5 + k.slots) := by
      have hk := k.slots_le
      have h := Hinges.request (r := .load k (UInt16.ofNat slot)) (t := ⟨0, k.slots⟩) (d := 5) (.of_none rfl)
        (congrArg (fun n => some (Effect.mk 0 n)) (slots_category k)) (by dsimp only; omega)
      rwa [Request.actions, UInt16.toNat_ofNat', Nat.mod_eq_of_lt (by omega)] at h
    have hmarshal := hinges_marshal c k (d := 5) (by decide)
    have hstore : Hinges Emitter.aastore [.store] 6 3 :=
      Hinges.request (r := .aastore) (t := ⟨3, 0⟩) (d := 3) (.of_none rfl) rfl (by decide)
    have hall := hdup.bind (hposition.bind (hload.bind (hmarshal.bind (hstore.bind
      (ih (position + 1) (slot + k.slots) (by omega))))))
    rw [passArguments, passAllActions, passActions]
    simpa using hall

theorem hinges_narrow (p : Primitive) :
    Hinges (Emitter.narrow (.primitive p)) (Emitter.narrowing (.primitive p))
      (ValueKind.primitive (wideKind p)).slots (ValueKind.primitive p).slots := by
  cases p with
  | byte => exact Hinges.request (r := .narrow (.primitive .byte)) (d := 0) (.of_none rfl) rfl (by decide)
  | char => exact Hinges.request (r := .narrow (.primitive .char)) (d := 0) (.of_none rfl) rfl (by decide)
  | short => exact Hinges.request (r := .narrow (.primitive .short)) (d := 0) (.of_none rfl) rfl (by decide)
  | _ => exact .pure

theorem hinges_unmarshal (k : ValueKind) : Hinges (unmarshal k) (unmarshalActions k) 1 k.slots := by
  have hcast (name : String) : Hinges (Emitter.checkcast name) [.cast name] 1 1 :=
    Hinges.request (r := .checkcast name) (t := ⟨1, 1⟩) (d := 0) (.of_none rfl) rfl (by decide)
  cases k with
  | primitive p =>
    have hcall : Hinges (Emitter.invokevirtual (unboxing p)) [.call true (unboxing p)] 1
        (ValueKind.primitive (wideKind p)).slots := by
      have h := Hinges.call (r := .invokevirtual (unboxing p)) (d := 0) true rfl rfl
        (unboxing_eq p ▸ type_valueIn p) (Nat.zero_le _)
        (by cases wideKind p <;> decide)
      rwa [Nat.zero_add, Nat.zero_add] at h
    exact (hcast _).bind (hcall.bind (hinges_narrow p))
  | object name =>
    rw [unmarshal, unmarshalActions]
    split
    · exact .pure
    · exact hcast name
  | array component => exact hcast _

theorem hinges_giveBack (r : ReturnKind) : Hinges (giveBack r) (resultActions r) 1 0 := by
  cases r with
  | void =>
    have hpop : Hinges (Emitter.pop 1) [.drop 1] 1 0 :=
      Hinges.request (r := .pop 1) (t := ⟨1, 0⟩) (d := 0) (.of_none rfl) rfl (by decide)
    have hreturn : Hinges (Emitter.returnValue .void) [.giveBack none] 0 0 :=
      Hinges.request (r := .returnValue .void) (t := ⟨0, 0⟩) (d := 0) (.of_none rfl) rfl (by decide)
    exact hpop.bind hreturn
  | value k =>
    have hreturn : Hinges (Emitter.returnValue (.value k)) [.giveBack (some (category k))] k.slots 0 := by
      have h := Hinges.request (r := .returnValue (.value k)) (t := ⟨k.slots, 0⟩) (d := 0) (.of_none rfl)
        (congrArg (fun n => some (Effect.mk n 0)) (slots_category k)) (Nat.zero_le _)
      rwa [Nat.zero_add] at h
    exact (hinges_unmarshal k).bind hreturn

theorem hinges_body (c : Config) (b : Binding) (t : MethodType) (firstSlot : Nat)
    (h : firstSlot + slotSum t.parameters ≤ 65535) :
    Hinges (emitBody c b t firstSlot) (bodyActions c b t firstSlot) 0 0 := by
  have hmodule : Hinges (Emitter.ldcString b.module) [.text b.module] 0 1 :=
    Hinges.request (r := .ldcString _) (t := ⟨0, 1⟩) (d := 0) (.of_none rfl) rfl (by decide)
  have hname : Hinges (Emitter.ldcString b.name) [.text b.name] 1 2 :=
    Hinges.request (r := .ldcString _) (t := ⟨0, 1⟩) (d := 1) (.of_none rfl) rfl (by decide)
  have hcount : Hinges (Emitter.pushInt (Int32.ofNat t.parameters.length))
      [.int (Int32.ofNat t.parameters.length)] 2 3 :=
    Hinges.request (r := .pushInt _) (t := ⟨0, 1⟩) (d := 2) (.of_none rfl) rfl (by decide)
  have harray : Hinges (Emitter.anewarray objectClass) [.newArray objectClass] 3 3 :=
    Hinges.request (r := .anewarray _) (t := ⟨1, 1⟩) (d := 2) (.of_none rfl) rfl (by decide)
  have hbridge : Hinges (Emitter.invokestatic (bridge c)) [.call false (bridge c)] 3 1 :=
    Hinges.call (r := .invokestatic (bridge c)) (d := 0) false rfl rfl type_bridge (by decide) (by decide)
  have hall := hmodule.bind (hname.bind (hcount.bind (harray.bind
    ((hinges_passArguments c t.parameters 0 firstSlot h).bind
      (hbridge.bind (hinges_giveBack t.result))))))
  rw [emitBody, bodyActions]
  simpa using hall

/-! ### The length of a body -/

section
variable (c : Config)

theorem length_marshalActions (k : ValueKind) : (marshalActions c k).length ≤ 2 := by
  cases k with
  | object name =>
    rw [marshalActions]
    split <;> simp
  | primitive | array => simp [marshalActions]

theorem length_passAllActions (ks : List ValueKind) (position slot : Nat) :
    (passAllActions c ks position slot).length ≤ 6 * ks.length := by
  induction ks generalizing position slot with
  | nil => exact Nat.le_refl 0
  | cons k ks ih =>
    have hmarshal := length_marshalActions c k
    have hrest := ih (position + 1) (slot + k.slots)
    simp only [passAllActions, passActions, List.length_append, List.length_cons, List.length_nil]
    omega

theorem length_resultActions (r : ReturnKind) : (resultActions r).length ≤ 4 := by
  cases r with
  | void => decide
  | value k =>
    cases k with
    | primitive p => cases p <;> decide
    | object name =>
      simp only [resultActions, unmarshalActions]
      split <;> simp
    | array component => simp [resultActions, unmarshalActions]

theorem length_bodyActions (b : Binding) (t : MethodType) (firstSlot : Nat) :
    1 ≤ (bodyActions c b t firstSlot).length ∧
      (bodyActions c b t firstSlot).length ≤ 9 + 6 * t.parameters.length := by
  have hpass := length_passAllActions c t.parameters 0 firstSlot
  have hresult := length_resultActions t.result
  simp only [bodyActions, List.length_append, List.length_cons]
  omega

end

/-! ### Whole bodies -/

section
variable {c : Config} {method : MethodKey} {b : Binding} {isStatic : Bool} {pool q : Pool}
  {t : MethodType}

/-- The instructions of a body fit into a method. -/
theorem length_emitted (hslots : receiverSlots isStatic + slotSum t.parameters ≤ 255)
    (hp : pool.WellFormed) {e : Emitter}
    (he : emitBody c b t (receiverSlots isStatic) (.start pool) = .ok () e) :
    1 ≤ e.code.size ∧ e.code.size ≤ 65535 := by
  obtain ⟨us, hus, hcode, hactions⟩ :=
    (emits_body c b t (receiverSlots isStatic) (by omega) _ e hp he).code
  obtain ⟨hmin, hmax⟩ := length_assemble hus
  obtain ⟨hsome, hlength⟩ := length_bodyActions c b t (receiverSlots isStatic)
  rw [← hactions.length_eq] at hsome hlength
  have hsize : e.code.size = (assemble us).length := by
    rw [← Array.length_toList, hcode]
    rfl
  have hparameters := length_le_slotSum t.parameters
  omega

/-- If there is room in the pool for all constants of the body, it is made and fits into a method, and if
there is not, all slots of the pool are in use then, which is what the failure says. -/
def RoomDecides (c : Config) (b : Binding) (isStatic : Bool) (t : MethodType) (pool : Pool)
    (result : EStateM.Result Failure Pool Code) : Prop :=
  match (additions (bodyActions c b t (receiverSlots isStatic))).mapM Pool.Addition.edit pool with
  | .ok _ q => ∃ code, result = .ok code q ∧
      1 ≤ code.instructions.length ∧ code.instructions.length ≤ 65535
  | .error _ q => result = .error (.notSupported .fullPool) q ∧ q.count = Pool.limit

theorem roomDecides_body (ht : MethodType.ofDescriptor method.descriptor = .ok t)
    (hslots : receiverSlots isStatic + t.parameterSlots ≤ 255) (hp : pool.WellFormed) :
    RoomDecides c b isStatic t pool (body c method b isStatic pool) := by
  have hsum := hslots
  rw [parameterSlots_eq] at hsum
  have hmax : ¬ maxSlots < receiverSlots isStatic + t.parameterSlots := Nat.not_lt.2 hslots
  have hemit := hinges_body c b t (receiverSlots isStatic) (by omega) (.start pool) rfl
  rw [show (Emitter.start pool).pool = pool from rfl] at hemit
  unfold RoomDecides body
  rw [ht]
  dsimp only
  rw [if_neg hmax]
  split
  · next q hadd =>
    rw [hadd] at hemit
    obtain ⟨e, he, rfl, -⟩ := hemit
    obtain ⟨hmin, hfits⟩ := length_emitted hsum hp he
    rw [he]
    dsimp only
    rw [Emitter.finish, if_neg (by omega)]
    exact ⟨_, rfl, hmin, hfits⟩
  · next f q hadd =>
    obtain ⟨rfl, hcount⟩ := (Pool.FailsFull.mapM Pool.FailsFull.edit _ pool hp).2 f q hadd
    rw [hadd] at hemit
    obtain ⟨e, he, rfl⟩ := hemit
    rw [he]
    exact ⟨rfl, hcount⟩

theorem refused_iff (hp : pool.WellFormed) :
    (∃ reason, body c method b isStatic pool = .error (.rewrite method.describe reason) pool) ↔
      ¬ ∃ t : MethodType, MethodType.ofDescriptor method.descriptor = .ok t ∧
        receiverSlots isStatic + t.parameterSlots ≤ 255 := by
  constructor
  · rintro ⟨reason, hrefused⟩ ⟨t, ht, hslots⟩
    have hbody := roomDecides_body (c := c) (b := b) ht hslots hp
    rw [hrefused, RoomDecides] at hbody
    split at hbody
    · obtain ⟨_, hok, -⟩ := hbody
      cases hok
    · cases hbody.1
  · intro hnone
    unfold body
    cases ht : MethodType.ofDescriptor method.descriptor with
    | error d => exact ⟨_, rfl⟩
    | ok t =>
      have hslots : maxSlots < receiverSlots isStatic + t.parameterSlots :=
        Nat.not_le.1 fun hle => hnone ⟨t, ht, hle⟩
      exact ⟨_, if_pos hslots⟩

/-- A proxy is refused to a method exactly if its descriptor is none or takes more slots than there may be.
For all others, what comes of it is decided by the room in the pool. -/
theorem body_outcome (hp : pool.Reachable) :
    ((∃ reason, body c method b isStatic pool = .error (.rewrite method.describe reason) pool) ↔
      ¬ ∃ t : MethodType, t.descriptor = method.descriptor ∧ t.WellFormed ∧
        receiverSlots isStatic + t.parameterSlots ≤ 255) ∧
    ∀ t : MethodType, t.descriptor = method.descriptor → t.WellFormed →
      receiverSlots isStatic + t.parameterSlots ≤ 255 →
        RoomDecides c b isStatic t pool (body c method b isStatic pool) := by
  constructor
  · simp only [refused_iff hp.wellFormed, MethodType.ofDescriptor_eq_ok_iff, and_assoc]
  · exact fun t hd ht hslots =>
      roomDecides_body (MethodType.ofDescriptor_eq_ok_iff.2 ⟨hd, ht⟩) hslots hp.wellFormed

end

/-- A method with wide arguments that take up 254 slots and one more argument. -/
def longMethod : MethodKey := ⟨"f", "(" ++ String.ofList (List.replicate 127 'J') ++ "I)V"⟩

def longType : MethodType := ⟨List.replicate 127 (.primitive .long) ++ [.primitive .int], .void⟩

/-- A static method may have just as many, but there is no slot left for a receiver. -/
theorem body_outcome_long :
    (∃ code q, body .standard longMethod ⟨"M", "f", none⟩ true .empty = .ok code q) ∧
      ∃ reason, body .standard longMethod ⟨"M", "f", none⟩ false .empty =
        .error (.rewrite longMethod.describe reason) .empty := by
  have hread : MethodType.ofDescriptor longMethod.descriptor = .ok longType :=
    eq_ok_of_toOption (by decide +kernel)
  have hslots : longType.parameterSlots = 255 := by decide +kernel
  obtain ⟨hd, ht⟩ := MethodType.ofDescriptor_eq_ok_iff.1 hread
  constructor
  · have hmade : RoomDecides .standard ⟨"M", "f", none⟩ true longType .empty
        (body .standard longMethod ⟨"M", "f", none⟩ true .empty) :=
      (body_outcome .empty).2 longType hd ht (by rw [hslots]; decide)
    have hroom : (match (additions (bodyActions .standard ⟨"M", "f", none⟩ longType 0)).mapM
        Pool.Addition.edit .empty with
      | .ok .. => true
      | .error .. => false) = true := by decide +kernel
    unfold RoomDecides at hmade
    split at hmade
    · obtain ⟨code, hok, -⟩ := hmade
      exact ⟨code, _, hok⟩
    · next hadd =>
      rw [show receiverSlots true = 0 from rfl] at hadd
      rw [hadd] at hroom
      cases hroom
  · refine (body_outcome .empty).1.2 ?_
    rintro ⟨t, hd', ht', hle⟩
    have hread' := MethodType.ofDescriptor_eq_ok_iff.2 ⟨hd', ht'⟩
    rw [hread] at hread'
    cases hread'
    rw [hslots] at hle
    cases Nat.not_succ_le_self _ hle

end ScriptProxy.Import.Proxy
