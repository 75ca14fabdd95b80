import Mathlib.Data.List.Forall2
import ScriptProxy.Proofs.Bytecode.Action

/-!
# A machine for straight-line method bodies

The machine runs actions on an operand stack. What the methods that it calls do is up to a `World`: it
may answer equal calls differently, by what was called before, and it may raise exceptions. What the
machine cannot do is a `Fault`: to take something off an empty stack, to read beyond the local
variables, to take one kind of value for another.
-/

namespace ScriptProxy.Bytecode

open ClassFile

variable {O : Type}

/-- A value that a method can be given or can give back. Objects that are no texts have a handle. -/
inductive Datum (O : Type) where
  | int (v : Int32)
  | long (v : Int64)
  | float (word : UInt32)
  | double (word : UInt64)
  | null
  | text (s : String)
  | object (handle : O)
  deriving DecidableEq, Repr

def Datum.category : Datum O → Category
  | int _ => .int
  | long _ => .long
  | float _ => .float
  | double _ => .double
  | null | text _ | object _ => .reference

/-- The value is of the category that the kind asks for. -/
def Datum.Fits (d : Datum O) (k : ValueKind) : Prop := d.category = Bytecode.category k

/-- The number of slots that values of the category take up. -/
def Category.slots : Category → Nat
  | long | double => 2
  | int | float | reference => 1

theorem slots_category (k : ValueKind) : (category k).slots = k.slots := by
  cases k with
  | primitive p => cases p <;> rfl
  | object | array => rfl

/-- An array that the method has made: the class that its elements are to be of, and the elements. -/
structure ObjectArray (O : Type) where
  component : String
  elements : List (Datum O)
  deriving DecidableEq, Repr

/-- What the operand stack holds: values and the places of arrays that the method has made. -/
inductive Cell (O : Type) where
  | datum (d : Datum O)
  | array (place : Nat)
  deriving DecidableEq, Repr

def Cell.category : Cell O → Category
  | datum d => d.category
  | array _ => .reference

/-- An argument of a call. An array that the method has made is passed as it is then. -/
inductive Argument (O : Type) where
  | datum (d : Datum O)
  | array (a : ObjectArray O)
  deriving DecidableEq, Repr

/-- A cell as an argument of a call. There is an array at the place of every cell. -/
def Cell.argument (arrays : List (ObjectArray O)) : Cell O → Argument O
  | datum d => .datum d
  | array place => arrays[place]?.elim (.datum .null) .array

structure Call (O : Type) where
  method : MethodSymbol
  receiver : Option (Datum O)
  arguments : List (Argument O)
  deriving DecidableEq, Repr

/-- The methods and classes outside. -/
structure World (O : Type) where
  /-- What a call gives after the calls before it: an exception or a result. -/
  answer : List (Call O) → Call O → Except (Datum O) (Datum O)
  isInstance : Datum O → String → Bool
  /-- Every object is of the class that all classes extend. -/
  isObject : ∀ {d : Datum O}, d.category = .reference → isInstance d "java/lang/Object" = true
  /-- Results are of the kinds that descriptors promise. -/
  fits : ∀ {before : List (Call O)} {call : Call O} {d : Datum O} {t : MethodType} {k : ValueKind},
    answer before call = .ok d → MethodType.ofDescriptor call.method.descriptor = .ok t →
      t.result = .value k → d.Fits k

/-- The value may stand where an object of the class is asked for. -/
def World.admits (w : World O) (name : String) : Datum O → Bool
  | .null => true
  | d => w.isInstance d name

theorem World.admits_object (w : World O) {d : Datum O} (hd : d.category = .reference) :
    w.admits "java/lang/Object" d = true := by
  cases d with
  | null => rfl
  | _ => exact w.isObject hd

/-- What a method throws. -/
inductive Thrown (O : Type) where
  /-- An exception that a called method has raised. -/
  | raised (exception : Datum O)
  | badCast (d : Datum O) (name : String)
  /-- An array is to hold something that is not of the class of its elements. -/
  | badElement (d : Datum O) (component : String)
  | nullReceiver (method : MethodSymbol)
  | badPosition (position : Int32)
  | badLength (length : Int32)
  deriving DecidableEq, Repr

inductive Fault where
  | emptyStack
  | beyondLocals
  | badLocal
  | badOperand
  | badCall
  | unknownInstruction
  | endOfCode
  deriving DecidableEq, Repr

/-- How a run ends. -/
inductive Ending (O : Type) where
  | returned (result : Option (Datum O))
  | threw (t : Thrown O)
  | fault (f : Fault)
  deriving DecidableEq, Repr

/-- What a method cannot change: its local variables, where a wide one leaves its second slot empty,
and how many slots it may use. -/
structure Frame (O : Type) where
  locals : List (Option (Datum O))
  size : Nat

structure State (O : Type) where
  stack : List (Cell O)
  arrays : List (ObjectArray O)
  log : List (Call O)

/-- The end of a run and the calls made by then. -/
abbrev Trace (O : Type) := Ending O × List (Call O)

/-- The integer that is left of one when it is cut down to a kind, with the sign that this has. -/
def cutDown : Primitive → Int32 → Int32
  | .byte, v => v.toInt8.toInt32
  | .char, v => v.toUInt32.toUInt16.toUInt32.toInt32
  | .short, v => v.toInt16.toInt32
  | _, v => v

namespace State
variable (w : World O) (f : Frame O) (s : State O)

def fault (x : Fault) : Except (Trace O) (State O) := .error (.fault x, s.log)

def throw (t : Thrown O) : Except (Trace O) (State O) := .error (.threw t, s.log)

def push (c : Cell O) : Except (Trace O) (State O) := .ok { s with stack := c :: s.stack }

/-- Takes cells of so many slots off the stack. -/
def drop : Nat → List (Cell O) → Except Fault (List (Cell O))
  | 0, cells => .ok cells
  | _ + 1, [] => .error .emptyStack
  | n + 1, c :: cells =>
    if c.category.slots = 1 then drop n cells
    else match n with
      | 0 => .error .badOperand
      | n + 1 => drop n cells

/-- Makes a call and puts its result on what is left of the stack. -/
def makeCall (result : ReturnKind) (below : List (Cell O)) (call : Call O) :
    Except (Trace O) (State O) :=
  let log := s.log ++ [call]
  match w.answer s.log call, result with
  | .error e, _ => .error (.threw (.raised e), log)
  | .ok _, .void => .ok { s with stack := below, log }
  | .ok d, .value _ => .ok { s with stack := .datum d :: below, log }

/-- Takes arguments and a receiver off the stack and makes the call. -/
def call (onReceiver : Bool) (m : MethodSymbol) (t : MethodType) : Except (Trace O) (State O) :=
  let n := t.parameters.length
  let cells := (s.stack.take n).reverse
  if cells.length < n then s.fault .emptyStack
  else if cells.map Cell.category ≠ t.parameters.map category then s.fault .badOperand
  else if onReceiver then
    match s.stack.drop n with
    | [] => s.fault .emptyStack
    | .datum .null :: _ => s.throw (.nullReceiver m)
    | .datum d :: below =>
      if d.category = .reference then
        makeCall w s t.result below ⟨m, some d, cells.map (Cell.argument s.arrays)⟩
      else s.fault .badOperand
    | .array _ :: _ => s.fault .badOperand
  else makeCall w s t.result (s.stack.drop n) ⟨m, none, cells.map (Cell.argument s.arrays)⟩

/-- The state after an action, or the trace of the run if it ends there. -/
def perform : Action → Except (Trace O) (State O)
  | .null => s.push (.datum .null)
  | .int v => s.push (.datum (.int v))
  | .text t => s.push (.datum (.text t))
  | .load c slot =>
    if f.size < slot + c.slots then s.fault .beyondLocals
    else match f.locals[slot]? with
      | some (some d) => if d.category = c then s.push (.datum d) else s.fault .badLocal
      | _ => s.fault .badLocal
  | .store =>
    match s.stack with
    | .datum d :: .datum (.int i) :: .array place :: below =>
      match s.arrays[place]? with
      | none => s.fault .badOperand
      | some a =>
        if d.category ≠ .reference then s.fault .badOperand
        else if ¬ (0 ≤ i.toInt ∧ i.toInt < a.elements.length) then s.throw (.badPosition i)
        else if w.admits a.component d = false then s.throw (.badElement d a.component)
        else .ok { s with
          stack := below
          arrays := s.arrays.set place { a with elements := a.elements.set i.toInt.toNat d } }
    | _ :: _ :: _ :: _ => s.fault .badOperand
    | _ => s.fault .emptyStack
  | .duplicate =>
    match s.stack with
    | [] => s.fault .emptyStack
    | c :: _ => if c.category.slots = 1 then s.push c else s.fault .badOperand
  | .drop n =>
    match drop n s.stack with
    | .ok stack => .ok { s with stack }
    | .error x => s.fault x
  | .cut k =>
    match s.stack with
    | [] => s.fault .emptyStack
    | .datum (.int v) :: below => .ok { s with stack := .datum (.int (cutDown k v)) :: below }
    | _ => s.fault .badOperand
  | .newArray name =>
    match s.stack with
    | [] => s.fault .emptyStack
    | .datum (.int n) :: below =>
      if n.toInt < 0 then s.throw (.badLength n)
      else .ok { s with
        stack := .array s.arrays.length :: below
        arrays := s.arrays ++ [⟨name, List.replicate n.toInt.toNat .null⟩] }
    | _ => s.fault .badOperand
  | .cast name =>
    match s.stack with
    | [] => s.fault .emptyStack
    | .datum .null :: _ => .ok s
    | .datum d :: _ =>
      if d.category ≠ .reference then s.fault .badOperand
      else if w.isInstance d name then .ok s
      else s.throw (.badCast d name)
    | .array _ :: _ => s.fault .badOperand
  | .call onReceiver m =>
    match MethodType.ofDescriptor m.descriptor with
    | .ok t => s.call w onReceiver m t
    | .error _ => s.fault .badCall
  | .giveBack none => .error (.returned none, s.log)
  | .giveBack (some c) =>
    match s.stack with
    | [] => s.fault .emptyStack
    | .datum d :: _ => if d.category = c then .error (.returned (some d), s.log) else s.fault .badOperand
    | .array _ :: _ => s.fault .badOperand

end State

section
variable (w : World O) (f : Frame O)

/-- Runs actions until one of them ends the run. -/
def run : List Action → State O → Trace O
  | [], s => (.fault .endOfCode, s.log)
  | a :: rest, s =>
    match s.perform w f a with
    | .ok s => run rest s
    | .error trace => trace

/-- Runs the instructions of a method, with their constants looked up in a pool. -/
def execute (p : Pool) : List Instruction → State O → Trace O
  | [], s => (.fault .endOfCode, s.log)
  | i :: rest, s =>
    match Unplaced.action? p ⟨i.opcode, i.operands⟩ with
    | none => (.fault .unknownInstruction, s.log)
    | some a =>
      match s.perform w f a with
      | .ok s => execute p rest s
      | .error trace => trace

variable {w f} {s s' : State O} {a : Action} {rest : List Action}

theorem run_cons_of_ok (h : s.perform w f a = .ok s') : run w f (a :: rest) s = run w f rest s' := by
  rw [run, h]

theorem run_cons_of_error {t : Trace O} (h : s.perform w f a = .error t) :
    run w f (a :: rest) s = t := by
  rw [run, h]

/-- Instructions run as the actions that they stand for. -/
theorem execute_placed {p : Pool} {us : List Unplaced} {as : List Action}
    (h : List.Forall₂ (fun u a => u.action? p = some a) us as) (offset : Nat) (s : State O) :
    execute w f p (placed offset us) s = run w f as s := by
  induction h generalizing offset s with
  | nil => rfl
  | cons hu _ ih =>
    rw [placed, execute, run, hu]
    dsimp only
    split
    · exact ih _ _
    · rfl

end

/-! ### Conversations with the world

A run can be told without a machine, as the calls that it makes and what becomes of their results.
-/

/-- A computation that makes calls and may end with an exception. -/
abbrev Talk (O : Type) := EStateM (Thrown O) (List (Call O))

/-- Makes a call. -/
def ask (w : World O) (call : Call O) : Talk O (Datum O) := fun log =>
  match w.answer log call with
  | .ok d => .ok d (log ++ [call])
  | .error e => .error (.raised e) (log ++ [call])

/-- The object itself, if it is null or of the class. -/
def castTo (w : World O) (name : String) : Datum O → Talk O (Datum O)
  | .null => pure .null
  | d => if w.isInstance d name then pure d else throw (.badCast d name)

section
variable {α β : Type}

/-- What becomes of a run after a part of it. -/
def follow (out : EStateM.Result (Thrown O) (List (Call O)) α) (k : α → List (Call O) → Trace O) :
    Trace O :=
  match out with
  | .ok a log => k a log
  | .error t log => (.threw t, log)

theorem follow_bind (x : Talk O α) (g : α → Talk O β) (log : List (Call O))
    (k : β → List (Call O) → Trace O) :
    follow ((x >>= g) log) k = follow (x log) fun a log => follow (g a log) k := by
  show follow (EStateM.bind x g log) k = _
  unfold EStateM.bind
  cases x log <;> rfl

theorem follow_map (g : α → β) (x : Talk O α) (log : List (Call O))
    (k : β → List (Call O) → Trace O) :
    follow ((g <$> x) log) k = follow (x log) fun a log => k (g a) log := by
  show follow (EStateM.map g x log) k = _
  unfold EStateM.map
  cases x log <;> rfl

theorem follow_congr {out : EStateM.Result (Thrown O) (List (Call O)) α}
    {k k' : α → List (Call O) → Trace O} (h : ∀ a log, out = .ok a log → k a log = k' a log) :
    follow out k = follow out k' := by
  cases out with
  | ok a log => exact h a log rfl
  | error t log => rfl

end

section
variable {w : World O} {f : Frame O} {rest : List Action} {below : List (Cell O)}
  {arrays : List (ObjectArray O)} {log : List (Call O)} {m : MethodSymbol} {t : MethodType}
  {k : ValueKind} {d : Datum O}

attribute [local simp] run State.perform State.call

theorem fits_of_ask {call : Call O} {d : Datum O} {log' : List (Call O)}
    (h : ask w call log = .ok d log') (ht : MethodType.ofDescriptor call.method.descriptor = .ok t)
    (hk : t.result = .value k) : d.Fits k := by
  unfold ask at h
  split at h
  · next hans =>
    cases h
    exact w.fits hans ht hk
  · cases h

theorem run_cast (name : String) (hd : d.category = .reference) :
    run w f (.cast name :: rest) ⟨.datum d :: below, arrays, log⟩ =
      follow (castTo w name d log) fun d log => run w f rest ⟨.datum d :: below, arrays, log⟩ := by
  cases d with
  | int | long | float | double => cases hd
  | null => rfl
  | text s =>
    cases hi : w.isInstance (.text s) name <;>
      simp [castTo, hi, Datum.category] <;> rfl
  | object o =>
    cases hi : w.isInstance (.object o) name <;>
      simp [castTo, hi, Datum.category] <;> rfl

theorem castTo_eq_ok {name : String} {d' : Datum O} {log' : List (Call O)}
    (h : castTo w name d log = .ok d' log') : d' = d ∧ log' = log := by
  unfold castTo at h
  split at h
  · cases h
    exact ⟨rfl, rfl⟩
  · split at h
    · cases h
      exact ⟨rfl, rfl⟩
    · cases h

theorem run_makeCall {s : State O} {a : Action} {call : Call O} (hk : t.result = .value k)
    (h : s.perform w f a = s.makeCall w t.result below call) :
    run w f (a :: rest) s =
      follow (ask w call s.log) fun d log => run w f rest ⟨.datum d :: below, s.arrays, log⟩ := by
  rw [run, h, hk]
  unfold State.makeCall ask
  cases w.answer s.log call <;> rfl

/-- A call of a static method that gives a value. -/
theorem run_static (cells below : List (Cell O))
    (ht : MethodType.ofDescriptor m.descriptor = .ok t) (hk : t.result = .value k)
    (hcells : cells.map Cell.category = t.parameters.map category) :
    run w f (.call false m :: rest) ⟨cells.reverse ++ below, arrays, log⟩ =
      follow (ask w ⟨m, none, cells.map (Cell.argument arrays)⟩ log)
        fun d log => run w f rest ⟨.datum d :: below, arrays, log⟩ := by
  refine run_makeCall hk ?_
  have hl : t.parameters.length = cells.reverse.length := by
    simpa using (congrArg List.length hcells).symm
  simp [ht, hl, hcells]

/-- A call without arguments of a method of the object on top. -/
theorem run_virtual (ht : MethodType.ofDescriptor m.descriptor = .ok t) (hk : t.result = .value k)
    (hp : t.parameters = []) (hd : d.category = .reference) (hnull : d ≠ .null) :
    run w f (.call true m :: rest) ⟨.datum d :: below, arrays, log⟩ =
      follow (ask w ⟨m, some d, []⟩ log)
        fun d log => run w f rest ⟨.datum d :: below, arrays, log⟩ := by
  refine run_makeCall hk ?_
  cases d with
  | int | long | float | double => cases hd
  | null => exact absurd rfl hnull
  | text | object => simp [ht, hp, Datum.category]

/-- A call of a method of null. -/
theorem run_virtual_null (ht : MethodType.ofDescriptor m.descriptor = .ok t)
    (hp : t.parameters = []) :
    run w f (.call true m :: rest) ⟨.datum .null :: below, arrays, log⟩ =
      (.threw (.nullReceiver m), log) :=
  run_cons_of_error (by simp [ht, hp, State.throw])

end

end ScriptProxy.Bytecode
