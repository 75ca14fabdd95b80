import ScriptProxy.Word

/-!
# Descriptors

A field descriptor tells the kind of a value, and a method descriptor the kinds of a method's
parameters and of its result: `(IJLjava/lang/String;)V`. `ValueKind.ofDescriptor` and
`MethodType.ofDescriptor` read them, `ValueKind.descriptor` and `MethodType.descriptor` write them.
-/

namespace ScriptProxy.ClassFile

inductive Primitive where
  | byte
  | char
  | double
  | float
  | int
  | long
  | short
  | boolean
  deriving DecidableEq, Repr

namespace Primitive

/-- The character that stands for a primitive kind. -/
def letter : Primitive → Char
  | byte => 'B'
  | char => 'C'
  | double => 'D'
  | float => 'F'
  | int => 'I'
  | long => 'J'
  | short => 'S'
  | boolean => 'Z'

def ofLetter? : Char → Option Primitive
  | 'B' => some byte
  | 'C' => some char
  | 'D' => some double
  | 'F' => some float
  | 'I' => some int
  | 'J' => some long
  | 'S' => some short
  | 'Z' => some boolean
  | _ => none

theorem ofLetter?_eq_some_iff {c : Char} {p : Primitive} : ofLetter? c = some p ↔ c = p.letter := by
  constructor
  · intro h
    unfold ofLetter? at h
    split at h <;> cases h <;> rfl
  · rintro rfl
    cases p <;> rfl

/-- The class whose objects hold a value of the kind. -/
def boxClass : Primitive → String
  | byte => "java/lang/Byte"
  | char => "java/lang/Character"
  | double => "java/lang/Double"
  | float => "java/lang/Float"
  | int => "java/lang/Integer"
  | long => "java/lang/Long"
  | short => "java/lang/Short"
  | boolean => "java/lang/Boolean"

end Primitive

/-- The kind of a parameter, a field, or a result that is not void. -/
inductive ValueKind where
  | primitive (p : Primitive)
  | object (name : String)
  | array (component : ValueKind)
  deriving DecidableEq, Repr

namespace ValueKind

/-- The most dimensions that an array kind may have. -/
def maxDimensions : Nat := 255

def chars : ValueKind → List Char
  | primitive p => [p.letter]
  | object name => 'L' :: (name.toList ++ [';'])
  | array component => '[' :: component.chars

def descriptor (k : ValueKind) : String := String.ofList k.chars

/-- The number of slots that a value of the kind takes up. -/
def slots : ValueKind → Nat
  | primitive .long | primitive .double => 2
  | _ => 1

theorem slots_le (k : ValueKind) : k.slots ≤ 2 := by
  unfold slots
  split <;> decide

def isPrimitive : ValueKind → Bool
  | primitive _ => true
  | _ => false

/-- The name under which a class constant refers to the kind. -/
def classOperand? : ValueKind → Option String
  | primitive _ => none
  | object name => some name
  | array component => some (array component).descriptor

def boxClass? : ValueKind → Option String
  | primitive p => some p.boxClass
  | _ => none

/-- The first byte of a character of a text. -/
def leadByte (c : Char) : UInt8 := (String.utf8EncodeChar c).headD 0

/-- Reads a kind that is no array from the front of a text, which is a part of the descriptor
`whole`. -/
def readElement (whole : String) : List Char → Except Defect (ValueKind × List Char)
  | [] => .error (.descriptorEnd whole)
  | c :: rest =>
    match Primitive.ofLetter? c with
    | some p => .ok (primitive p, rest)
    | none =>
      if c = 'L' then
        let name := rest.takeWhile (· != ';')
        match rest.dropWhile (· != ';') with
        | [] => .error (.openClassName whole)
        | _ :: after =>
          if name.isEmpty || name.any (fun c => c == '.' || c == '[') then
            .error (.badClassName (String.ofList name) whole)
          else .ok (object (String.ofList name), after)
      else if c = 'V' then .error (.misplacedVoid whole)
      else .error (.badDescriptorByte (leadByte c) whole)

/-- The array kind of the given number of dimensions over an element kind. -/
def arrays : Nat → ValueKind → ValueKind
  | 0, k => k
  | n + 1, k => array (arrays n k)

/-- Reads a kind from the front of a text, which is a part of the descriptor `whole`. -/
def readFront (whole : String) (cs : List Char) : Except Defect (ValueKind × List Char) :=
  let dimensions := (cs.takeWhile (· == '[')).length
  if maxDimensions < dimensions then .error (.tooManyDimensions dimensions whole)
  else
    match readElement whole (cs.dropWhile (· == '[')) with
    | .ok (k, rest) => .ok (arrays dimensions k, rest)
    | .error f => .error f

theorem length_rest_of_readElement {whole : String} {cs rest : List Char} {k : ValueKind}
    (h : readElement whole cs = .ok (k, rest)) : rest.length < cs.length := by
  unfold readElement at h
  split at h
  · cases h
  · split at h
    · cases h; simp
    · split at h
      · split at h
        · cases h
        · rename_i c tail _ _ _ _ _ after heq
          have shorter := (List.dropWhile_suffix (l := tail) (· != ';')).length_le
          rw [heq] at shorter
          dsimp only at h
          split at h
          · cases h
          · cases h
            simp only [List.length_cons] at shorter ⊢
            omega
      · split at h <;> cases h

theorem length_rest_of_readFront {whole : String} {cs rest : List Char} {k : ValueKind}
    (h : readFront whole cs = .ok (k, rest)) : rest.length < cs.length := by
  unfold readFront at h
  simp only at h
  split at h
  · cases h
  · split at h
    · next heq =>
      cases h
      exact Nat.lt_of_lt_of_le (length_rest_of_readElement heq)
        (List.dropWhile_suffix _).length_le
    · cases h

/-- The kind that a field descriptor tells. -/
def ofDescriptor (d : String) : Except Defect ValueKind := do
  let (k, rest) ← readFront d d.toList
  if rest.isEmpty then return k else .error (.descriptorTail d)

end ValueKind

inductive ReturnKind where
  | void
  | value (k : ValueKind)
  deriving DecidableEq, Repr

def ReturnKind.chars : ReturnKind → List Char
  | void => ['V']
  | value k => k.chars

def ReturnKind.descriptor (k : ReturnKind) : String := String.ofList k.chars

/-- The number of slots that a result takes up. -/
def ReturnKind.slots : ReturnKind → Nat
  | void => 0
  | value k => k.slots

theorem ReturnKind.slots_le (r : ReturnKind) : r.slots ≤ 2 := by
  cases r with
  | void => exact Nat.zero_le 2
  | value k => exact k.slots_le

/-- The kinds of a method's parameters, without a receiver, and of its result. -/
structure MethodType where
  parameters : List ValueKind
  result : ReturnKind
  deriving DecidableEq, Repr

namespace MethodType

def chars (t : MethodType) : List Char :=
  '(' :: (t.parameters.flatMap ValueKind.chars ++ ')' :: t.result.chars)

def descriptor (t : MethodType) : String := String.ofList t.chars

/-- The number of slots that the parameters take up. -/
def parameterSlots (t : MethodType) : Nat :=
  t.parameters.foldl (fun slots kind => slots + kind.slots) 0

/-- The number of slots that the parameters take up, added up in words. -/
def slotWord (t : MethodType) : Except Failure UInt16 :=
  t.parameters.foldlM (fun slots kind => Word.add slots (UInt16.ofNat kind.slots)) 0

theorem checked_bind_slots (ks : List ValueKind) (n : Nat) :
    (Word.checked n >>= fun slots =>
      ks.foldlM (fun slots kind => Word.add slots (UInt16.ofNat kind.slots)) slots) =
      Word.checked (ks.foldl (fun slots kind => slots + kind.slots) n) := by
  induction ks generalizing n with
  | nil => exact bind_pure _
  | cons k ks ih =>
    have hsum := Word.checked_bind_add n k.slots (Nat.le_trans k.slots_le (by decide))
    rw [List.foldl_cons, ← ih, ← hsum, bind_assoc]
    rfl

theorem slotWord_eq (t : MethodType) : t.slotWord = Word.checked t.parameterSlots :=
  checked_bind_slots t.parameters 0

/-- Reads kinds up to a closing parenthesis, and puts them in front of those read `before` in
reverse. -/
def readParameters (whole : String) (cs : List Char) (before : List ValueKind) :
    Except Defect (List ValueKind × List Char) :=
  match cs with
  | [] => .error (.openParameterList whole)
  | ')' :: rest => .ok (before.reverse, rest)
  | c :: cs =>
    match h : ValueKind.readFront whole (c :: cs) with
    | .ok (k, rest) =>
      have : rest.length ≤ cs.length :=
        Nat.le_of_lt_succ (ValueKind.length_rest_of_readFront h)
      readParameters whole rest (k :: before)
    | .error f => .error f
termination_by cs.length

def readResult (whole : String) (cs : List Char) : Except Defect ReturnKind := do
  if cs = ['V'] then return .void
  else
    let (k, rest) ← ValueKind.readFront whole cs
    if rest.isEmpty then return .value k else .error (.descriptorTail whole)

/-- The kinds that a method descriptor tells. -/
def ofDescriptor (d : String) : Except Defect MethodType :=
  match d.toList with
  | '(' :: cs => do
    let (parameters, rest) ← readParameters d cs []
    return ⟨parameters, ← readResult d rest⟩
  | _ => .error (.noParameterList d)

end MethodType

end ScriptProxy.ClassFile
