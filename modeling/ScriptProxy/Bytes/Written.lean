import ScriptProxy.Failure

/-!
# Writing numbers, counts and lists

The parts from which the written forms of class files are put together.
-/

namespace ScriptProxy.Written

def word16 (w : UInt16) : Bytes := BigEndian.digits 2 w.toNat

def word32 (w : UInt32) : Bytes := BigEndian.digits 4 w.toNat

def word64 (w : UInt64) : Bytes := BigEndian.digits 8 w.toNat

/-- A count of two bytes. Larger ones are refused as the given defect. -/
def count16 (n : Nat) (tooLarge : Defect) : Except Failure Bytes :=
  if n ≤ 65535 then .ok (BigEndian.digits 2 n) else tooLarge.fail

/-- A count of four bytes. Larger ones are refused as the given defect. -/
def count32 (n : Nat) (tooLarge : Defect) : Except Failure Bytes :=
  if n < UInt32.size then .ok (BigEndian.digits 4 n) else tooLarge.fail

/-- The written forms of all elements, one after the other. -/
def all {α : Type} (write : α → Except Failure Bytes) (xs : List α) : Except Failure Bytes :=
  List.flatten <$> xs.mapM write

/-- A count of two bytes and the written forms of that many elements. -/
def table {α : Type} (tooLarge : Nat → Defect) (write : α → Except Failure Bytes) (xs : List α) :
    Except Failure Bytes := do
  let count ← count16 xs.length (tooLarge xs.length)
  return count ++ (← all write xs)

end ScriptProxy.Written
