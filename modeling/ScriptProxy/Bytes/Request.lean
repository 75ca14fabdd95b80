import ScriptProxy.Bytes.Cursor

/-!
# Requests to a cursor

What a cursor can be asked for: to move on, a number, as many bytes as the caller says, or as many as
a count in front of them says. Positions and lengths are words of 64 bits here. As long as their sum is
one too, `bytes_eq_block` gives a request in terms of `Read.block`, whose lengths are exact; otherwise
it breaks off (`bytes_of_size_le`, `advance_of_size_le`). A step ends as a read of as many bytes does
(`advance_eq_bytes`).
-/

namespace ScriptProxy

/-- The types of number that are stored in big-endian order. -/
inductive NumberType where
  | u8 | i8 | u16 | i16 | u32 | i32 | u64 | i64 | f32 | f64
  deriving DecidableEq, Repr

namespace NumberType

/-- The number of bytes that a number takes. -/
def width : NumberType → UInt64
  | u8 | i8 => 1
  | u16 | i16 => 2
  | u32 | i32 | f32 => 4
  | u64 | i64 | f64 => 8

def isSigned : NumberType → Bool
  | i8 | i16 | i32 | i64 => true
  | _ => false

/-- The number that some bytes stand for. That of a floating point number is made of its bits. -/
def value (t : NumberType) (bs : Bytes) : Int :=
  let n := BigEndian.value bs
  if t.isSigned then Int.bmod n (Nat.pow 256 bs.length) else n

theorem width_le (t : NumberType) : t.width.toNat ≤ 8 := by
  cases t <;> decide

theorem value_of_unsigned {t : NumberType} (h : t.isSigned = false) (bs : Bytes) :
    t.value bs = BigEndian.value bs := by
  simp [value, h]

end NumberType

namespace Read
variable {c : Cursor} {count step : UInt64}

/-- The next number of a type. -/
def ofType (t : NumberType) : Read Int := t.value <$> bytes t.width

/-- As many bytes as the number before them says. -/
def counted (t : NumberType) : Read Bytes := do bytes (UInt64.ofNat (← ofType t).toNat)

theorem bytes_eq_block (h : c.pos + count.toNat < UInt64.size) :
    bytes count c = block count.toNat c :=
  if_neg (Nat.not_le.2 h)

theorem bytes_of_size_le (h : UInt64.size ≤ c.pos + count.toNat) :
    bytes count c = .error .addOverflow c :=
  if_pos h

theorem advance_of_size_le (h : UInt64.size ≤ c.pos + step.toNat) :
    advance step c = .error .addOverflow c :=
  if_pos h

theorem advance_eq_bytes (step : UInt64) (c : Cursor) :
    advance step c = ((fun _ => ()) <$> bytes step) c := by
  show _ = EStateM.map _ _ _
  unfold EStateM.map advance bytes block
  by_cases hsum : UInt64.size ≤ c.pos + step.toNat
  · simp [hsum]
  · by_cases hle : c.pos + step.toNat ≤ c.data.size
    · simp [hsum, hle]
    · simp [hsum, hle]

end Read

namespace Cursor

inductive Request where
  | advance (step : UInt64)
  | number (type : NumberType)
  | bytes (count : UInt64)
  /-- Bytes behind a count of two bytes. -/
  | shortBlock
  /-- Bytes behind a count of four bytes. -/
  | longBlock
  deriving DecidableEq, Repr

inductive Answer where
  | moved
  | number (n : Int)
  | bytes (bs : Bytes)

/-- Asks for what is requested. -/
def Request.perform : Request → Read Answer
  | advance step => (fun _ => .moved) <$> Read.advance step
  | number t => .number <$> Read.ofType t
  | bytes count => .bytes <$> Read.bytes count
  | shortBlock => .bytes <$> Read.counted .u16
  | longBlock => .bytes <$> Read.counted .u32

end Cursor

end ScriptProxy
