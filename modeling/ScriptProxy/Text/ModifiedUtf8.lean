import ScriptProxy.Failure
import ScriptProxy.Text.Utf16

/-!
# Modified UTF-8

The form in which class files keep texts: each sixteen-bit unit of the text is written for itself,
in one byte from 1 to 0x7F, in two bytes for 0 and from 0x80 to 0x7FF, and in three bytes otherwise.
So no byte is zero, and a character beyond the first 65536 takes six bytes.

Reading accepts longer forms of a unit than the one that is written.
-/

namespace ScriptProxy.Text.ModifiedUtf8

/-- The byte that continues a unit with its six bits from `shift` on. -/
def continuation (u : UInt16) (shift : UInt16) : UInt8 := 0x80 ||| (u >>> shift &&& 0x3F).toUInt8

/-- The bytes of one unit. -/
def encodeUnit (u : UInt16) : Bytes :=
  if 0x01 ≤ u && u ≤ 0x7F then [u.toUInt8]
  else if u ≤ 0x7FF then [(0xC0 : UInt8) ||| (u >>> 6).toUInt8, continuation u 0]
  else [(0xE0 : UInt8) ||| (u >>> 12).toUInt8, continuation u 6, continuation u 0]

def encode (s : String) : Bytes := (Utf16.units s.toList).flatMap encodeUnit

/-- Whether a byte continues a unit. -/
def isContinuation (b : UInt8) : Bool := b &&& 0xC0 == 0x80

/-- The unit of a two-byte group. -/
def pairUnit (a b : UInt8) : UInt16 := (a &&& 0x1F).toUInt16 <<< 6 ||| (b &&& 0x3F).toUInt16

/-- The unit of a three-byte group. -/
def tripleUnit (a b c : UInt8) : UInt16 :=
  (a &&& 0x0F).toUInt16 <<< 12 ||| (b &&& 0x3F).toUInt16 <<< 6 ||| (c &&& 0x3F).toUInt16

/-- Reads bytes into units, which are put in front of those read `before` in reverse. -/
def readInto : Bytes → List UInt16 → Except Failure (List UInt16)
  | [], before => .ok before.reverse
  | a :: rest, before =>
    if a &&& 0x80 == 0 then
      if a == 0 then Defect.rawNul.fail else readInto rest (a.toUInt16 :: before)
    else if a &&& 0xE0 == 0xC0 then
      match rest with
      | b :: rest =>
        if isContinuation b then readInto rest (pairUnit a b :: before)
        else (Defect.badContinuation b).fail
      | [] => Defect.truncatedPair.fail
    else if a &&& 0xF0 == 0xE0 then
      match rest with
      | b :: c :: rest =>
        if isContinuation b && isContinuation c then readInto rest (tripleUnit a b c :: before)
        else Defect.badContinuations.fail
      | _ => Defect.truncatedTriple.fail
    else (Defect.badLeadByte a).fail

/-- Whether a byte stands for a character of its own in ASCII, other than NUL. -/
def isPlain (b : UInt8) : Bool := b != 0 && b < 0x80

/-- The text of a byte string. Bytes that are all plain are their own characters. -/
def decode (bs : Bytes) : Except Failure String :=
  if bs.all isPlain then .ok (String.ofList (bs.map Char.ofUInt8))
  else do
    match Utf16.ofUnits? (← readInto bs []) with
    | some cs => .ok (String.ofList cs)
    | none => Defect.unpairedSurrogate.fail

end ScriptProxy.Text.ModifiedUtf8
