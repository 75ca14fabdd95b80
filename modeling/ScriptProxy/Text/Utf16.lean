/-!
# Sixteen-bit units of a text

A character beyond the first 65536 code points is written as two units, a high and a low surrogate,
and every other character as one. `ofUnits?` reads what `units` writes, and refuses a surrogate
without its partner.
-/

namespace ScriptProxy.Text.Utf16

def isHigh (u : UInt16) : Bool := 0xD800 ≤ u && u ≤ 0xDBFF

def isLow (u : UInt16) : Bool := 0xDC00 ≤ u && u ≤ 0xDFFF

/-- The units of one character. -/
def charUnits (c : Char) : List UInt16 :=
  if c.toNat < 0x10000 then [UInt16.ofNat c.toNat]
  else
    [UInt16.ofNat (0xD800 + (c.toNat - 0x10000) / 0x400),
      UInt16.ofNat (0xDC00 + (c.toNat - 0x10000) % 0x400)]

def units (s : List Char) : List UInt16 := s.flatMap charUnits

/-- The character that a high and a low surrogate stand for. -/
def paired (high low : UInt16) : Char :=
  Char.ofNat (0x10000 + (high.toNat - 0xD800) * 0x400 + (low.toNat - 0xDC00))

/-- Reads units into characters, which are put in front of those read `before` in reverse. -/
def readInto : List UInt16 → List Char → Option (List Char)
  | [], before => some before.reverse
  | [u], before =>
    if isHigh u || isLow u then none else some (Char.ofNat u.toNat :: before).reverse
  | u :: v :: rest, before =>
    if isHigh u then
      if isLow v then readInto rest (paired u v :: before) else none
    else if isLow u then none
    else readInto (v :: rest) (Char.ofNat u.toNat :: before)

/-- The characters of a list of units, if every surrogate in it has its partner. -/
def ofUnits? (us : List UInt16) : Option (List Char) := readInto us []

end ScriptProxy.Text.Utf16
