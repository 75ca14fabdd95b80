import ScriptProxy.Text.Unprintable

/-!
# Quoted text

How messages show a text or a character: between quotes, with the quote, the backslash and a few
controls behind a backslash, and every other unprintable character as its code point.
-/

namespace ScriptProxy.Text

/-- The lower-case hexadecimal numeral of `n`. -/
def hexNumeral (n : Nat) : String := String.ofList (Nat.toDigits 16 n)

/-- The written form of one character between quotes of the kind `quote`. -/
def escaped (quote : Char) (c : Char) : List Char :=
  if c = '\x00' then ['\\', '0']
  else if c = '\t' then ['\\', 't']
  else if c = '\r' then ['\\', 'r']
  else if c = '\n' then ['\\', 'n']
  else if c = '\\' then ['\\', '\\']
  else if c = quote then ['\\', quote]
  else if isUnprintable c then
    ['\\', 'u', '\x7b'] ++ Nat.toDigits 16 c.toNat ++ ['\x7d']
  else [c]

/-- A text between double quotes. -/
def quoted (s : String) : String :=
  String.ofList ('"' :: s.toList.flatMap (escaped '"') ++ ['"'])

/-- A character between single quotes. -/
def quotedChar (c : Char) : String :=
  String.ofList ('\x27' :: escaped '\x27' c ++ ['\x27'])

end ScriptProxy.Text
