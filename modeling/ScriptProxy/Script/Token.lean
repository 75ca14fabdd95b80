import ScriptProxy.Script.NumberText
import ScriptProxy.Text.NameCharacter

/-!
# Tokens of a script

`lexemes` splits the text of a script into numbers, strings, words and marks, each with its place in
the text. Blanks and comments stand between them, and the comment marks of pages are comments up to
the end of their line as well. What is no token ends the list as a fault, so that it is only met by
a reader that comes so far. The fuel of the functions here is the length of the text.
-/

namespace ScriptProxy.Script

inductive Token where
  | number (n : Number)
  | string (s : String)
  | word (w : String)
  | mark (m : String)
  /-- A place where there is no token, with the message that says so. -/
  | fault (message : String)
  deriving DecidableEq, Repr

/-- A token in its place. -/
structure Lexeme where
  token : Token
  /-- Whether the token is the first one of its line. -/
  startsLine : Bool
  /-- The script from the token on. -/
  text : List Char
  /-- The script behind the token. -/
  rest : List Char

namespace Token

/-- How messages name a token. -/
def describe : Token → String
  | number n => n.text
  | string _ => "string"
  | word w => w
  | mark m => m
  | fault message => message

/-- The character that is written as a backslash and a letter. -/
def escaped (c : Char) : Char :=
  if c = 'n' then '\n' else if c = 't' then '\t' else if c = 'r' then '\r'
  else if c = 'b' then '\x08' else if c = 'f' then '\x0c' else if c = 'v' then '\x0b'
  else if c = '0' then '\x00' else c

/-- The character that hexadecimal digits stand for. -/
def ofHexDigits? (digits : List Char) : Option Char :=
  let n := Number.numeral 16 digits
  if h : digits.all (Number.isDigitOf 16) ∧ n.isValidChar then some (Char.ofNatAux n h.2) else none

/-- The text up to a quote, and the rest behind the quote. It stands in one line. -/
def readString (quote : Char) : (before : List Char) → List Char →
    Except String (String × List Char)
  | _, [] => .error "unexpected end of string"
  | before, '\\' :: 'x' :: a :: b :: cs =>
    match ofHexDigits? [a, b] with
    | some c => readString quote (c :: before) cs
    | none => .error "malformed escape sequence in string literal"
  | before, '\\' :: 'u' :: a :: b :: c :: d :: cs =>
    match ofHexDigits? [a, b, c, d] with
    | some c => readString quote (c :: before) cs
    | none => .error "malformed escape sequence in string literal"
  | before, '\\' :: c :: cs =>
    readString quote (if Text.endsLine c then before else escaped c :: before) cs
  | before, c :: cs =>
    if c = quote then .ok (String.ofList before.reverse, cs)
    else if c = '\n' ∨ c = '\r' then .error "unexpected end of string"
    else readString quote (c :: before) cs

/-- The marks, of which the longer ones come first. -/
def marks : List String :=
  ["===", "...", "=>", "(", ")", "\x7b", "\x7d", "[", "]", ",", ";", ":", ".", "=", "+", "-", "*"]

/-- Whether a text goes on with a character of names. -/
def continuesName : List Char → Bool
  | c :: _ => Text.isNamePart c
  | [] => false

/-- Whether a text begins with a digit, or with a point and a digit. -/
def beginsNumber : List Char → Bool
  | '.' :: c :: _ => c.isDigit
  | c :: _ => c.isDigit
  | [] => false

/-- The number at the beginning of a text. It ends where no name goes on, and its first zero is the
only one in front of other digits. -/
def readNumber (cs : List Char) : Token × List Char :=
  match cs with
  | '0' :: c :: _ =>
    if c.isDigit then (fault "octal literals are deprecated in strict mode", []) else ofRead
  | _ => ofRead
where
  ofRead : Token × List Char :=
    match Number.read? cs with
    | some (n, rest) =>
      if continuesName rest then (fault "invalid number literal", []) else (number n, rest)
    | none => (fault "invalid number literal", [])

/-- The token at the beginning of a text that is not empty, and the rest behind it. -/
def read (c : Char) (cs : List Char) : Token × List Char :=
  if beginsNumber (c :: cs) then readNumber (c :: cs)
  else if c = '"' ∨ c = '\x27' then
    match readString c [] cs with
    | .ok (s, rest) => (string s, rest)
    | .error message => (fault message, [])
  else if Text.isNameStart c then
    (word (String.ofList (c :: cs.takeWhile Text.isNamePart)), cs.dropWhile Text.isNamePart)
  else match marks.find? (·.toList.isPrefixOf (c :: cs)) with
    | some m => (mark m, (c :: cs).drop m.length)
    | none => (fault "unexpected character", [])

end Token

/-- The text behind a comment that ends with `*/`, and whether it goes over the end of a line. -/
def behindComment (endsLine : Bool) : List Char → Option (Bool × List Char)
  | '*' :: '/' :: cs => some (endsLine, cs)
  | c :: cs => behindComment (endsLine || Text.endsLine c) cs
  | [] => none

/-- The tokens of a text. The first of them starts a line if the text before it ends one. -/
def lexemesWithin : (fuel : Nat) → (startsLine : Bool) → List Char → List Lexeme
  | 0, _, _ => []
  | fuel + 1, startsLine, text =>
    let startsLine := startsLine || (text.takeWhile Text.isScriptBlank).any Text.endsLine
    match text.dropWhile Text.isScriptBlank with
    | [] => []
    | '/' :: '/' :: cs | '<' :: '!' :: '-' :: '-' :: cs =>
      lexemesWithin fuel startsLine (cs.dropWhile (!Text.endsLine ·))
    | '/' :: '*' :: cs =>
      match behindComment startsLine cs with
      | some (startsLine, cs) => lexemesWithin fuel startsLine cs
      | none => [⟨.fault "unexpected end of comment", startsLine, '/' :: '*' :: cs, []⟩]
    | c :: cs =>
      if startsLine && "-->".toList.isPrefixOf (c :: cs) then
        lexemesWithin fuel true (cs.dropWhile (!Text.endsLine ·))
      else
        let (t, rest) := Token.read c cs
        ⟨t, startsLine, c :: cs, rest⟩ :: lexemesWithin fuel false rest

/-- The tokens of a text. -/
def lexemes (text : String) : List Lexeme := lexemesWithin (text.length + 1) true text.toList

end ScriptProxy.Script
