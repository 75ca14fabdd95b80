import ScriptProxy.Script.Number
import ScriptProxy.Text.Blank

/-!
# Numbers in writing

`Number.read?` finds the number at the beginning of a text, and `Number.ofText` is what a whole text
counts for as a number. A number is decimal, or has a mark of its base in front. Only a decimal
number may have a sign in a text, and the sign is no part of a number at the beginning of one.
-/

namespace ScriptProxy.Script.Number

/-- What a character counts for as a digit. One that is no digit counts for more than any base. -/
def digitValue (c : Char) : Nat :=
  if c.isDigit then c.toNat - '0'.toNat
  else if c.isLower then c.toNat - 'a'.toNat + 10
  else if c.isUpper then c.toNat - 'A'.toNat + 10
  else 36

def isDigitOf (base : Nat) (c : Char) : Bool := digitValue c < base

/-- The number that digits write in a base. -/
def numeral (base : Nat) (digits : List Char) : Nat :=
  digits.foldl (fun n c => base * n + digitValue c) 0

/-- The base that a letter behind a zero stands for. -/
def markedBase? (c : Char) : Option Nat :=
  if c = 'x' ∨ c = 'X' then some 16
  else if c = 'o' ∨ c = 'O' then some 8
  else if c = 'b' ∨ c = 'B' then some 2
  else none

/-- The digits that decide which double is the nearest to a decimal number, and how many more there
were. Behind the first 800 it only matters whether any of them is not zero. -/
def decidingDigits (digits : List Char) : List Char × Nat :=
  let digits := digits.dropWhile (· = '0')
  let rest := digits.drop 800
  if rest.isEmpty then (digits, 0)
  else (digits.take 800 ++ [if rest.all (· = '0') then '0' else '1'], rest.length - 1)

/-- The number nearest to `digits · 10 ^ exponent`. -/
def ofDecimalDigits (digits : List Char) (exponent : Int) : Number :=
  let (digits, more) := decidingDigits digits
  ofDouble (.ofDecimal (numeral 10 digits) (exponent + more))

/-- The largest number to which a digit of a base can be added without leaving 64 bits. -/
def leadingBound (base : Nat) : Nat := (18446744073709551616 - base) / base

/-- One more digit behind a leading number and the digits that were left behind it. -/
def appendDigit (base : Nat) (read : Nat × Nat) (c : Char) : Nat × Nat :=
  if read.1 ≤ leadingBound base then (base * read.1 + digitValue c, read.2)
  else (read.1, read.2 + 1)

/-- The number that the first digits write in a base, as many of them as 64 bits have room for, and
how many digits are left behind them. -/
def leadingNumeral (base : Nat) (digits : List Char) : Nat × Nat :=
  digits.foldl (appendDigit base) (0, 0)

/-- The digits left behind a leading number only become more. -/
theorem le_foldl_appendDigit (base : Nat) (digits : List Char) (read : Nat × Nat) :
    read.2 ≤ (digits.foldl (appendDigit base) read).2 := by
  induction digits generalizing read with
  | nil => exact Nat.le_refl _
  | cons c cs ih =>
    refine Nat.le_trans ?_ (ih _)
    unfold appendDigit
    split <;> simp

/-- A leading number with no digit left behind it is the whole number. -/
theorem leadingNumeral_fst {base : Nat} {digits : List Char}
    (h : (leadingNumeral base digits).2 = 0) :
    (leadingNumeral base digits).1 = numeral base digits := by
  suffices ∀ read : Nat × Nat, (digits.foldl (appendDigit base) read).2 = 0 →
      (digits.foldl (appendDigit base) read).1 =
        digits.foldl (fun n c => base * n + digitValue c) read.1 from this _ h
  clear h
  induction digits with
  | nil => intros; rfl
  | cons c cs ih =>
    intro read h
    rw [List.foldl_cons] at h ⊢
    by_cases room : read.1 ≤ leadingBound base
    · rw [ih _ h, List.foldl_cons, appendDigit, if_pos room]
    · have := le_foldl_appendDigit base cs (appendDigit base read c)
      rw [h, appendDigit, if_neg room] at this
      exact absurd this (by simp)

/-- The number that digits write in a base. A decimal one is the nearest. In any other base what
64 bits have room for is rounded on its own, and the digits behind it count for as many zeros. -/
def ofDigits (base : Nat) (digits : List Char) : Number :=
  if base = 10 then ofDecimalDigits digits 0
  else
    let (leading, more) := leadingNumeral base digits
    let leading := ofDouble (.ofDecimal leading 0)
    if more = 0 then leading
    else .ofFloat (leading.toFloat * (Float.ofNat base).pow (.ofNat more))

/-- The number with a mark of its base at the beginning of a text, and the rest behind it. -/
def readMarked? : List Char → Option (Number × List Char)
  | '0' :: mark :: cs => do
    let base ← markedBase? mark
    let digits := cs.takeWhile (isDigitOf base)
    if digits.isEmpty then none
    else some (ofDigits base digits, cs.dropWhile (isDigitOf base))
  | _ => none

/-- The size of an exponent. If it has too many digits to matter they are not read. -/
def exponentSize (digits : List Char) : Nat :=
  let digits := digits.dropWhile (· = '0')
  if 9 < digits.length then 1000000000 else numeral 10 digits

/-- The exponent of a decimal number, and the rest behind it. There is none unless digits follow its
`e`. -/
def readExponent : List Char → Int × List Char
  | e :: cs =>
    let (negative, digits) := match cs with
      | '+' :: cs => (false, cs)
      | '-' :: cs => (true, cs)
      | cs => (false, cs)
    let found := digits.takeWhile Char.isDigit
    if (e = 'e' ∨ e = 'E') ∧ !found.isEmpty then
      (if negative then -(exponentSize found : Int) else exponentSize found,
        digits.dropWhile Char.isDigit)
    else (0, e :: cs)
  | [] => (0, [])

/-- The decimal number at the beginning of a text, and the rest behind it. It has a digit in front
of its point or behind it. -/
def readDecimal? (cs : List Char) : Option (Number × List Char) :=
  let whole := cs.takeWhile Char.isDigit
  let (fraction, rest) := match cs.dropWhile Char.isDigit with
    | '.' :: cs => (cs.takeWhile Char.isDigit, cs.dropWhile Char.isDigit)
    | cs => ([], cs)
  if whole.isEmpty && fraction.isEmpty then none
  else
    let (exponent, rest) := readExponent rest
    some (ofDecimalDigits (whole ++ fraction) (exponent - fraction.length), rest)

/-- The number at the beginning of a text, and the rest behind it. -/
def read? (cs : List Char) : Option (Number × List Char) := readMarked? cs <|> readDecimal? cs

/-- The number that a text without a sign and a mark writes. -/
def ofUnsigned (cs : List Char) : Number :=
  if cs = "Infinity".toList then double .infinity
  else match readDecimal? cs with
    | some (n, []) => n
    | _ => double .nan

/-- The number that a text stands for. A text of blanks stands for zero. -/
def ofText (s : String) : Number :=
  let inner := (s.toList.dropWhile Text.isScriptBlank).reverse.dropWhile Text.isScriptBlank
  match inner.reverse with
  | [] => int 0
  | '+' :: cs => ofUnsigned cs
  | '-' :: cs => ofDouble (.ofFloat (-(ofUnsigned cs).toFloat))
  | cs =>
    match readMarked? cs with
    | some (n, []) => n
    | some _ => double .nan
    | none => ofUnsigned cs

end ScriptProxy.Script.Number
