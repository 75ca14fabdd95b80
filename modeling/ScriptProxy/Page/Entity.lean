import ScriptProxy.Failure

/-!
# Entities

In the value of an attribute, a character may be written as an entity: by its name or by its
number, between `&` and `;`. `resolved` replaces every entity of a text by its character.
-/

namespace ScriptProxy.Page

/-- The number that the digits of a base denote, if there are any and no others. -/
def number? (base : Nat) (digits : List Char) : Option Nat :=
  let value (c : Char) : Nat :=
    if c.isDigit then c.toNat - '0'.toNat
    else if 'a' ≤ c ∧ c ≤ 'f' then c.toNat - 'a'.toNat + 10
    else if 'A' ≤ c ∧ c ≤ 'F' then c.toNat - 'A'.toNat + 10
    else base
  if digits.isEmpty ∨ digits.any (fun c => base ≤ value c) then none
  else some (digits.foldl (fun n c => base * n + value c) 0)

/-- The character of a number, which is in base 16 if an `x` stands before it. There is none of the
number zero. -/
def numbered? (numeral : List Char) : Option Char :=
  let n := match numeral with
    | 'x' :: digits => number? 16 digits
    | digits => number? 10 digits
  match n with
  | some n => if n ≠ 0 ∧ n.isValidChar then some (Char.ofNat n) else none
  | none => none

/-- The character of an entity, given by what stands between `&` and `;`. -/
def entity (name : List Char) : Except MarkupFault Char :=
  match name with
  | '#' :: numeral =>
    match numbered? numeral with
    | some c => .ok c
    | none => .error (.badCharacter (String.ofList numeral))
  | name =>
    if name = "lt".toList then .ok '<'
    else if name = "gt".toList then .ok '>'
    else if name = "amp".toList then .ok '&'
    else if name = "apos".toList then .ok '\x27'
    else if name = "quot".toList then .ok '"'
    else .error (.unknownEntity (String.ofList name))

/-- Whether a character belongs to the text between `&` and `;`. -/
def isEntityCharacter (c : Char) : Bool := c != '&' && c != ';'

/-- A text with its entities replaced by their characters. -/
def resolved : List Char → Except MarkupFault (List Char)
  | [] => .ok []
  | '&' :: cs =>
    match h : cs.dropWhile isEntityCharacter with
    | ';' :: rest =>
      have : rest.length < cs.length := by
        have hl := (List.dropWhile_suffix (l := cs) isEntityCharacter).length_le
        rw [h, List.length_cons] at hl
        omega
      match entity (cs.takeWhile isEntityCharacter) with
      | .error fault => .error fault
      | .ok c => (resolved rest).map (c :: ·)
    | _ => .error .openEntity
  | c :: cs => (resolved cs).map (c :: ·)
termination_by cs => cs.length

end ScriptProxy.Page
