import ScriptProxy.Page.Entity
import ScriptProxy.Page.Markup

/-!
# Attributes of a tag

The content of a start tag is a name, attributes, and a slash at its end if the element has no
body. The value of an attribute may be without quotes or be missing altogether, and no two
attributes of a tag have the same name. `source?` finds the file that a tag refers to.
-/

namespace ScriptProxy.Page

/-- A start tag in its parts. -/
structure Tag where
  name : List Char
  /-- The text that the attributes stand in. -/
  attributes : List Char
  /-- Whether the element has a body. -/
  hasBody : Bool

/-- The tag with the given content. -/
def Tag.ofContent (content : List Char) : Tag :=
  let closed := content.getLast? = some '/'
  let cs := if closed then content.dropLast else content
  ⟨cs.takeWhile (!isMarkupSpace ·), cs.dropWhile (!isMarkupSpace ·), !closed⟩

/-- Whether a name is a word, in letters of any case. -/
def isNamed (word : String) (name : List Char) : Bool := name.map lower == word.toList.map lower

/-- An attribute as it is written. -/
structure Attribute where
  name : List Char
  value : List Char

/-- The value between two quotes, and the rest behind the second. The first stands before the
text. -/
def readQuotedValue (name : List Char) (quote : Char) (cs : List Char) :
    Except AttributeFault (List Char × List Char) :=
  match cs.dropWhile (· != quote) with
  | [] => .error (.openQuote (String.ofList name))
  | _ :: rest => .ok (cs.takeWhile (· != quote), rest)

/-- The value of the attribute of the given name, and the rest behind it. The equals sign stands
before the text. -/
def readValue (name cs : List Char) : Except AttributeFault (List Char × List Char) :=
  match cs.dropWhile isMarkupSpace with
  | [] => .error (.noValue (String.ofList name))
  | '"' :: cs => readQuotedValue name '"' cs
  | '\x27' :: cs => readQuotedValue name '\x27' cs
  | cs => .ok (cs.takeWhile (!isMarkupSpace ·), cs.dropWhile (!isMarkupSpace ·))

/-- Whether a character goes on with the name of an attribute. -/
def isNameCharacter (c : Char) : Bool := c != '=' && !isMarkupSpace c

/-- The next attribute, and the rest behind it. The names of those before it are `seen`. -/
def nextAttribute (seen : List (List Char)) (cs : List Char) :
    Except AttributeFault (Option (Attribute × List Char)) :=
  match cs.dropWhile isMarkupSpace with
  | [] => .ok none
  | c :: cs =>
    let name := c :: cs.takeWhile isNameCharacter
    let rest := (cs.dropWhile isNameCharacter).dropWhile isMarkupSpace
    if name ∈ seen then .error (.duplicate (String.ofList name))
    else match rest with
      | '=' :: rest => (readValue name rest).map fun (value, rest) => some (⟨name, value⟩, rest)
      | rest => .ok (some (⟨name, []⟩, rest))

theorem length_dropWhile_le (p : Char → Bool) (cs : List Char) :
    (cs.dropWhile p).length ≤ cs.length := (List.dropWhile_suffix p).length_le

theorem length_readQuotedValue {name cs value rest : List Char} {quote : Char}
    (h : readQuotedValue name quote cs = .ok (value, rest)) : rest.length ≤ cs.length := by
  unfold readQuotedValue at h
  split at h
  · cases h
  · next hd =>
    cases h
    have := length_dropWhile_le (· != quote) cs
    rw [hd, List.length_cons] at this
    omega

theorem length_readValue {name cs value rest : List Char}
    (h : readValue name cs = .ok (value, rest)) : rest.length ≤ cs.length := by
  have hl := length_dropWhile_le isMarkupSpace cs
  unfold readValue at h
  split at h
  · cases h
  · next hd =>
    rw [hd, List.length_cons] at hl
    have := length_readQuotedValue h
    omega
  · next hd =>
    rw [hd, List.length_cons] at hl
    have := length_readQuotedValue h
    omega
  · cases h
    exact Nat.le_trans (length_dropWhile_le _ _) hl

theorem length_nextAttribute {seen : List (List Char)} {cs rest : List Char} {a : Attribute}
    (h : nextAttribute seen cs = .ok (some (a, rest))) : rest.length < cs.length := by
  have hl := length_dropWhile_le isMarkupSpace cs
  unfold nextAttribute at h
  split at h
  · cases h
  · next tail hd =>
    rw [hd, List.length_cons] at hl
    have hn := Nat.le_trans (length_dropWhile_le isMarkupSpace (tail.dropWhile isNameCharacter))
      (length_dropWhile_le isNameCharacter tail)
    dsimp only at h
    split at h
    · cases h
    · split at h
      · next hr =>
        rw [hr, List.length_cons] at hn
        cases hv : readValue _ _ with
        | error fault => rw [hv] at h; cases h
        | ok found =>
          rw [hv] at h
          cases h
          have := length_readValue hv
          omega
      · cases h
        omega

/-- The path that the last attribute `src` gives, or `found` if there is none. Every attribute is
read, and its entities are resolved as soon as it is. -/
def source? (seen : List (List Char)) (found : Option String) (cs : List Char) :
    Except BootFault (Option String) :=
  match h : nextAttribute seen cs with
  | .error fault => .error (.scriptAttribute fault)
  | .ok none => .ok found
  | .ok (some (a, rest)) =>
    have : rest.length < cs.length := length_nextAttribute h
    if isNamed "src" a.name then
      match resolved a.value with
      | .error fault => .error (.markup fault)
      | .ok path => source? (a.name :: seen) (some (String.ofList path)) rest
    else source? (a.name :: seen) found rest
termination_by cs.length

/-- The path that a tag gives in an attribute `src`. -/
def Tag.source? (t : Tag) : Except BootFault (Option String) := Page.source? [] none t.attributes

end ScriptProxy.Page
