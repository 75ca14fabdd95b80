import ScriptProxy.Failure

/-!
# Markup

A page is text with pieces of markup in it: start tags, end tags, comments, character data sections,
document type declarations and processing instructions. `nextTag` finds the next start tag. A
piece that is not finished is a fault, and end tags need not match.
-/

namespace ScriptProxy.Page

/-- The blanks that separate the parts of a tag. -/
def isMarkupSpace (c : Char) : Bool := c == ' ' || c == '\t' || c == '\r' || c == '\n'

/-- The lower-case letter for an upper-case one of ASCII, and any other character as it is. -/
def lower (c : Char) : Char := c.toLower

/-- Whether a text starts with a word, in letters of any case. -/
def startsWithWord : (word : List Char) → List Char → Bool
  | [], _ => true
  | _ :: _, [] => false
  | w :: word, c :: cs => lower w == lower c && startsWithWord word cs

/-- What stands behind the first occurrence of a pattern. -/
def behind? (pattern : List Char) : List Char → Option (List Char)
  | [] => none
  | c :: cs =>
    if pattern.isPrefixOf (c :: cs) then some ((c :: cs).drop pattern.length)
    else behind? pattern cs

theorem length_behind? {pattern cs rest : List Char} (hp : pattern ≠ [])
    (h : behind? pattern cs = some rest) : rest.length < cs.length := by
  induction cs with
  | nil => simp [behind?] at h
  | cons c cs ih =>
    unfold behind? at h
    split at h
    · cases h
      have := List.length_pos_iff.2 hp
      simp only [List.length_drop, List.length_cons]
      omega
    · exact Nat.lt_succ_of_lt (ih h)

/-- The quote that a tag is inside of, after one more character. -/
def quoteAfter (quote : Option Char) (c : Char) : Option Char :=
  match quote with
  | none => if c = '"' ∨ c = '\x27' then some c else none
  | some q => if c = q then none else some q

/-- Splits a text at the first `>` outside of quotes. What stands before it is put in front of the
characters `before`, which are in reverse. -/
def splitTag (quote : Option Char) (before : List Char) :
    List Char → Option (List Char × List Char)
  | [] => none
  | c :: cs =>
    if c = '>' ∧ quote = none then some (before.reverse, cs)
    else splitTag (quoteAfter quote c) (c :: before) cs

theorem length_splitTag {cs content rest : List Char} {quote : Option Char} {before : List Char}
    (h : splitTag quote before cs = some (content, rest)) : rest.length < cs.length := by
  induction cs generalizing quote before with
  | nil => simp [splitTag] at h
  | cons c cs ih =>
    unfold splitTag at h
    split at h
    · cases h; simp
    · exact Nat.lt_succ_of_lt (ih h)

/-- Splits a text at the `>` that closes a declaration, in which further declarations may stand. The
number of those that are open is `depth`. -/
def splitDeclaration (depth : Nat) (before : List Char) :
    List Char → Option (List Char × List Char)
  | [] => none
  | c :: cs =>
    if c = '<' then splitDeclaration (depth + 1) (c :: before) cs
    else if c = '>' then
      if depth = 0 then some (before.reverse, cs)
      else splitDeclaration (depth - 1) (c :: before) cs
    else splitDeclaration depth (c :: before) cs

theorem length_splitDeclaration {cs content rest : List Char} {depth : Nat} {before : List Char}
    (h : splitDeclaration depth before cs = some (content, rest)) : rest.length < cs.length := by
  induction cs generalizing depth before with
  | nil => simp [splitDeclaration] at h
  | cons c cs ih =>
    unfold splitDeclaration at h
    split at h
    · exact Nat.lt_succ_of_lt (ih h)
    · split at h
      · split at h
        · cases h; simp
        · exact Nat.lt_succ_of_lt (ih h)
      · exact Nat.lt_succ_of_lt (ih h)

/-- A piece of markup. -/
inductive Piece where
  /-- A start tag, with what stands between `<` and `>`. -/
  | startTag (content : List Char)
  | other
  deriving DecidableEq, Repr

/-- The rest behind a piece that is no start tag, or the fault of its not being closed. -/
def closed (fault : MarkupFault) : Option (List Char) → Except MarkupFault (Piece × List Char)
  | some rest => .ok (.other, rest)
  | none => .error fault

/-- The piece of markup whose `<!` stands before the text. -/
def readDeclaration (cs : List Char) : Except MarkupFault (Piece × List Char) :=
  if ['-', '-'].isPrefixOf cs then closed .openComment (behind? ['-', '-', '>'] (cs.drop 2))
  else if "[CDATA[".toList.isPrefixOf cs then
    closed .openSection (behind? [']', ']', '>'] (cs.drop 7))
  else if startsWithWord "doctype".toList cs then
    match splitDeclaration 0 [] (cs.drop 7) with
    | none => .error .openDeclaration
    | some (content, rest) =>
      if content.all isMarkupSpace then .error .unnamedDeclaration else .ok (.other, rest)
  else .error .unknownDeclaration

/-- The piece of markup whose `<` stands before the text. -/
def readPiece : List Char → Except MarkupFault (Piece × List Char)
  | [] => .error .openTag
  | '!' :: cs => readDeclaration cs
  | '?' :: '>' :: _ => .error .openInstruction
  | '?' :: cs => closed .openInstruction (behind? ['?', '>'] cs)
  | '/' :: cs => closed .openTag ((splitTag none [] cs).map (·.2))
  | cs =>
    match splitTag none [] cs with
    | some (content, rest) => .ok (.startTag content, rest)
    | none => .error .openTag

theorem length_closed {fault : MarkupFault} {o : Option (List Char)} {p : Piece}
    {rest : List Char} (h : closed fault o = .ok (p, rest)) : o = some rest := by
  unfold closed at h
  split at h <;> cases h
  rfl

theorem length_readDeclaration {cs rest : List Char} {p : Piece}
    (h : readDeclaration cs = .ok (p, rest)) : rest.length < cs.length := by
  have drops (n : Nat) : (cs.drop n).length ≤ cs.length := by simp
  unfold readDeclaration at h
  split at h
  · exact Nat.lt_of_lt_of_le (length_behind? (by simp) (length_closed h)) (drops 2)
  · split at h
    · exact Nat.lt_of_lt_of_le (length_behind? (by simp) (length_closed h)) (drops 7)
    · split at h
      · split at h
        · cases h
        · next hs =>
          split at h
          · cases h
          · cases h
            exact Nat.lt_of_lt_of_le (length_splitDeclaration hs) (drops 7)
      · cases h

theorem length_readPiece {cs rest : List Char} {p : Piece} (h : readPiece cs = .ok (p, rest)) :
    rest.length < cs.length := by
  unfold readPiece at h
  split at h
  · cases h
  · exact Nat.lt_succ_of_lt (length_readDeclaration h)
  · cases h
  · exact Nat.lt_succ_of_lt (length_behind? (by simp) (length_closed h))
  · next tail =>
    have hs := length_closed h
    rw [Option.map_eq_some_iff] at hs
    obtain ⟨⟨content, r⟩, hs, rfl⟩ := hs
    exact Nat.lt_succ_of_lt (length_splitTag hs)
  · split at h
    · next hs => cases h; exact length_splitTag hs
    · cases h

/-- The next start tag of a page, with what stands behind it. -/
def nextTag (cs : List Char) : Except MarkupFault (Option (List Char × List Char)) :=
  match hd : cs.dropWhile (· != '<') with
  | [] => .ok none
  | _ :: tail =>
    match hp : readPiece tail with
    | .error fault => .error fault
    | .ok (.startTag content, rest) => .ok (some (content, rest))
    | .ok (.other, rest) =>
      have : rest.length < cs.length := by
        have hr := length_readPiece hp
        have hl := (List.dropWhile_suffix (l := cs) (· != '<')).length_le
        rw [hd, List.length_cons] at hl
        omega
      nextTag rest
termination_by cs.length

theorem length_nextTag {cs content rest : List Char} (h : nextTag cs = .ok (some (content, rest))) :
    rest.length < cs.length := by
  fun_induction nextTag cs with
  | case1 => cases h
  | case2 => cases h
  | case3 cs c tail hd content' rest' hp =>
    cases h
    have hr := length_readPiece hp
    have hl := (List.dropWhile_suffix (l := cs) (· != '<')).length_le
    rw [hd, List.length_cons] at hl
    omega
  | case4 cs c tail hd rest' hp shorter ih => exact Nat.lt_trans (ih h) shorter

end ScriptProxy.Page
