import ScriptProxy.Page.Attribute
import ScriptProxy.Page.Files
import ScriptProxy.Text.Blank

/-!
# Scripts of a page

The scripts of a page are its `script` elements in order. The body of one is taken as it stands, up
to the first end tag of a script, and a file that is named in place of a body is read from the
directory of the page. `scripts` finds them all, and `nextScript` finds one.

A byte order mark at a place where the reading begins is skipped, and yet it is not counted: the
body behind a tag then starts three bytes early, inside the tag.
-/

namespace ScriptProxy.Page

/-- A place in a page from which the reading goes on. -/
structure Place where
  text : List Char
  /-- Whether a byte order mark was skipped when the reading began. -/
  afterMark : Bool

/-- The place at which the reading of a text begins. -/
def Place.start : List Char → Place
  | '\ufeff' :: cs => ⟨cs, true⟩
  | cs => ⟨cs, false⟩

theorem Place.length_start_le (cs : List Char) : (Place.start cs).text.length ≤ cs.length := by
  unfold Place.start
  split <;> simp

/-- The last `n` bytes of a text and what stands behind it, if they are whole characters. The text
is in reverse. -/
def lastBytes? (n : Nat) (behind : List Char) : (text : List Char) → Option (List Char)
  | [] => if n = 0 then some behind else none
  | c :: cs =>
    if n = 0 then some behind
    else if c.utf8Size ≤ n then lastBytes? (n - c.utf8Size) (c :: behind) cs
    else none

theorem length_lastBytes? {n : Nat} {text behind cs : List Char}
    (h : lastBytes? n behind text = some cs) : cs.length ≤ behind.length + n := by
  induction text generalizing n behind with
  | nil =>
    unfold lastBytes? at h
    split at h <;> cases h
    omega
  | cons c text ih =>
    have hc := c.utf8Size_pos
    unfold lastBytes? at h
    split at h
    · cases h; omega
    · split at h
      · have := ih h
        rw [List.length_cons] at this
        omega
      · cases h

/-- The end tag of a script up to its name. -/
def endOfScript : List Char := "</script".toList

/-- Splits a text into the body of a script and what stands behind the end tag. The characters
`before`, in reverse, belong to the body. -/
def splitBody (before : List Char) : List Char → Option (List Char × List Char)
  | [] => none
  | c :: cs =>
    if startsWithWord endOfScript (c :: cs) then
      some (before.reverse, (((c :: cs).drop endOfScript.length).dropWhile (· != '>')).drop 1)
    else splitBody (c :: before) cs

theorem length_le_of_startsWithWord {word cs : List Char} (h : startsWithWord word cs) :
    word.length ≤ cs.length := by
  induction word generalizing cs with
  | nil => simp
  | cons w word ih =>
    cases cs with
    | nil => simp [startsWithWord] at h
    | cons c cs =>
      simp only [startsWithWord, Bool.and_eq_true] at h
      simpa using ih h.2

theorem length_splitBody {before cs body rest : List Char}
    (h : splitBody before cs = some (body, rest)) :
    rest.length + endOfScript.length ≤ cs.length := by
  induction cs generalizing before with
  | nil => simp [splitBody] at h
  | cons c cs ih =>
    unfold splitBody at h
    split at h
    · next hs =>
      cases h
      have h₁ := length_le_of_startsWithWord hs
      have h₂ := length_dropWhile_le (· != '>') ((c :: cs).drop endOfScript.length)
      rw [List.length_drop] at h₂ ⊢
      omega
    · have := ih h
      rw [List.length_cons]
      omega

/-- A script element. -/
structure Element where
  /-- The path of the file that stands in place of the body. -/
  path : Option String
  body : List Char
  /-- Where the page goes on. -/
  next : Place

/-- The script element of a tag. The tag is given by its content and the place behind it. -/
def Element.read (content : List Char) (behind : Place) : Except BootFault Element := do
  let tag := Tag.ofContent content
  let path ← tag.source?
  if tag.hasBody then
    match lastBytes? (if behind.afterMark then 3 else 0) behind.text ('>' :: content.reverse) with
    | none => throw .beyondScriptTag
    | some text =>
      match splitBody [] text with
      | none => throw .openScript
      | some (body, rest) => return ⟨path, body, .start rest⟩
  else return ⟨path, [], behind⟩

theorem Element.length_read {content : List Char} {behind : Place} {e : Element}
    (h : Element.read content behind = .ok e) :
    e.next.text.length ≤ behind.text.length := by
  unfold Element.read at h
  dsimp only [Bind.bind, Except.bind] at h
  split at h
  · cases h
  · split at h
    · split at h
      · cases h
      · next hb =>
        split at h
        · cases h
        · next hs =>
          cases h
          have h₁ := length_lastBytes? hb
          have h₂ := length_splitBody hs
          have h₃ := Place.length_start_le
          refine Nat.le_trans (h₃ _) ?_
          have : endOfScript.length = 8 := by decide
          split at h₁ <;> omega
    · cases h
      exact Nat.le_refl _

/-- The next script element of a page. -/
def nextScript (p : Place) : Except BootFault (Option Element) :=
  match h : nextTag p.text with
  | .error fault => .error (.markup fault)
  | .ok none => .ok none
  | .ok (some (content, rest)) =>
    have : rest.length < p.text.length := length_nextTag h
    if isNamed "script" (Tag.ofContent content).name then
      (Element.read content ⟨rest, p.afterMark⟩).map some
    else nextScript ⟨rest, p.afterMark⟩
termination_by p.text.length

theorem length_nextScript {p : Place} {e : Element} (h : nextScript p = .ok (some e)) :
    e.next.text.length < p.text.length := by
  fun_induction nextScript p with
  | case1 => cases h
  | case2 => cases h
  | case3 p content rest ht shorter named =>
    cases hr : Element.read content ⟨rest, p.afterMark⟩ with
    | error fault => rw [hr] at h; cases h
    | ok found =>
      rw [hr] at h
      cases h
      exact Nat.lt_of_le_of_lt (Element.length_read hr) shorter
  | case4 p content rest ht shorter named ih => exact Nat.lt_trans (ih h) shorter

/-- A script of a page. -/
structure Script where
  /-- The file that the script is from, or its number among the scripts of the page. -/
  origin : String
  source : String
  deriving DecidableEq, Repr

/-- The script of an element that stands behind `number` scripts, if it has one. Files are read from
the directory `base`, and without one they are left out. -/
def Element.script? (files : Files) (base : Option String) (number : Nat) (e : Element) :
    Except Failure (Option Script) :=
  match e.path, base with
  | some path, some directory =>
    (files.readText (joined directory path)).map fun text => some ⟨joined directory path, text⟩
  | some _, none => .ok none
  | none, _ =>
    if e.body.all Text.isBlank then .ok none
    else .ok (some ⟨s!"<script #{number}>", String.ofList e.body⟩)

/-- The scripts from a place of a page on, behind `number` scripts. -/
def scriptsFrom (files : Files) (base : Option String) (number : Nat) (p : Place) :
    Except Failure (List Script) :=
  match h : nextScript p with
  | .error fault => .error (.boot fault)
  | .ok none => .ok []
  | .ok (some e) =>
    have : e.next.text.length < p.text.length := length_nextScript h
    match e.script? files base number with
    | .error fault => .error fault
    | .ok none => scriptsFrom files base number e.next
    | .ok (some s) => (scriptsFrom files base (number + 1) e.next).map (s :: ·)
termination_by p.text.length

/-- The scripts of a page. Files are read from the directory `base`. -/
def scripts (files : Files) (base : Option String) (content : String) :
    Except Failure (List Script) := scriptsFrom files base 0 (.start content.toList)

/-- Where a page comes from. -/
inductive Source where
  | content (text : String)
  | file (path : String)
  | url (address : String)
  deriving DecidableEq, Repr

/-- What stands in front of the path in an address of a file. -/
def fileScheme : String := "file://"

/-- The text of a page and the directory that it lies in. -/
def Source.read (files : Files) : Source → Except Failure (String × Option String)
  | content text => .ok (text, none)
  | file path => (files.readText path).map (·, some (parent path))
  | url address =>
    if fileScheme.toList.isPrefixOf address.toList then
      let path := String.ofList (address.toList.drop fileScheme.length)
      (files.readText path).map (·, some (parent path))
    else .error (.notSupported (.pageScheme address))

/-- The scripts of the page that a source gives. -/
def Source.scripts (files : Files) (s : Source) : Except Failure (List Script) := do
  let (text, base) ← s.read files
  Page.scripts files base text

end ScriptProxy.Page
