import Mathlib.Data.List.Infix
import Mathlib.Data.List.TakeWhile
import ScriptProxy.Page.Script

/-!
# Inline scripts are taken as they stand

A page may be put together from texts without markup and script elements with any bodies, as long as
these do not hold the end tag of a script: `InlineScript`, `PlainText`. `scripts_pageOf` says that the
scripts of such a page are the bodies that are not blank, in order and character by character, whatever
they hold that looks like markup. One element is the step (`nextScript_pageOf`), and the page goes on
behind it as it began.
-/

namespace ScriptProxy.Page

/-! ### Words in letters of any case -/

variable {word cs : List Char}

theorem startsWithWord_iff : startsWithWord word cs ↔
    ∃ front back, cs = front ++ back ∧ front.map lower = word.map lower := by
  induction word generalizing cs with
  | nil => exact ⟨fun _ => ⟨[], cs, rfl, rfl⟩, fun _ => rfl⟩
  | cons w word ih =>
    cases cs with
    | nil =>
      refine ⟨nofun, ?_⟩
      rintro ⟨front, back, hcs, hfront⟩
      obtain ⟨rfl, -⟩ := List.nil_eq_append_iff.1 hcs
      cases hfront
    | cons c cs =>
      rw [startsWithWord, Bool.and_eq_true, beq_iff_eq, ih]
      constructor
      · rintro ⟨hc, front, back, rfl, hfront⟩
        exact ⟨c :: front, back, rfl, by rw [List.map_cons, List.map_cons, hc, hfront]⟩
      · rintro ⟨front, back, hcs, hfront⟩
        cases front with
        | nil => cases hfront
        | cons d front =>
          obtain ⟨rfl, rfl⟩ := List.cons.inj hcs
          obtain ⟨hd, hfront⟩ := List.cons.inj hfront
          exact ⟨hd.symm, front, back, rfl, hfront⟩

/-- A character that the word does not have is not in it in other letters either. -/
theorem notMem_of_map_lower {c : Char} {name : List Char} (h : name.map lower = word)
    (hc : lower c ∉ word) : c ∉ name :=
  fun hmem => hc (h ▸ List.mem_map_of_mem hmem)

/-! ### Bodies without an end tag -/

/-- The text does not hold `</script`, in letters of any case. -/
def Unclosed (body : List Char) : Prop := ∀ w, w <:+: body → w.map lower ≠ "</script".toList

theorem map_lower_endOfScript : endOfScript.map lower = "</script".toList := by decide

theorem unclosed_iff {body : List Char} :
    Unclosed body ↔ ∀ cs ∈ body.tails, ¬ startsWithWord endOfScript cs := by
  simp only [List.mem_tails, startsWithWord_iff, map_lower_endOfScript]
  constructor
  · rintro h cs hcs ⟨front, back, rfl, hfront⟩
    exact h front ((List.prefix_append front back).isInfix.trans hcs.isInfix) hfront
  · rintro h w ⟨before, after, rfl⟩ hw
    exact h (w ++ after) ⟨before, (List.append_assoc ..).symm⟩ ⟨w, after, rfl, hw⟩

instance (body : List Char) : Decidable (Unclosed body) := decidable_of_iff _ unclosed_iff.symm

theorem Unclosed.tail {c : Char} {body : List Char} (h : Unclosed (c :: body)) : Unclosed body :=
  fun w hw => h w (List.infix_cons hw)

/-- The end tag does not begin earlier because of a body that ends like the front of one: it begins with
the only `<` in it. -/
theorem Unclosed.not_startsWithWord {c : Char} {body rest : List Char} (h : Unclosed (c :: body)) :
    ¬ startsWithWord endOfScript (c :: body ++ '<' :: rest) := by
  rw [startsWithWord_iff, map_lower_endOfScript]
  rintro ⟨front, back, hsplit, hfront⟩
  rcases List.append_eq_append_iff.1 hsplit with ⟨more, rfl, hmore⟩ | ⟨more, hbody, -⟩
  · cases more with
    | nil => exact h _ (by simp) hfront
    | cons d more =>
      obtain ⟨rfl, -⟩ := List.cons.inj hmore
      have hmem : lower '<' ∈ "</script".toList.tail := by
        rw [← hfront, List.cons_append, List.map_cons, List.tail_cons, List.map_append, List.map_cons]
        exact List.mem_append_right _ (List.mem_cons_self ..)
      exact absurd hmem (by decide)
  · exact h front ⟨[], more, hbody.symm⟩ hfront

theorem splitBody_append {before body closing filler after : List Char} (hbody : Unclosed body)
    (hclosing : closing.map lower = "script".toList) (hfiller : '>' ∉ filler) :
    splitBody before (body ++ '<' :: '/' :: (closing ++ (filler ++ '>' :: after))) =
      some (before.reverse ++ body, after) := by
  induction body generalizing before with
  | nil =>
    have hword : startsWithWord endOfScript
        ('<' :: '/' :: (closing ++ (filler ++ '>' :: after))) := by
      rw [startsWithWord_iff, map_lower_endOfScript]
      exact ⟨'<' :: '/' :: closing, filler ++ '>' :: after, rfl, by
        rw [List.map_cons, List.map_cons, hclosing]; decide⟩
    have hlength : endOfScript.length = ('<' :: '/' :: closing).length := by
      have := congrArg List.length hclosing
      rw [List.length_map] at this
      simp only [List.length_cons, this]
      decide
    have hdrop : ('<' :: '/' :: (closing ++ (filler ++ '>' :: after))).drop endOfScript.length =
        filler ++ '>' :: after := by
      rw [hlength, ← List.cons_append, ← List.cons_append, List.drop_left]
    rw [List.nil_append, splitBody, if_pos hword, hdrop, List.dropWhile_append_of_pos (by grind)]
    simp
  | cons c body ih =>
    rw [List.cons_append, splitBody, ← List.cons_append, if_neg hbody.not_startsWithWord, ih hbody.tail]
    simp

/-! ### Start tags -/

section
variable {name rest t : List Char}

theorem splitTag_append {before : List Char}
    (h : ∀ c ∈ name, c ≠ '>' ∧ c ≠ '"' ∧ c ≠ '\x27') :
    splitTag none before (name ++ '>' :: rest) = some (before.reverse ++ name, rest) := by
  induction name generalizing before with
  | nil => simp [splitTag]
  | cons c name ih =>
    obtain ⟨hc, hname⟩ := List.forall_mem_cons.1 h
    rw [List.cons_append, splitTag, if_neg (by simp [hc.1]), quoteAfter, if_neg (by simp [hc.2]),
      ih hname]
    simp

/-- A name that is the word `script` has no character that means anything in a tag. -/
theorem plain_of_script (h : name.map lower = "script".toList) {c : Char} (hc : c ∈ name) :
    c ∉ ['>', '"', '\x27', '/', '!', '?', ' ', '\t', '\r', '\n'] := by
  intro hmem
  have hnot : ['>', '"', '\x27', '/', '!', '?', ' ', '\t', '\r', '\n'].all
      (lower · ∉ "script".toList) := by decide
  exact notMem_of_map_lower h (of_decide_eq_true (List.all_eq_true.1 hnot c hmem)) hc

theorem readPiece_script (h : name.map lower = "script".toList) :
    readPiece (name ++ '>' :: rest) = .ok (.startTag name, rest) := by
  have hsplit : splitTag none [] (name ++ '>' :: rest) = some (name, rest) :=
    splitTag_append fun c hc => by
      have := plain_of_script h hc
      simp at this
      tauto
  cases name with
  | nil => cases h
  | cons c name =>
    have hc := plain_of_script h (List.mem_cons_self ..)
    unfold readPiece
    split
    · cases ‹_ = []›
    · next heq => exact absurd ((List.cons.inj heq).1 ▸ hc) (by decide)
    · next heq => exact absurd ((List.cons.inj heq).1 ▸ hc) (by decide)
    · next heq => exact absurd ((List.cons.inj heq).1 ▸ hc) (by decide)
    · next heq => exact absurd ((List.cons.inj heq).1 ▸ hc) (by decide)
    · rw [hsplit]

theorem nextTag_append (ht : '<' ∉ t) {content : List Char}
    (hp : readPiece cs = .ok (.startTag content, rest)) :
    nextTag (t ++ '<' :: cs) = .ok (some (content, rest)) := by
  have hd : (t ++ '<' :: cs).dropWhile (· != '<') = '<' :: cs := by
    rw [List.dropWhile_append_of_pos (by grind)]
    simp
  rw [nextTag]
  split
  · next h => rw [hd] at h; cases h
  · next tail h =>
    rw [hd] at h
    obtain ⟨-, rfl⟩ := List.cons.inj h
    split
    · next hf => rw [hp] at hf; cases hf
    · next hf => rw [hp] at hf; cases hf; rfl
    · next hf => rw [hp] at hf; cases hf

theorem nextTag_plain (ht : '<' ∉ t) : nextTag t = .ok none := by
  have hd : t.dropWhile (· != '<') = [] := List.dropWhile_eq_nil_iff.2 (by grind)
  rw [nextTag]
  split
  · rfl
  · next h => rw [hd] at h; cases h

theorem ofContent_script (h : name.map lower = "script".toList) :
    Tag.ofContent name = ⟨name, [], true⟩ := by
  have hlast : name.getLast? ≠ some '/' := fun hl =>
    plain_of_script h (List.mem_of_getLast? hl) (by decide)
  have hspace : ∀ c ∈ name, (!isMarkupSpace c) = true := fun c hc => by
    have := plain_of_script h hc
    simp [isMarkupSpace] at this ⊢
    tauto
  simp only [Tag.ofContent, hlast, decide_false, if_false, Bool.not_false]
  rw [List.takeWhile_eq_self_iff.2 hspace, List.dropWhile_eq_nil_iff.2 hspace]

theorem source?_nil : source? [] none [] = .ok none := by
  rw [source?]
  split
  · next h => cases h
  · rfl
  · next h => cases h

end

/-! ### Elements -/

/-- A text without markup, which does not begin with a byte order mark. -/
structure PlainText where
  chars : List Char
  noMarkup : '<' ∉ chars
  noMark : chars.head? ≠ some '\ufeff'

/-- A script element with a body of its own and no attributes, and the text behind it. -/
structure InlineScript where
  /-- The name as it stands in the start tag. -/
  opening : List Char
  body : List Char
  /-- The name as it stands in the end tag. -/
  closing : List Char
  /-- What stands behind the name in the end tag. -/
  filler : List Char
  after : PlainText
  opening_named : opening.map lower = "script".toList
  body_unclosed : Unclosed body
  closing_named : closing.map lower = "script".toList
  filler_open : '>' ∉ filler

namespace InlineScript

/-- The element and the text behind it. -/
def chars (e : InlineScript) : List Char :=
  ['<'] ++ e.opening ++ ['>'] ++ e.body ++ ['<', '/'] ++ e.closing ++ e.filler ++ ['>'] ++
    e.after.chars

/-- The element from its body on, with what stands behind its end tag. -/
def fromBody (e : InlineScript) (rest : List Char) : List Char :=
  e.body ++ '<' :: '/' :: (e.closing ++ (e.filler ++ '>' :: rest))

end InlineScript

/-- The page that begins with the text and goes on with the elements. -/
def pageOf (front : PlainText) (es : List InlineScript) : List Char :=
  front.chars ++ es.flatMap InlineScript.chars

theorem pageOf_cons (front : PlainText) (e : InlineScript) (es : List InlineScript) :
    pageOf front (e :: es) =
      front.chars ++ '<' :: (e.opening ++ '>' :: e.fromBody (pageOf e.after es)) := by
  simp [pageOf, InlineScript.chars, InlineScript.fromBody]

theorem start_pageOf (front : PlainText) (es : List InlineScript) :
    Place.start (pageOf front es) = ⟨pageOf front es, false⟩ := by
  have hmark : (pageOf front es).head? ≠ some '\ufeff' := by
    have hfront := front.noMark
    cases es with
    | nil => rwa [pageOf, List.flatMap_nil, List.append_nil]
    | cons e es =>
      -- the first character is one of the text, or the `<` of the first element
      rw [pageOf_cons, List.head?_append]
      cases h : front.chars.head? with
      | none => simp
      | some c => rwa [h] at hfront
  unfold Place.start
  split
  · next h => simp [h] at hmark
  · rfl

/-- The next element of a place, by the next tag there. -/
theorem nextScript_eq (p : Place) : nextScript p =
    match nextTag p.text with
    | .error fault => .error (.markup fault)
    | .ok none => .ok none
    | .ok (some (content, rest)) =>
      if isNamed "script" (Tag.ofContent content).name then
        (Element.read content ⟨rest, p.afterMark⟩).map some
      else nextScript ⟨rest, p.afterMark⟩ := by
  conv_lhs => rw [nextScript]
  split <;> next h => simp only [h]

theorem nextScript_of_nextTag {p : Place} {content rest : List Char}
    (ht : nextTag p.text = .ok (some (content, rest)))
    (hname : isNamed "script" (Tag.ofContent content).name) :
    nextScript p = (Element.read content ⟨rest, p.afterMark⟩).map some := by
  rw [nextScript_eq, ht]
  exact if_pos hname

theorem nextScript_of_none {p : Place} (ht : nextTag p.text = .ok none) : nextScript p = .ok none := by
  rw [nextScript_eq, ht]

theorem InlineScript.read (e : InlineScript) (es : List InlineScript) :
    Element.read e.opening ⟨e.fromBody (pageOf e.after es), false⟩ =
      .ok ⟨none, e.body, ⟨pageOf e.after es, false⟩⟩ := by
  have hbody : splitBody [] (e.fromBody (pageOf e.after es)) = some (e.body, pageOf e.after es) :=
    splitBody_append e.body_unclosed e.closing_named e.filler_open
  simp only [Element.read, ofContent_script e.opening_named, Tag.source?, source?_nil, lastBytes?,
    bind, Except.bind, Bool.false_eq_true, if_false, if_true, hbody, start_pageOf]
  rfl

/-- The next element of a page is the first one, and behind it the page goes on. -/
theorem nextScript_pageOf (front : PlainText) (e : InlineScript) (es : List InlineScript) :
    nextScript ⟨pageOf front (e :: es), false⟩ =
      .ok (some ⟨none, e.body, ⟨pageOf e.after es, false⟩⟩) := by
  have htag : nextTag (pageOf front (e :: es)) =
      .ok (some (e.opening, e.fromBody (pageOf e.after es))) := by
    rw [pageOf_cons]
    exact nextTag_append front.noMarkup (readPiece_script e.opening_named)
  have hname : isNamed "script" (Tag.ofContent e.opening).name := by
    rw [ofContent_script e.opening_named, isNamed, e.opening_named]
    decide
  rw [nextScript_of_nextTag htag hname, e.read]
  rfl

/-! ### Pages -/

section
variable {files : Files} {base : Option String} {number : Nat} {p : Place}

variable (files base number) in
/-- The scripts from an element on. -/
def elementScripts (e : Element) : Except Failure (List Script) :=
  match e.script? files base number with
  | .error fault => .error fault
  | .ok none => scriptsFrom files base number e.next
  | .ok (some s) => (scriptsFrom files base (number + 1) e.next).map (s :: ·)

variable (files base number p) in
theorem scriptsFrom_eq : scriptsFrom files base number p =
    match nextScript p with
    | .error fault => .error (.boot fault)
    | .ok none => .ok []
    | .ok (some e) => elementScripts files base number e := by
  rw [scriptsFrom]
  split
  · next h => rw [h]
  · next h => rw [h]
  · next e h =>
    have hpresent : elementScripts files base number e = match nextScript p with
        | .error fault => .error (.boot fault)
        | .ok none => .ok []
        | .ok (some e) => elementScripts files base number e := by rw [h]
    exact hpresent

theorem scriptsFrom_of_none (h : nextScript p = .ok none) :
    scriptsFrom files base number p = .ok [] := by
  rw [scriptsFrom_eq, h]

theorem scriptsFrom_of_body {body : List Char} {next : Place}
    (h : nextScript p = .ok (some ⟨none, body, next⟩)) :
    scriptsFrom files base number p =
      if body.all Text.isBlank then scriptsFrom files base number next
      else (scriptsFrom files base (number + 1) next).map
        (⟨s!"<script #{number}>", String.ofList body⟩ :: ·) := by
  have hscript : Element.script? files base number ⟨none, body, next⟩ =
      if body.all Text.isBlank then .ok none
      else .ok (some ⟨s!"<script #{number}>", String.ofList body⟩) := by
    unfold Element.script?
    cases base <;> rfl
  rw [scriptsFrom_eq, h]
  simp only [elementScripts, hscript]
  by_cases hb : body.all Text.isBlank
  · simp only [if_pos hb]
  · simp only [if_neg hb]

end

/-- The scripts for bodies behind `number` others: those that are not blank, each with its number. -/
def scriptsOf (number : Nat) (bodies : List (List Char)) : List Script :=
  ((bodies.filter fun body => !body.all Text.isBlank).zipIdx number).map fun (body, k) =>
    ⟨s!"<script #{k}>", String.ofList body⟩

theorem scriptsFrom_pageOf (files : Files) (number : Nat) (front : PlainText)
    (es : List InlineScript) : scriptsFrom files none number ⟨pageOf front es, false⟩ =
      .ok (scriptsOf number (es.map InlineScript.body)) := by
  induction es generalizing front number with
  | nil =>
    have htag : nextTag (pageOf front []) = .ok none := by
      rw [pageOf, List.flatMap_nil, List.append_nil, nextTag_plain front.noMarkup]
    exact scriptsFrom_of_none (nextScript_of_none htag)
  | cons e es ih =>
    rw [scriptsFrom_of_body (nextScript_pageOf front e es), ih, ih]
    split
    · next hb => simp [scriptsOf, hb]
    · next hb => simp [scriptsOf, hb, Except.map]

/-- The scripts of a page without other markup are the bodies of its script elements, in order and as
they stand, without those that are blank. -/
theorem scripts_pageOf (files : Files) (front : PlainText) (es : List InlineScript) :
    scripts files none (String.ofList (pageOf front es)) =
      .ok (scriptsOf 0 (es.map InlineScript.body)) := by
  rw [scripts, String.toList_ofList, start_pageOf, scriptsFrom_pageOf]

/-- A page with an element whose body looks like markup, one with a blank body and one with names in
letters of both cases. -/
theorem scripts_pageOf_sample :
    let page : List Char := pageOf ⟨"a > b ".toList, by decide, by decide⟩
      [⟨"script".toList, "if (a<b) t = '</scrip><!--ü';".toList, "script".toList, [],
          ⟨"\n".toList, by decide, by decide⟩, by decide, by decide, by decide, by decide⟩,
        ⟨"script".toList, " ".toList, "script".toList, [],
          ⟨[], by decide, by decide⟩, by decide, by decide, by decide, by decide⟩,
        ⟨"Script".toList, "g()".toList, "SCRIPT".toList, " <\"".toList,
          ⟨[], by decide, by decide⟩, by decide, by decide, by decide, by decide⟩]
    page = ("a > b <script>if (a<b) t = '</scrip><!--ü';</script>\n<script> </script>" ++
        "<Script>g()</SCRIPT <\">").toList ∧
      scripts Files.none none (String.ofList page) =
        .ok [⟨"<script #0>", "if (a<b) t = '</scrip><!--ü';"⟩, ⟨"<script #1>", "g()"⟩] :=
  ⟨by decide, (scripts_pageOf Files.none _ _).trans (congrArg Except.ok (by decide))⟩

end ScriptProxy.Page
