import ScriptProxy.Proofs.Page.Fronts

/-!
# Pages that begin with a byte order mark

The mark is skipped but not counted, so that the body of the first script that has one begins three
bytes early, with the end of its own tag: `scripts_marked`. Nothing else depends on the mark: what stands
before that body is read as it is without the mark (`exists_front`), and behind it the reading begins
anew.
-/

namespace ScriptProxy.Page

variable {cs content rest : List Char}

/-! ### Up to the first body -/

/-- Whether a tag with the content is that of a script with a body. -/
def opensBody (content : List Char) : Bool :=
  isNamed "script" (Tag.ofContent content).name && (Tag.ofContent content).hasBody

/-- The content of the first tag of a script with a body, and what stands behind the tag. -/
def firstBody? (cs : List Char) : Option (List Char × List Char) :=
  match h : nextTag cs with
  | .error _ => none
  | .ok none => none
  | .ok (some (content, rest)) =>
    have : rest.length < cs.length := length_nextTag h
    if opensBody content then some (content, rest) else firstBody? rest
termination_by cs.length

theorem opensBody_of_firstBody? (h : firstBody? cs = some (content, rest)) : opensBody content := by
  fun_induction firstBody? cs with
  | case1 => cases h
  | case2 => cases h
  | case3 cs content' rest' ht shorter hopens =>
    cases h
    exact hopens
  | case4 cs content' rest' ht shorter hopens ih => exact ih h

section
variable {ε α β : Type} {x y : Except ε α} {g : α → β} {f : ε}

theorem map_eq_error : x.map g = .error f ↔ x = .error f := by cases x <;> simp [Except.map]

theorem map_cons_eq_map_cons {z : Except ε (List α)} {a b : α} (h : a ≠ b) :
    z.map (a :: ·) = z.map (b :: ·) ↔ ∃ f, z = .error f := by cases z <;> simp [Except.map, h]

theorem map_injective (hg : Function.Injective g) : x.map g = y.map g ↔ x = y := by
  cases x <;> cases y <;> simp [Except.map, hg.eq_iff]

end

/-- The scripts in front, if these can be read, and then as many more as there are behind them. -/
def goingOn (front : Except Failure (List Script)) (number : Nat)
    (more : Nat → Except Failure (List Script)) : Except Failure (List Script) :=
  match front with
  | .error f => .error f
  | .ok ss => (more (number + ss.length)).map (ss ++ ·)

theorem goingOn_goingOn (front front' : Except Failure (List Script)) (number : Nat)
    (more : Nat → Except Failure (List Script)) :
    goingOn front number (goingOn front' · more) = goingOn (goingOn front 0 fun _ => front') number more := by
  cases front with
  | error f => rfl
  | ok ss =>
    cases front' with
    | error f => rfl
    | ok ss' =>
      simp only [goingOn, Except.map, List.length_append, Nat.add_assoc]
      cases more (number + (ss.length + ss'.length)) with
      | error f => rfl
      | ok ss'' => simp only [List.append_assoc]

theorem goingOn_nil (number : Nat) (more : Nat → Except Failure (List Script)) :
    goingOn (.ok []) number more = more number := by
  rw [goingOn, List.length_nil, Nat.add_zero]
  cases more number <;> rfl

section
variable {files : Files} {base : Option String} {number : Nat} {p q : Place} {e : Element}

theorem nextScript_of_other (ht : nextTag p.text = .ok (some (content, rest)))
    (hname : ¬ isNamed "script" (Tag.ofContent content).name) :
    nextScript p = nextScript ⟨rest, p.afterMark⟩ := by
  rw [nextScript_eq, ht]
  exact if_neg hname

theorem nextScript_of_fault {fault : MarkupFault} (ht : nextTag p.text = .error fault) :
    nextScript p = .error (.markup fault) := by
  rw [nextScript_eq, ht]

variable (files base number)

/-- The scripts from the tag of a script on, if its content is given and the place behind it. -/
def tagScripts (content : List Char) (behind : Place) : Except Failure (List Script) :=
  match Element.read content behind with
  | .error fault => .error (.boot fault)
  | .ok e => elementScripts files base number e

theorem scriptsFrom_congr (h : nextScript p = nextScript q) :
    scriptsFrom files base number p = scriptsFrom files base number q := by
  rw [scriptsFrom_eq, scriptsFrom_eq, h]

theorem scriptsFrom_of_script (ht : nextTag p.text = .ok (some (content, rest)))
    (hname : isNamed "script" (Tag.ofContent content).name) :
    scriptsFrom files base number p = tagScripts files base number content ⟨rest, p.afterMark⟩ := by
  rw [scriptsFrom_eq, nextScript_of_nextTag ht hname, tagScripts]
  cases Element.read content ⟨rest, p.afterMark⟩ <;> rfl

theorem read_of_bodiless (hbody : (Tag.ofContent content).hasBody = false) (behind : Place) :
    Element.read content behind =
      (Tag.ofContent content).source?.map fun path => ⟨path, [], behind⟩ := by
  unfold Element.read
  simp only [hbody]
  cases (Tag.ofContent content).source? <;> rfl

/-- A tag without a body is passed over, with the file that it may name. -/
theorem exists_passed (hbody : opensBody content = false) : ∃ front, ∀ number p rest,
    nextTag p.text = .ok (some (content, rest)) → scriptsFrom files base number p =
      goingOn front number fun k => scriptsFrom files base k ⟨rest, p.afterMark⟩ := by
  by_cases hname : isNamed "script" (Tag.ofContent content).name
  · have hbodiless : (Tag.ofContent content).hasBody = false := by
      rwa [opensBody, hname, Bool.true_and] at hbody
    cases hsource : (Tag.ofContent content).source? with
    | error fault =>
      refine ⟨.error (.boot fault), fun number p rest ht => ?_⟩
      rw [scriptsFrom_of_script files base number ht hname, tagScripts,
        read_of_bodiless hbodiless, hsource]
      rfl
    | ok path =>
      -- what the tag adds does not depend on where it stands
      have hadded (number : Nat) (next : Place) :
          Element.script? files base number ⟨path, [], next⟩ =
            Element.script? files base 0 ⟨path, [], .start []⟩ := by
        cases path <;> cases base <;> rfl
      refine ⟨(Element.script? files base 0 ⟨path, [], .start []⟩).map Option.toList,
        fun number p rest ht => ?_⟩
      rw [scriptsFrom_of_script files base number ht hname, tagScripts,
        read_of_bodiless hbodiless, hsource]
      simp only [Except.map, elementScripts, hadded]
      cases Element.script? files base 0 ⟨path, [], .start []⟩ with
      | error f => rfl
      | ok added =>
        cases added with
        | none =>
          exact (goingOn_nil number fun k => scriptsFrom files base k ⟨rest, p.afterMark⟩).symm
        | some s => rfl
  · refine ⟨.ok [], fun number p rest ht => ?_⟩
    rw [goingOn_nil]
    exact scriptsFrom_congr files base number (nextScript_of_other ht hname)

/-- Everything before the first body is read the same, whatever stands behind the tag and whether or not
a byte order mark was skipped. -/
theorem exists_front (h : firstBody? cs = some (content, rest)) :
    ∃ before front, cs = before ++ '<' :: (content ++ '>' :: rest) ∧ ∀ number rest' afterMark,
      scriptsFrom files base number ⟨before ++ '<' :: (content ++ '>' :: rest'), afterMark⟩ =
        goingOn front number fun k => tagScripts files base k content ⟨rest', afterMark⟩ := by
  fun_induction firstBody? cs with
  | case1 => cases h
  | case2 => cases h
  | case3 cs content' rest' ht shorter hopens =>
    cases h
    obtain ⟨before, hcs, hnext⟩ := nextTag_front ht
    refine ⟨before, .ok [], hcs, fun number rest' afterMark => ?_⟩
    rw [goingOn_nil]
    exact scriptsFrom_of_script files base number (hnext rest') (Bool.and_eq_true_iff.1 hopens).1
  | case4 cs content' rest' ht shorter hopens ih =>
    obtain ⟨before', hcs, hnext⟩ := nextTag_front ht
    obtain ⟨before, front, hrest, hfront⟩ := ih h
    obtain ⟨passed, hpassed⟩ := exists_passed files base (Bool.not_eq_true _ ▸ hopens)
    refine ⟨before' ++ '<' :: (content' ++ '>' :: before), goingOn passed 0 fun _ => front, ?_, ?_⟩
    · rw [hcs, hrest]
      simp
    · intro number rest'' afterMark
      have htext : before' ++ '<' :: (content' ++ '>' :: before) ++ '<' :: (content ++ '>' :: rest'') =
          before' ++ '<' :: (content' ++ '>' :: (before ++ '<' :: (content ++ '>' :: rest''))) := by
        simp
      rw [htext, hpassed number _ _ (hnext _), ← goingOn_goingOn]
      simp only [hfront]

/-- Without a body, nothing depends on whether a byte order mark was skipped. -/
theorem scriptsFrom_of_bodiless (h : firstBody? cs = none) (number : Nat) :
    scriptsFrom files base number ⟨cs, true⟩ = scriptsFrom files base number ⟨cs, false⟩ := by
  fun_induction firstBody? cs generalizing number with
  | case1 cs fault ht =>
    refine scriptsFrom_congr files base number ?_
    rw [nextScript_of_fault ht, nextScript_of_fault ht]
  | case2 cs ht =>
    refine scriptsFrom_congr files base number ?_
    rw [nextScript_of_none ht, nextScript_of_none ht]
  | case3 => cases h
  | case4 cs content' rest' ht shorter hopens ih =>
    obtain ⟨passed, hpassed⟩ := exists_passed files base (Bool.not_eq_true _ ▸ hopens)
    rw [hpassed number _ _ ht, hpassed number _ _ ht]
    simp only [ih h]

end

/-! ### The last bytes of a tag in front of the body -/

section
variable {last : List Char}

theorem lastBytes?_append (n : Nat) (text behind : List Char) :
    lastBytes? n behind text = (lastBytes? n [] text).map (· ++ behind) := by
  induction text generalizing n behind with
  | nil =>
    unfold lastBytes?
    split <;> rfl
  | cons c text ih =>
    unfold lastBytes?
    split
    · rfl
    split
    · rw [ih _ (c :: behind), ih _ [c], Option.map_map]
      refine congrArg (Option.map · _) (funext fun front => ?_)
      simp
    · rfl

/-- The last bytes of a tag are too few to hold anything of an end tag. -/
theorem exists_of_lastBytes? (h : lastBytes? 3 [] ('>' :: content.reverse) = some last) :
    ∃ front, last = front ++ ['>'] ∧ front.length < endOfScript.length := by
  have hsize : '>'.utf8Size = 1 := by decide
  rw [lastBytes?, if_neg (by decide), hsize, if_pos (by decide), lastBytes?_append,
    Option.map_eq_some_iff] at h
  obtain ⟨front, hfront, rfl⟩ := h
  have hlength := length_lastBytes? hfront
  have hend : endOfScript.length = 8 := by decide
  exact ⟨front, rfl, by simp at hlength; omega⟩

theorem not_startsWithWord_of_gt {front : List Char} (hlength : front.length < endOfScript.length) :
    ¬ startsWithWord endOfScript (front ++ '>' :: rest) := by
  rw [startsWithWord_iff]
  rintro ⟨word, back, hsplit, hword⟩
  have hfront : word.length = endOfScript.length := by
    have := congrArg List.length hword
    rwa [List.length_map, List.length_map] at this
  have hmem : '>' ∈ word := by
    rcases List.append_eq_append_iff.1 hsplit with ⟨more, rfl, hmore⟩ | ⟨more, rfl, -⟩
    · cases more with
      | nil => simp at hfront; omega
      | cons c more =>
        obtain ⟨rfl, -⟩ := List.cons.inj hmore
        simp
    · rw [List.length_append] at hlength
      omega
  exact notMem_of_map_lower (hword.trans map_lower_endOfScript) (by decide) hmem

theorem splitBody_front {before front : List Char} (hlength : front.length < endOfScript.length) :
    splitBody before (front ++ '>' :: rest) = splitBody ('>' :: (front.reverse ++ before)) rest := by
  have hnot : ¬ startsWithWord endOfScript (front ++ '>' :: rest) := not_startsWithWord_of_gt hlength
  induction front generalizing before with
  | nil =>
    rw [List.nil_append] at hnot ⊢
    rw [splitBody, if_neg hnot]
    rfl
  | cons c front ih =>
    rw [List.length_cons] at hlength
    have hshorter : front.length < endOfScript.length := by omega
    rw [List.cons_append] at hnot ⊢
    rw [splitBody, if_neg hnot, ih hshorter (not_startsWithWord_of_gt hshorter)]
    simp

theorem splitBody_before (before cs : List Char) :
    splitBody before cs = (splitBody [] cs).map fun found => (before.reverse ++ found.1, found.2) := by
  induction cs generalizing before with
  | nil => rfl
  | cons c cs ih =>
    unfold splitBody
    split
    · simp
    · rw [ih (c :: before), ih [c], Option.map_map]
      refine congrArg (Option.map · _) (funext fun found => ?_)
      simp

theorem splitBody_last (h : lastBytes? 3 [] ('>' :: content.reverse) = some last) :
    splitBody [] (last ++ rest) =
      (splitBody [] rest).map fun found => (last ++ found.1, found.2) := by
  obtain ⟨front, rfl, hlength⟩ := exists_of_lastBytes? h
  rw [List.append_assoc, List.singleton_append, splitBody_front hlength, splitBody_before]
  simp

variable (hbody : (Tag.ofContent content).hasBody = true)
include hbody

theorem read_of_body : Element.read content ⟨rest, false⟩ =
    (Tag.ofContent content).source?.bind fun path =>
      match splitBody [] rest with
      | none => .error .openScript
      | some (body, after) => .ok ⟨path, body, .start after⟩ := by
  have hbytes : lastBytes? 0 rest ('>' :: content.reverse) = some rest := rfl
  simp only [Element.read, hbody, if_true, Bool.false_eq_true, if_false, hbytes]
  rfl

theorem read_of_whole (h : lastBytes? 3 [] ('>' :: content.reverse) = some last) :
    Element.read content ⟨rest, true⟩ = Element.read content ⟨last ++ rest, false⟩ := by
  have hbytes : lastBytes? 3 rest ('>' :: content.reverse) = some (last ++ rest) := by
    rw [lastBytes?_append, h]
    rfl
  have hbytes' : lastBytes? 0 (last ++ rest) ('>' :: content.reverse) = some (last ++ rest) := rfl
  simp only [Element.read, hbody, if_true, Bool.false_eq_true, if_false, hbytes, hbytes']

theorem read_of_broken (h : lastBytes? 3 [] ('>' :: content.reverse) = none) :
    Element.read content ⟨rest, true⟩ =
      (Tag.ofContent content).source?.bind fun _ => .error .beyondScriptTag := by
  have hbytes : lastBytes? 3 rest ('>' :: content.reverse) = none := by
    rw [lastBytes?_append, h]
    rfl
  simp only [Element.read, hbody, if_true, hbytes]
  rfl

end

section
variable (files : Files) (base : Option String) {number : Nat} {last : List Char}

/-- What an element adds does not depend on the number of the script but for its name. -/
theorem script?_number (e : Element) (n m : Nat) :
    (∃ f, e.script? files base n = .error f ∧ e.script? files base m = .error f) ∨
    (e.script? files base n = .ok none ∧ e.script? files base m = .ok none) ∨
    ∃ s s', e.script? files base n = .ok (some s) ∧ e.script? files base m = .ok (some s') := by
  unfold Element.script?
  split
  · next path directory _ =>
    cases files.readText (joined directory path) with
    | error f => exact .inl ⟨f, rfl, rfl⟩
    | ok text => exact .inr (.inr ⟨_, _, rfl, rfl⟩)
  · exact .inr (.inl ⟨rfl, rfl⟩)
  · split
    · exact .inr (.inl ⟨rfl, rfl⟩)
    · exact .inr (.inr ⟨_, _, rfl, rfl⟩)

/-- How many scripts there are, or why they cannot be read, does not depend on the numbers that they
get. -/
theorem length_scriptsFrom (n m : Nat) (p : Place) :
    (scriptsFrom files base n p).map List.length = (scriptsFrom files base m p).map List.length := by
  rw [scriptsFrom_eq files base n p, scriptsFrom_eq files base m p]
  cases hnext : nextScript p with
  | error fault => rfl
  | ok found =>
    cases found with
    | none => rfl
    | some e =>
      have hshorter : e.next.text.length < p.text.length := length_nextScript hnext
      have hrest (n m : Nat) := length_scriptsFrom n m e.next
      simp only [elementScripts]
      rcases script?_number files base e n m with
        ⟨f, hn, hm⟩ | ⟨hn, hm⟩ | ⟨s, s', hn, hm⟩
      · rw [hn, hm]
      · rw [hn, hm]
        exact hrest n m
      · rw [hn, hm]
        have hlength := hrest (n + 1) (m + 1)
        revert hlength
        cases scriptsFrom files base (n + 1) e.next <;>
          cases scriptsFrom files base (m + 1) e.next <;> simp [Except.map]
termination_by p.text.length

/-- With one script more, a page that can be read is another one. -/
theorem cons_scriptsFrom (s : Script) (n m : Nat) (p : Place) :
    (scriptsFrom files base n p).map (s :: ·) = scriptsFrom files base m p ↔
      ∃ f, scriptsFrom files base m p = .error f := by
  have hlength := length_scriptsFrom files base n m p
  cases h : scriptsFrom files base n p with
  | error f =>
    cases h' : scriptsFrom files base m p with
    | error f' => simpa [h, h', Except.map] using hlength
    | ok ss' => simp [h, h', Except.map] at hlength
  | ok ss =>
    cases h' : scriptsFrom files base m p with
    | error f' => simp [h, h', Except.map] at hlength
    | ok ss' =>
      rw [h, h'] at hlength
      have hlength : ss.length = ss'.length := Except.ok.inj hlength
      have hne : s :: ss ≠ ss' := by
        rintro rfl
        rw [List.length_cons] at hlength
        omega
      simp [Except.map, hne]

/-- More at the front of its body is all the same to an element if a file stands in place of the body,
and makes another script of it otherwise. -/
theorem elementScripts_body {path : Option String} {body : List Char} {next : Place}
    (hlast : '>' ∈ last) :
    elementScripts files base number ⟨path, last ++ body, next⟩ =
        elementScripts files base number ⟨path, body, next⟩ ↔
      path.isSome = true ∨ ∃ f, elementScripts files base number ⟨path, body, next⟩ = .error f := by
  cases path with
  | some path =>
    have hsame : Element.script? files base number ⟨some path, last ++ body, next⟩ =
        Element.script? files base number ⟨some path, body, next⟩ := by
      cases base <;> rfl
    simp only [elementScripts, hsame, Option.isSome_some, true_or]
  | none =>
    have hblank : ¬ (last ++ body).all Text.isBlank := by
      rw [List.all_eq_true]
      intro hall
      exact absurd (hall '>' (List.mem_append_left _ hlast)) (by decide)
    have hmore : Element.script? files base number ⟨none, last ++ body, next⟩ =
        .ok (some ⟨s!"<script #{number}>", String.ofList (last ++ body)⟩) := by
      cases base <;> exact if_neg hblank
    have hplain : Element.script? files base number ⟨none, body, next⟩ =
        if body.all Text.isBlank then .ok none
        else .ok (some ⟨s!"<script #{number}>", String.ofList body⟩) := by
      cases base <;> rfl
    simp only [elementScripts, hmore, hplain, Option.isSome_none, Bool.false_eq_true, false_or]
    by_cases hb : body.all Text.isBlank
    · -- without the bytes there is one script less
      rw [if_pos hb]
      exact cons_scriptsFrom files base _ (number + 1) number next
    · have hne : last ≠ [] := List.ne_nil_of_mem hlast
      rw [if_neg hb]
      simp only [map_eq_error]
      exact map_cons_eq_map_cons (by simp [hne])

/-- If the last bytes of the tag are whole characters, a tag behind the mark is read as if they stood
behind it once more. -/
theorem tagScripts_of_whole (number : Nat) (rest : List Char) (hbody : opensBody content)
    (hlast : lastBytes? 3 [] ('>' :: content.reverse) = some last) :
    tagScripts files base number content ⟨rest, true⟩ =
        tagScripts files base number content ⟨last ++ rest, false⟩ ∧
      (tagScripts files base number content ⟨rest, true⟩ =
          tagScripts files base number content ⟨rest, false⟩ ↔
        (∃ path, (Tag.ofContent content).source? = .ok (some path)) ∨
          ∃ f, tagScripts files base number content ⟨rest, false⟩ = .error f) := by
  have hbody : (Tag.ofContent content).hasBody = true := (Bool.and_eq_true_iff.1 hbody).2
  obtain ⟨front, hfront, -⟩ := exists_of_lastBytes? hlast
  have hmem : '>' ∈ last := by simp [hfront]
  unfold tagScripts
  rw [read_of_whole hbody hlast]
  refine ⟨rfl, ?_⟩
  rw [read_of_body hbody, read_of_body hbody, splitBody_last hlast]
  cases (Tag.ofContent content).source? with
  | error fault => simp [Except.bind]
  | ok path =>
    cases splitBody [] rest with
    | none => simp [Except.bind]
    | some found =>
      simp only [Except.bind, Option.map_some]
      rw [elementScripts_body files base hmem, Option.isSome_iff_exists]
      simp

/-- If they are not, the tag cannot be read behind the mark. -/
theorem tagScripts_of_broken (number : Nat) (rest : List Char) (hbody : opensBody content)
    (hlast : lastBytes? 3 [] ('>' :: content.reverse) = none) :
    ∃ f, tagScripts files base number content ⟨rest, true⟩ = .error f ∧
      (f = .boot .beyondScriptTag ∨
        tagScripts files base number content ⟨rest, false⟩ = .error f) := by
  have hbody : (Tag.ofContent content).hasBody = true := (Bool.and_eq_true_iff.1 hbody).2
  unfold tagScripts
  rw [read_of_broken hbody hlast, read_of_body hbody]
  cases (Tag.ofContent content).source? with
  | error fault => exact ⟨.boot fault, rfl, .inr rfl⟩
  | ok path => exact ⟨.boot .beyondScriptTag, rfl, .inl rfl⟩

end

/-! ### Pages -/

/-- The character at the beginning of a text that says in which order the bytes are. -/
def mark : Char := '\ufeff'

theorem start_of_unmarked (h : cs.head? ≠ some mark) : Place.start cs = ⟨cs, false⟩ := by
  unfold Place.start
  split
  · exact absurd rfl h
  · rfl

/-- A byte order mark in front of a page makes no difference as long as no script with a body is reached.
The first body that is begins with the last three bytes of its tag, as if these stood behind the tag once
more. That is all the same only if a file stands in place of the body, or if the page cannot be read
anyway. If the bytes are not whole characters, the page cannot be read. -/
theorem scripts_marked (files : Files) (base : Option String) (c : String)
    (hc : c.toList.head? ≠ some mark) :
    (firstBody? c.toList = none →
      scripts files base (String.ofList (mark :: c.toList)) = scripts files base c) ∧
    ∀ content rest, firstBody? c.toList = some (content, rest) →
      ∃ before, c.toList = before ++ '<' :: (content ++ '>' :: rest) ∧
        (∀ last, lastBytes? 3 [] ('>' :: content.reverse) = some last →
          scripts files base (String.ofList (mark :: c.toList)) = scripts files base
            (String.ofList (before ++ '<' :: (content ++ '>' :: (last ++ rest)))) ∧
          (scripts files base (String.ofList (mark :: c.toList)) = scripts files base c ↔
            (∃ path, (Tag.ofContent content).source? = .ok (some path)) ∨
              ∃ f, scripts files base c = .error f)) ∧
        (lastBytes? 3 [] ('>' :: content.reverse) = none →
          ∃ f, scripts files base (String.ofList (mark :: c.toList)) = .error f ∧
            (f = .boot .beyondScriptTag ∨ scripts files base c = .error f)) := by
  have hmarked : scripts files base (String.ofList (mark :: c.toList)) =
      scriptsFrom files base 0 ⟨c.toList, true⟩ := by
    rw [scripts, String.toList_ofList]
    rfl
  have hplain : scripts files base c = scriptsFrom files base 0 ⟨c.toList, false⟩ := by
    rw [scripts, start_of_unmarked hc]
  rw [hmarked, hplain]
  refine ⟨fun hnone => scriptsFrom_of_bodiless files base hnone 0, fun content rest hfirst => ?_⟩
  obtain ⟨before, front, hcs, hfront⟩ := exists_front files base hfirst
  have hopens := opensBody_of_firstBody? hfirst
  have hread (rest' : List Char) (afterMark : Bool) := hfront 0 rest' afterMark
  refine ⟨before, hcs, fun last hlast => ?_, fun hlast => ?_⟩
  · have hshifted : scripts files base
        (String.ofList (before ++ '<' :: (content ++ '>' :: (last ++ rest)))) =
        scriptsFrom files base 0 ⟨before ++ '<' :: (content ++ '>' :: (last ++ rest)), false⟩ := by
      -- the text begins as it did
      have hhead : (before ++ '<' :: (content ++ '>' :: (last ++ rest))).head? ≠ some mark := by
        rw [hcs] at hc
        cases before with
        | nil => exact hc
        | cons d before => exact hc
      rw [scripts, String.toList_ofList, start_of_unmarked hhead]
    rw [hshifted, hread, hcs, hread, hread]
    cases front with
    | error f => exact ⟨rfl, by simp [goingOn]⟩
    | ok ss =>
      obtain ⟨hshift, hiff⟩ := tagScripts_of_whole files base (0 + ss.length) rest hopens hlast
      simp only [goingOn]
      refine ⟨by rw [hshift], ?_⟩
      simp only [map_injective (List.append_right_injective ss), map_eq_error, hiff]
  · rw [hcs, hread, hread]
    cases front with
    | error f => exact ⟨f, rfl, .inr rfl⟩
    | ok ss =>
      obtain ⟨f, hbroken, hf⟩ := tagScripts_of_broken files base (0 + ss.length) rest hopens hlast
      simp only [goingOn, hbroken]
      refine ⟨f, rfl, hf.imp_right fun hf => ?_⟩
      rw [hf]
      rfl

theorem firstBody?_of_nextTag (ht : nextTag cs = .ok (some (content, rest)))
    (hopens : opensBody content) : firstBody? cs = some (content, rest) := by
  rw [firstBody?]
  split
  · next hf => rw [ht] at hf; cases hf
  · next hf => rw [ht] at hf; cases hf
  · next hf =>
    rw [ht] at hf
    cases hf
    exact if_pos hopens

/-- The one script of a page is not what stands between its tags. -/
theorem scripts_marked_inline :
    scripts Files.none none (String.ofList (mark :: "<script>a</script>".toList)) =
        .ok [⟨"<script #0>", "pt>a"⟩] ∧
      scripts Files.none none "<script>a</script>" = .ok [⟨"<script #0>", "a"⟩] := by
  have hscripts (body : List Char) (hbody : Unclosed body) :
      scripts Files.none none (String.ofList (pageOf ⟨[], by decide, by decide⟩
        [⟨"script".toList, body, "script".toList, [], ⟨[], by decide, by decide⟩,
          by decide, hbody, by decide, by decide⟩])) = .ok (scriptsOf 0 [body]) := by
    rw [scripts, String.toList_ofList, start_pageOf]
    exact scriptsFrom_pageOf Files.none 0 _ _
  have hfirst : firstBody? "<script>a</script>".toList =
      some ("script".toList, "a</script>".toList) := by
    have hopens : opensBody "script".toList := by decide
    have htag : readPiece "script>a</script>".toList =
        .ok (.startTag "script".toList, "a</script>".toList) := by
      have hname : "script".toList.map lower = "script".toList := by decide
      exact readPiece_script hname
    exact firstBody?_of_nextTag (nextTag_append (t := []) (by decide) htag) hopens
  obtain ⟨before, hsplit, hwhole, -⟩ := (scripts_marked Files.none none "<script>a</script>"
    (by decide)).2 _ _ hfirst
  obtain rfl : before = [] := by
    have hlength := congrArg List.length hsplit
    simpa using hlength
  refine ⟨?_, ?_⟩
  · rw [(hwhole "pt>".toList (by decide)).1]
    exact (hscripts "pt>a".toList (by decide)).trans (congrArg Except.ok (by decide))
  · exact (hscripts "a".toList (by decide)).trans (congrArg Except.ok (by decide))

end ScriptProxy.Page
