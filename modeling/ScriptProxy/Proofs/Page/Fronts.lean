import ScriptProxy.Proofs.Page.InlineScripts

/-!
# What is read does not depend on what stands behind it

Each reader of markup takes a front of the text, and takes it in the same way with any other rest behind
it: a search for a pattern, a tag with its quotes, a declaration with others inside, and so a piece of
markup (`readPiece_front`) and everything up to the end of the next start tag (`nextTag_front`).
-/

namespace ScriptProxy.Page

variable {cs content rest : List Char}

theorem behind?_front {pattern : List Char} (hne : pattern ≠ []) (h : behind? pattern cs = some rest) :
    ∃ used, cs = used ++ rest ∧ pattern.length ≤ used.length ∧
      ∀ rest', behind? pattern (used ++ rest') = some rest' := by
  induction cs with
  | nil => cases h
  | cons c cs ih =>
    unfold behind? at h
    split at h
    · next hpattern =>
      obtain ⟨back, hback⟩ := List.isPrefixOf_iff_prefix.1 hpattern
      rw [← hback, List.drop_left] at h
      cases h
      refine ⟨pattern, hback.symm, Nat.le_refl _, fun rest' => ?_⟩
      obtain ⟨d, ds, rfl⟩ := List.exists_cons_of_ne_nil hne
      have hprefix : (d :: ds).isPrefixOf (d :: (ds ++ rest')) :=
        List.isPrefixOf_iff_prefix.2 (List.prefix_append (d :: ds) rest')
      rw [List.cons_append, behind?, if_pos hprefix, ← List.cons_append, List.drop_left]
    · next hpattern =>
      obtain ⟨used, rfl, hlength, hused⟩ := ih h
      refine ⟨c :: used, rfl, Nat.le_succ_of_le hlength, fun rest' => ?_⟩
      -- the pattern is no longer than what is used, so that it would be there with any other rest
      have hnot : ¬ pattern.isPrefixOf (c :: (used ++ rest')) := by
        rw [List.isPrefixOf_iff_prefix] at hpattern ⊢
        intro hprefix
        have hshort : pattern <+: c :: used :=
          List.prefix_of_prefix_length_le hprefix (List.prefix_append (c :: used) rest')
            (Nat.le_succ_of_le hlength)
        exact hpattern (hshort.trans (List.prefix_append (c :: used) rest))
      rw [List.cons_append, behind?, if_neg hnot, hused]

theorem splitTag_front {quote : Option Char} {before : List Char}
    (h : splitTag quote before cs = some (content, rest)) :
    ∃ used, content = before.reverse ++ used ∧ cs = used ++ '>' :: rest ∧
      ∀ rest', splitTag quote before (used ++ '>' :: rest') = some (content, rest') := by
  induction cs generalizing quote before with
  | nil => cases h
  | cons c cs ih =>
    unfold splitTag at h
    split at h
    · next hend =>
      obtain ⟨rfl, rfl⟩ := hend
      cases h
      exact ⟨[], by simp, rfl, fun rest' => by simp [splitTag]⟩
    · next hend =>
      obtain ⟨used, hcontent, rfl, hused⟩ := ih h
      refine ⟨c :: used, by simp [hcontent], rfl, fun rest' => ?_⟩
      rw [List.cons_append, splitTag, if_neg hend, hused]

theorem splitDeclaration_front {depth : Nat} {before : List Char}
    (h : splitDeclaration depth before cs = some (content, rest)) :
    ∃ used, cs = used ++ rest ∧
      ∀ rest', splitDeclaration depth before (used ++ rest') = some (content, rest') := by
  induction cs generalizing depth before with
  | nil => cases h
  | cons c cs ih =>
    have step {depth' : Nat} (h : splitDeclaration depth' (c :: before) cs = some (content, rest))
        (heq : ∀ cs, splitDeclaration depth before (c :: cs) =
          splitDeclaration depth' (c :: before) cs) :
        ∃ used, c :: cs = used ++ rest ∧
          ∀ rest', splitDeclaration depth before (used ++ rest') = some (content, rest') := by
      obtain ⟨used, rfl, hused⟩ := ih h
      exact ⟨c :: used, rfl, fun rest' => by rw [List.cons_append, heq, hused]⟩
    unfold splitDeclaration at h
    split at h
    · next hopen => exact step h fun cs => by rw [splitDeclaration, if_pos hopen]
    next hopen =>
    split at h
    · next hclose =>
      split at h
      · next hdepth =>
        cases h
        refine ⟨[c], rfl, fun rest' => ?_⟩
        rw [List.singleton_append, splitDeclaration, if_neg hopen, if_pos hclose, if_pos hdepth]
      · next hdepth =>
        exact step h fun cs => by
          rw [splitDeclaration, if_neg hopen, if_pos hclose, if_neg hdepth]
    · next hclose => exact step h fun cs => by rw [splitDeclaration, if_neg hopen, if_neg hclose]

theorem eq_other_of_closed {fault : MarkupFault} {o : Option (List Char)} {p : Piece}
    (h : closed fault o = .ok (p, rest)) : p = .other ∧ o = some rest := by
  refine ⟨?_, length_closed h⟩
  unfold closed at h
  split at h <;> cases h
  rfl

/-- What ends with a pattern is no tag. -/
theorem closed_front {fault : MarkupFault} {pattern : List Char} {p : Piece} (hne : pattern ≠ [])
    (h : closed fault (behind? pattern cs) = .ok (p, rest)) :
    p = .other ∧ ∃ used, cs = used ++ rest ∧ pattern.length ≤ used.length ∧
      ∀ rest', closed fault (behind? pattern (used ++ rest')) = .ok (.other, rest') := by
  obtain ⟨rfl, hback⟩ := eq_other_of_closed h
  obtain ⟨used, hused, hlength, hfront⟩ := behind?_front hne hback
  exact ⟨rfl, used, hused, hlength, fun rest' => congrArg (closed fault) (hfront rest')⟩

theorem readDeclaration_front {p : Piece} (h : readDeclaration cs = .ok (p, rest)) :
    p = .other ∧ ∃ used, cs = used ++ rest ∧
      ∀ rest', readDeclaration (used ++ rest') = .ok (p, rest') := by
  unfold readDeclaration at h
  split at h
  · next hcomment =>
    obtain ⟨back, rfl⟩ := List.isPrefixOf_iff_prefix.1 hcomment
    obtain ⟨rfl, used, hused, -, hfront⟩ := closed_front (by decide) h
    have hdrop : back = used ++ rest := hused
    subst hdrop
    refine ⟨rfl, ['-', '-'] ++ used, by simp, fun rest' => ?_⟩
    rw [List.append_assoc, readDeclaration, if_pos (by simp)]
    exact hfront rest'
  next hcomment =>
  split at h
  · next hsection =>
    obtain ⟨back, rfl⟩ := List.isPrefixOf_iff_prefix.1 hsection
    obtain ⟨rfl, used, hused, -, hfront⟩ := closed_front (by decide) h
    have hdrop : back = used ++ rest := hused
    subst hdrop
    refine ⟨rfl, "[CDATA[".toList ++ used, by simp, fun rest' => ?_⟩
    rw [List.append_assoc, readDeclaration, if_neg (by simp), if_pos (by simp)]
    exact hfront rest'
  next hsection =>
  split at h
  · next hword =>
    obtain ⟨word, back, rfl, hmap⟩ := startsWithWord_iff.1 hword
    have hlength : word.length = 7 := by
      have := congrArg List.length hmap
      rwa [List.length_map, List.length_map] at this
    have hdrop (back : List Char) : (word ++ back).drop 7 = back := by
      rw [← hlength, List.drop_left]
    rw [hdrop] at h
    split at h
    · cases h
    next name rest₁ hsplit =>
    split at h
    · cases h
    next hname =>
    cases h
    obtain ⟨used, rfl, hfront⟩ := splitDeclaration_front hsplit
    refine ⟨rfl, word ++ used, by simp, fun rest' => ?_⟩
    obtain ⟨c, tail, rfl⟩ : ∃ c tail, word = c :: tail :=
      List.exists_cons_of_length_eq_add_one hlength
    have hc : lower c = 'd' := (List.cons.inj hmap).1
    have hne : '-' ≠ c ∧ '[' ≠ c := by
      constructor <;> rintro rfl <;> exact absurd hc (by decide)
    have hstarts : startsWithWord "doctype".toList (c :: tail ++ (used ++ rest')) :=
      startsWithWord_iff.2 ⟨_, _, rfl, hmap⟩
    rw [List.append_assoc, readDeclaration, if_neg (by simp [hne.1]), if_neg (by simp [hne.2]),
      if_pos hstarts, hdrop, hfront]
    exact if_neg hname
  · cases h

theorem readPiece_front {p : Piece} (h : readPiece cs = .ok (p, rest)) :
    ∃ used, cs = used ++ rest ∧ (∀ content, p = .startTag content → used = content ++ ['>']) ∧
      ∀ rest', readPiece (used ++ rest') = .ok (p, rest') := by
  unfold readPiece at h
  split at h
  · cases h
  · next cs =>
    obtain ⟨rfl, used, rfl, hfront⟩ := readDeclaration_front h
    exact ⟨'!' :: used, rfl, nofun, hfront⟩
  · cases h
  · next cs hne =>
    obtain ⟨rfl, used, rfl, hlength, hfront⟩ := closed_front (by decide) h
    refine ⟨'?' :: used, rfl, nofun, fun rest' => ?_⟩
    cases used with
    | nil => cases hlength
    | cons c used =>
      rw [List.cons_append, List.cons_append, readPiece]
      · exact hfront rest'
      · intro _ heq
        cases heq
        exact hne _ rfl
  · next cs =>
    obtain ⟨rfl, hback⟩ := eq_other_of_closed h
    obtain ⟨⟨content, rest₁⟩, hsplit, rfl⟩ := Option.map_eq_some_iff.1 hback
    obtain ⟨used, -, rfl, hfront⟩ := splitTag_front hsplit
    refine ⟨'/' :: (used ++ ['>']), by simp, nofun, fun rest' => ?_⟩
    rw [List.cons_append, List.append_assoc, readPiece, List.singleton_append, hfront]
    rfl
  · next cs h₁ h₂ h₃ h₄ h₅ =>
    split at h
    · next content' rest' hsplit =>
      cases h
      obtain ⟨used, rfl, rfl, hfront⟩ := splitTag_front hsplit
      refine ⟨content' ++ ['>'], by simp, by simp, fun rest' => ?_⟩
      have hhead {d : Char} {tail : List Char} (heq : content' ++ '>' :: rest' = d :: tail) :
          ∃ tail', content' ++ '>' :: rest = d :: tail' := by
        cases content' with
        | nil => exact ⟨rest, by rw [(List.cons.inj heq).1.symm]; rfl⟩
        | cons c content' =>
          exact ⟨content' ++ '>' :: rest, by rw [(List.cons.inj heq).1.symm]; rfl⟩
      rw [List.append_assoc, List.singleton_append, readPiece, hfront]
      · simp
      · exact fun _ heq => (hhead heq).elim h₂
      · exact fun _ heq => (hhead heq).elim h₄
      · exact fun _ heq => (hhead heq).elim h₄
      · exact fun _ heq => (hhead heq).elim h₅
    · cases h

theorem nextTag_of_other {t : List Char} (ht : '<' ∉ t) (hp : readPiece cs = .ok (.other, rest)) :
    nextTag (t ++ '<' :: cs) = nextTag rest := by
  have hd : (t ++ '<' :: cs).dropWhile (· != '<') = '<' :: cs := by
    rw [List.dropWhile_append_of_pos (by grind)]
    simp
  rw [nextTag]
  split
  · next h => rw [hd] at h; cases h
  · next tail h =>
    rw [hd] at h
    obtain ⟨-, rfl⟩ := List.cons.inj h
    split
    · next hf => rw [hp] at hf; cases hf
    · next hf => rw [hp] at hf; cases hf
    · next hf => rw [hp] at hf; cases hf; rfl

theorem nextTag_front (h : nextTag cs = .ok (some (content, rest))) :
    ∃ before, cs = before ++ '<' :: (content ++ '>' :: rest) ∧ ∀ rest',
      nextTag (before ++ '<' :: (content ++ '>' :: rest')) = .ok (some (content, rest')) := by
  have hsplit {cs tail : List Char} {c : Char} (hd : cs.dropWhile (· != '<') = c :: tail) :
      cs = cs.takeWhile (· != '<') ++ '<' :: tail ∧ '<' ∉ cs.takeWhile (· != '<') := by
    have hc : c = '<' := by
      have := List.head?_dropWhile_not (· != '<') cs
      rw [hd] at this
      simpa using this
    subst hc
    refine ⟨?_, fun hmem => ?_⟩
    · rw [← hd, List.takeWhile_append_dropWhile]
    · simpa using List.mem_takeWhile_imp hmem
  fun_induction nextTag cs with
  | case1 => cases h
  | case2 => cases h
  | case3 cs c tail hd content' rest' hp =>
    cases h
    obtain ⟨hcs, hplain⟩ := hsplit hd
    obtain ⟨used, rfl, hused, hfront⟩ := readPiece_front hp
    obtain rfl := hused content rfl
    refine ⟨cs.takeWhile (· != '<'), by simpa using hcs, fun rest' => ?_⟩
    have hfront := hfront rest'
    rw [List.append_assoc, List.singleton_append] at hfront
    exact nextTag_append hplain hfront
  | case4 cs c tail hd rest₁ hp shorter ih =>
    obtain ⟨hcs, hplain⟩ := hsplit hd
    obtain ⟨used, rfl, -, hfront⟩ := readPiece_front hp
    obtain ⟨before, rfl, hnext⟩ := ih h
    refine ⟨cs.takeWhile (· != '<') ++ '<' :: (used ++ before), by simpa using hcs, fun rest' => ?_⟩
    have hfront := nextTag_of_other hplain (hfront (before ++ '<' :: (content ++ '>' :: rest')))
    rw [hnext] at hfront
    simpa using hfront

end ScriptProxy.Page
