import XmlDiagnostics.Proofs.Markup.Bracketing

/-! # What the contents of tokens can be

A run of text holds no opening bracket, and a comment ends at the first place where it can: `-->` does not
stand inside of it (`hasOwnEnd_cut`). A tag does not begin as other markup does (`head?_content_of_mem_cut`), and one that
has no end tag holds something besides its slash (`content_ne_nil_of_mem_cut`). -/

namespace XmlDiagnostics.Markup

/-- The content of a text or comment reaches as far as it must: a text holds no opening bracket, and a comment
no `-->` in front of its end. -/
def Token.HasOwnEnd : Token → Prop
  | .text content => '<' ∉ content
  | .comment content => ∃ body, content = '!' :: '-' :: '-' :: (body ++ ['-', '-']) ∧
      ¬['-', '-', '>'] <:+: body ++ ['-', '-']
  | _ => True

/-- The bracket at which a text is split is the first one that is accepted. -/
theorem splitAtClose_first {ends : List Char → Bool} {before text content rest : List Char}
    (h : splitAtClose ends before text = some (content, rest)) :
    ∃ own, content = before.reverse ++ own ∧ ends (own.reverse ++ before) = true ∧
      ∀ a b, own = a ++ '>' :: b → ends (a.reverse ++ before) = false := by
  fun_induction splitAtClose ends before text with
  | case1 => cases h
  | case2 before c text hc =>
      obtain ⟨rfl, rfl⟩ := Prod.mk.inj (Option.some.inj h)
      obtain ⟨-, hends⟩ := Bool.and_eq_true_iff.mp hc
      refine ⟨[], by rw [List.append_nil], hends, fun a b hab => ?_⟩
      exact absurd hab.symm (List.append_ne_nil_of_right_ne_nil a (List.cons_ne_nil _ _))
  | case3 before c text hc ih =>
      obtain ⟨own, hcontent, hends, hfirst⟩ := ih h
      refine ⟨c :: own, by rw [hcontent]; simp, by simpa using hends, fun a b hab => ?_⟩
      cases a with
      | nil =>
          obtain ⟨rfl, -⟩ := List.cons.inj hab
          simpa using hc
      | cons c' a =>
          obtain ⟨rfl, hown⟩ := List.cons.inj hab
          simpa using hfirst a b hown

/-- A comment ends with two hyphens behind those of its beginning, and at the first place where it can. -/
theorem hasOwnEnd_comment {text content rest : List Char} (hsplit : splitAtClose endsComment [] text = some (content, rest))
    (hflaw : commentFlaw content = none) : (Token.comment content).HasOwnEnd := by
  obtain ⟨own, hown, hends, hfirst⟩ := splitAtClose_first hsplit
  rw [List.reverse_nil, List.nil_append] at hown
  subst hown
  have hbegin : ['!', '-', '-'].isPrefixOf content = true := by
    unfold commentFlaw at hflaw
    split at hflaw
    · assumption
    · cases hflaw
  obtain ⟨more, rfl⟩ := List.isPrefixOf_iff_prefix.mp hbegin
  rw [List.append_nil, endsComment, Bool.and_eq_true, List.isPrefixOf_iff_prefix] at hends
  obtain ⟨hlong, hend⟩ := hends
  have hlength : 2 ≤ more.length := by
    rw [Bool.not_eq_true', List.isEmpty_eq_false_iff, ← List.length_pos_iff, List.length_drop, List.length_reverse,
      List.length_append] at hlong
    have hthree : ['!', '-', '-'].length = 3 := rfl
    omega
  have hsuffix : ['-', '-'] <:+ more := by
    refine List.suffix_of_suffix_length_le (?_ : ['-', '-'] <:+ ['!', '-', '-'] ++ more) (List.suffix_append _ _) hlength
    exact List.reverse_prefix.mp hend
  obtain ⟨body, rfl⟩ := hsuffix
  refine ⟨body, rfl, ?_⟩
  rintro ⟨a, b, hinfix⟩
  have hown : ['!', '-', '-'] ++ (body ++ ['-', '-']) = ['!', '-', '-'] ++ a ++ ['-', '-'] ++ '>' :: b := by
    rw [← hinfix]
    simp
  have hearlier := hfirst _ b hown
  rw [List.append_nil, endsComment, Bool.and_eq_false_iff] at hearlier
  rcases hearlier with hshort | hno
  · simp at hshort
  · simp at hno

theorem hasOwnEnd_of_readMarkup {opened : List (List Char)} {text rest : List Char} {token : Token} {length : Nat}
    (h : readMarkup opened text = .read token length rest) : token.HasOwnEnd := by
  unfold readMarkup at h
  split at h
  · unfold readBang at h
    split at h
    · cases h
    · rename_i content rest' hsplit
      split at h
      · cases h
      · rename_i hflaw
        obtain ⟨rfl, rfl, rfl⟩ := Reading.read.inj h
        exact hasOwnEnd_comment hsplit hflaw
  · obtain ⟨content, -, rfl, -⟩ := readBang_eq_read h
    trivial
  · obtain ⟨content, -, rfl, -⟩ := readBang_eq_read h
    trivial
  · obtain ⟨content, -, rfl, -⟩ := readBang_eq_read h
    trivial
  · cases h
  · cases h
  · obtain ⟨_, name, -, -, rfl, -⟩ := readEndTag_eq_read h
    trivial
  · obtain ⟨_, content, -, -, rfl, -⟩ := readInstruction_eq_read h
    trivial
  · obtain ⟨_, tag, -, -, htoken, -⟩ := readTag_eq_read h
    rcases htoken with rfl | rfl
    · trivial
    · trivial

/-- The contents of the tokens that a text is cut into end where they must. -/
theorem hasOwnEnd_cut {n offset : Nat} {opened : List (List Char)} {text : List Char} :
    ∀ token ∈ (cut n offset opened text).tokens, token.token.HasOwnEnd := by
  fun_induction cut n offset opened text with
  | case1 | case2 | case3 => exact fun _ h => by cases h
  | case4 n offset opened text hne flaw skipped h => exact fun _ h => by cases h
  | case5 n offset opened text hne token length rest h ih =>
      exact List.forall_mem_cons.mpr ⟨hasOwnEnd_of_readMarkup h, ih⟩
  | case6 n offset opened text h₁ h₂ h₃ content stop ih =>
      refine List.forall_mem_cons.mpr ⟨fun hmem => ?_, ih⟩
      simpa using List.mem_takeWhile_imp hmem

/-- Where a tag is read the text does not begin as other markup does. -/
theorem head?_of_readMarkup {opened : List (List Char)} {text rest : List Char} {token : Token} {length : Nat}
    (h : readMarkup opened text = .read token length rest) {tag : Tag} (htag : token.tag? = some tag) :
    ∀ c, text.head? = some c → c ∉ ['/', '!', '?'] := by
  unfold readMarkup at h
  split at h
  case h_5 | h_6 => cases h
  case h_7 =>
    obtain ⟨_, name, -, -, rfl, -⟩ := readEndTag_eq_read h
    cases htag
  case h_8 =>
    obtain ⟨_, content, -, -, rfl, -⟩ := readInstruction_eq_read h
    cases htag
  case h_9 text hbang hbracket hupper hlower halone hother hslash hquestion =>
    rintro c hc hmem
    obtain ⟨more, rfl⟩ := List.head?_eq_some_iff.mp hc
    simp only [List.mem_cons, List.not_mem_nil, or_false] at hmem
    rcases hmem with rfl | rfl | rfl
    · exact hslash more rfl
    · cases more with
      | nil => exact halone rfl
      | cons d more => exact hother d more rfl
    · exact hquestion more rfl
  all_goals
    obtain ⟨content, -, rfl, -⟩ := readBang_eq_read h
    cases htag

/-- The tags that a text is cut into do not begin as other markup does. -/
theorem head?_content_of_mem_cut {n offset : Nat} {opened : List (List Char)} {text : List Char} :
    ∀ token ∈ (cut n offset opened text).tokens, ∀ tag, token.token.tag? = some tag →
      ∀ c, tag.content.head? = some c → c ∉ ['/', '!', '?'] := by
  fun_induction cut n offset opened text with
  | case1 | case2 | case3 => exact fun _ h => by cases h
  | case4 n offset opened text hne flaw skipped h => exact fun _ h => by cases h
  | case5 n offset opened text hne token length rest h ih =>
      refine List.forall_mem_cons.mpr ⟨fun tag htag c hc => ?_, ih⟩
      obtain ⟨written, htext, -, hwritten, -⟩ := readMarkup_eq_read h
      obtain ⟨slash, -, rfl⟩ := written_of_tag htag hwritten
      obtain ⟨more, hmore⟩ := List.head?_eq_some_iff.mp hc
      refine head?_of_readMarkup h htag c ?_
      rw [(List.cons.inj htext).2, hmore]
      rfl
  | case6 n offset opened text h₁ h₂ h₃ content stop ih =>
      exact List.forall_mem_cons.mpr ⟨fun tag htag => (by cases htag), ih⟩

/-- An empty tag has a content: a bracket with a slash behind it begins an end tag. -/
theorem content_ne_nil_of_mem_cut {n offset : Nat} {opened : List (List Char)} {text : List Char} :
    ∀ token ∈ (cut n offset opened text).tokens, ∀ tag, token.token = .emptyTag tag → tag.content ≠ [] := by
  fun_induction cut n offset opened text with
  | case1 | case2 | case3 => exact fun _ h => by cases h
  | case4 n offset opened text hne flaw skipped h => exact fun _ h => by cases h
  | case5 n offset opened text hne token length rest h ih =>
      refine List.forall_mem_cons.mpr ⟨fun tag htoken hnil => ?_, ih⟩
      obtain rfl : token = .emptyTag tag := htoken
      obtain ⟨written, htext, -, hwritten, -⟩ := readMarkup_eq_read h
      cases hwritten
      have hslash : text.head? = some '/' := by
        rw [hnil] at htext
        rw [(List.cons.inj htext).2]
        rfl
      exact head?_of_readMarkup h rfl '/' hslash (by simp)
  | case6 n offset opened text h₁ h₂ h₃ content stop ih =>
      exact List.forall_mem_cons.mpr ⟨fun tag htag => (by cases htag), ih⟩

end XmlDiagnostics.Markup
