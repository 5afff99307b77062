import XmlDiagnostics.Proofs.Document.Reading
import XmlDiagnostics.Proofs.Text.Places

/-! # Spans point at markup

In a well-formed document the start of an element is the place of the opening bracket of its tag, and its end is the
place behind the closing bracket, in the lines of the text (`spans_point_at_markup`). Two things stand in
the way of the second, both at the very end of the text, and only there:

* an end tag that ends with the text needs no closing bracket;
* behind the last character of a text of `2 ^ 31 - 1` characters in a single line there is no column that a
  position could name. -/

namespace XmlDiagnostics.Document

open Markup Text

/-- A position is that of a text in lines. -/
def StandsAt (lines : List (List Char)) (position : Position) (text : List Char) : Prop :=
  ∃ l k : Nat, position.point = ⟨l + 1, k + 1⟩ ∧ ∃ row, lines[l]? = some row ∧ text <+: row.drop k

/-- A position is the one behind a closing bracket in lines. -/
def BehindBracket (lines : List (List Char)) (position : Position) : Prop :=
  ∃ l k : Nat, position.point = ⟨l + 1, k + 2⟩ ∧ ∃ row, lines[l]? = some row ∧ row[k]? = some '>'

/-- A text ends without a closing bracket. -/
def LacksBracket (text : List Char) : Prop := text.getLast? ≠ some '>'

/-- A text is one line that is too long for its end to have a position. -/
def TooLong (text : List Char) : Prop := text.length = Position.limit ∧ ∀ c ∈ text, isLineEnd c = false

/-! ### Elements and their tokens -/

/-- Every element is that of a tag, with a token that opens it and one that closes it. -/
theorem exists_closes {place : Nat → Position} {tokens : List PlacedToken} {trees : List (Tree Bracket)}
    (h : Bracketed tokens trees) (scope : Scope) {element : Element}
    (hmem : element ∈ Tree.valuesIn (elementTrees place scope trees)) :
    ∃ scope' tag opening closing, Closes tokens tag opening closing ∧
      element = elementOf scope' tag (place opening.start) (place closing.stop) := by
  induction h generalizing scope with
  | nil => cases hmem
  | @other token tokens trees ht _ ih =>
      obtain ⟨scope', tag, opening, closing, hcloses, heq⟩ := ih scope hmem
      exact ⟨scope', tag, opening, closing, by simpa using hcloses.append [token] [], heq⟩
  | @empty tag token tokens trees ht _ ih =>
      simp only [elementTrees, elementTree, Tree.valuesIn, Tree.values, Option.toList_some, List.append_nil,
        List.singleton_append, List.mem_cons] at hmem
      rcases hmem with rfl | hmem
      · exact ⟨_, tag, token, token, .empty (List.mem_cons_self ..) ht, rfl⟩
      · obtain ⟨scope', tag', opening, closing, hcloses, heq⟩ := ih scope hmem
        exact ⟨scope', tag', opening, closing, by simpa using hcloses.append [token] [], heq⟩
  | @pair tag opening inner children closing tokens trees ho hc hinner _ ihInner ih =>
      simp only [elementTrees, elementTree, Tree.valuesIn, Tree.values, Option.toList_some, List.mem_append,
        List.mem_singleton] at hmem
      rcases hmem with (rfl | hmem) | hmem
      · have htokens : opening :: inner ++ closing :: tokens = [] ++ opening :: inner ++ closing :: tokens := rfl
        exact ⟨_, tag, opening, closing, .pair htokens ho hc hinner, rfl⟩
      · obtain ⟨scope', tag', opening', closing', hcloses, heq⟩ := ihInner _ hmem
        exact ⟨scope', tag', opening', closing', by simpa using hcloses.append [opening] (closing :: tokens), heq⟩
      · obtain ⟨scope', tag', opening', closing', hcloses, heq⟩ := ih scope hmem
        refine ⟨scope', tag', opening', closing', ?_, heq⟩
        simpa using hcloses.append (opening :: inner ++ [closing]) []

/-- The opening token begins with a bracket and the name of its tag. -/
theorem written_opening {tokens : List PlacedToken} {tag : Tag} {opening closing : PlacedToken}
    (h : Closes tokens tag opening closing) {written rest : List Char} (hw : Written opening.token written rest) :
    ∃ more, written = '<' :: (tag.name ++ more) := by
  have hcontent : tag.content = tag.name ++ tag.content.dropWhile fun c => !isSeparator c :=
    List.takeWhile_append_dropWhile.symm
  have htoken : opening.token = .startTag tag ∨ opening.token = .emptyTag tag := by
    cases h with
    | empty _ ht => exact .inr ht
    | pair _ ho _ _ => exact .inl ho
  rcases htoken with ht | ht
  · rw [ht] at hw
    cases hw
    exact ⟨_, by rw [hcontent, List.cons_append, List.append_assoc]⟩
  · rw [ht] at hw
    cases hw
    exact ⟨_, by rw [hcontent, List.cons_append, List.append_assoc]⟩

theorem exists_concat_of_cons (c : Char) (rest : List Char) : ∃ start last, c :: rest = start ++ [last] :=
  ⟨(c :: rest).dropLast, (c :: rest).getLast (by simp), (List.dropLast_concat_getLast (by simp)).symm⟩

/-- The closing token has a single closing bracket, at its end, or lacks it at the end of the text. -/
theorem written_closing {tokens : List PlacedToken} {tag : Tag} {opening closing : PlacedToken}
    (h : Closes tokens tag opening closing) {written rest : List Char} (hw : Written closing.token written rest) :
    ∃ start c last, written = start ++ [c, last] ∧ c ≠ '>' ∧ (last = '>' ∨ last ≠ '>' ∧ rest = []) := by
  cases h with
  | empty _ ht =>
      rw [ht] at hw
      cases hw
      exact ⟨'<' :: tag.content, '/', '>', rfl, by decide, .inl rfl⟩
  | pair _ _ hc _ =>
      rw [hc] at hw
      cases hw with
      | @endTag _ blanks close _ hblanks hmem hclose =>
          obtain ⟨start, last, hname⟩ := exists_concat_of_cons '/' (tag.name ++ blanks)
          obtain ⟨start', c, hstart⟩ := exists_concat_of_cons '<' start
          have hbody : '>' ∉ '<' :: '/' :: (tag.name ++ blanks) := by
            simp only [List.mem_cons, not_or]
            exact ⟨by decide, by decide, hmem⟩
          rw [hname] at hbody
          have hlast : last ≠ '>' := by
            rintro rfl
            simp at hbody
          have hc : c ≠ '>' := by
            rintro rfl
            have : '>' ∈ '<' :: start := by rw [hstart]; simp
            refine hbody ?_
            rw [← List.cons_append]
            exact List.mem_append_left _ this
          have hwritten : '<' :: '/' :: tag.name ++ blanks = '<' :: start ++ [last] := congrArg ('<' :: ·) hname
          rcases hclose with rfl | ⟨rfl, rfl⟩
          · refine ⟨'<' :: start, last, '>', ?_, hlast, .inl rfl⟩
            rw [hwritten, List.append_assoc]
            rfl
          · refine ⟨start', c, last, ?_, hc, .inr ⟨hlast, rfl⟩⟩
            rw [hwritten, hstart, List.append_nil, List.append_assoc]
            rfl

/-! ### The end of a token -/

theorem getElem?_of_fromPlace {lines : List (List Char)} {l k : Nat} {c : Char} {rest : List Char}
    (h : fromPlace lines (l, k) = some (c :: rest)) : ∃ row, lines[l]? = some row ∧ row[k]? = some c := by
  obtain ⟨line, hline, hdrop⟩ := Option.map_eq_some_iff.mp h
  refine ⟨line, hline, ?_⟩
  have := congrArg List.head? hdrop
  rwa [List.head?_drop] at this

/-- A text with room for a column behind each of its characters. -/
theorem behindBracket_iff_of_room {lines : List (List Char)} {l k : Nat} {last : Char} {rest : List Char}
    {position : Position} (hplace : position.point = ⟨l + 1, k + 2⟩)
    (h : fromPlace lines (l, k) = some (last :: rest)) : BehindBracket lines position ↔ last = '>' := by
  obtain ⟨line, hline, hlast⟩ := getElem?_of_fromPlace h
  constructor
  · rintro ⟨l', k', hposition, line', hline', hbracket⟩
    rw [hplace, Point.mk.injEq] at hposition
    obtain rfl : l = l' := by omega
    obtain rfl : k = k' := by omega
    rw [hline] at hline'
    obtain rfl := Option.some.inj hline'
    rw [hlast] at hbracket
    exact Option.some.inj hbracket
  · rintro rfl
    exact ⟨l, k, hplace, line, hline, hlast⟩

/-- In a single line that is too long the position of the end is one character early. -/
theorem not_behindBracket_of_tooLong {start : List Char} {c last : Char} (h : TooLong (start ++ [c, last]))
    (hc : c ≠ '>') {position : Position} (hplace : position.point = ⟨1, Position.limit⟩) :
    ¬ BehindBracket (splitLines (start ++ [c, last])) position := by
  obtain ⟨hlength, hline⟩ := h
  rintro ⟨l, k, hposition, line, hlines, hbracket⟩
  rw [splitLines_of_all_not_isLineEnd (by simp) hline] at hlines
  rw [hplace, Point.mk.injEq] at hposition
  simp only [List.length_append, List.length_cons, List.length_nil, Position.limit] at hlength hposition
  obtain rfl : l = 0 := by omega
  obtain rfl : k = start.length := by omega
  obtain rfl := Option.some.inj hlines
  rw [List.getElem?_append_right (Nat.le_refl _), Nat.sub_self] at hbracket
  exact hc (Option.some.inj hbracket)

/-- Where no column is left for the end of a character, the text is one line that ends with it. -/
theorem tooLong_of_no_room {before rest : List Char} {last : Char} {l k : Nat}
    (hlength : (before ++ last :: rest).length < 2 ^ 31) (hend : isLineEnd last = false)
    (hcounts : countsAt 0 0 (byteLength before) (before ++ last :: rest) = (l, k)) (hle : l + k ≤ before.length)
    (hroom : ¬ k + 2 ≤ Position.limit) : rest = [] ∧ l = 0 ∧ TooLong (before ++ last :: rest) := by
  rw [List.length_append, List.length_cons] at hlength
  simp only [Position.limit] at hroom
  obtain rfl : rest = [] := List.length_eq_zero_iff.mp (by omega)
  obtain rfl : l = 0 := by omega
  rw [List.length_nil] at hlength
  refine ⟨rfl, rfl, ?_, fun c hc => ?_⟩
  · rw [List.length_append, List.length_singleton, Position.limit]
    omega
  · rcases List.mem_append.mp hc with hc | hc
    · -- a line end before the last character would have set the column back
      by_contra hmem
      have hnext : ([last] : List Char).head? ≠ some '\n' := by
        intro h
        obtain rfl : last = '\n' := Option.some.inj h
        cases hend
      have hcolumn := column_lt_of_mem_lineEnd 0 0 hc (Bool.not_eq_false _ ▸ hmem) hnext
      rw [hcounts] at hcolumn
      omega
    · rw [List.mem_singleton.mp hc]
      exact hend

/-- Where a column is left for the end of the last character, the text is not too long. -/
theorem not_tooLong_of_room {before : List Char} {last : Char} {l k : Nat}
    (hcounts : countsAt 0 0 (byteLength before) (before ++ [last]) = (l, k)) (hroom : k + 2 ≤ Position.limit) :
    ¬ TooLong (before ++ [last]) := by
  rintro ⟨hlong, hline⟩
  have hbefore := countsAt_of_all_not_isLineEnd (fun c hc => hline c (List.mem_append_left _ hc)) 0 0 [last]
  rw [hcounts, Prod.mk.injEq] at hbefore
  rw [List.length_append, List.length_singleton] at hlong
  omega

/-- A position behind a line end is the first one of a line. -/
theorem not_behindBracket_of_isLineEnd {before : List Char} {last : Char} (hend : isLineEnd last = true) :
    ¬ BehindBracket (splitLines (before ++ [last])) (positionAt (before ++ [last]) (byteLength (before ++ [last]))) := by
  rintro ⟨l, k, hposition, -⟩
  have hcolumn := countsAt_append_lineEnd 0 0 before hend (by simp : ([] : List Char).head? ≠ some '\n')
  rw [positionAt, Position.point_ofCounts, Point.mk.injEq, hcolumn] at hposition
  simp only [Position.limit] at hposition
  omega

/-- The end of a token is behind a closing bracket, but for the two reasons why it cannot be. -/
theorem behindBracket_iff {text start rest : List Char} {c last : Char} (hlength : text.length < 2 ^ 31)
    (htext : text = start ++ [c, last] ++ rest) (hc : c ≠ '>') (hlast : last = '>' ∨ last ≠ '>' ∧ rest = []) :
    BehindBracket (splitLines text) (positionAt text (byteLength (start ++ [c, last]))) ↔
      ¬ (rest = [] ∧ (LacksBracket text ∨ TooLong text)) := by
  have hstop : start ++ [c, last] = (start ++ [c]) ++ [last] := by simp
  have hbefore : text = (start ++ [c]) ++ last :: rest := by rw [htext]; simp
  have hlacks : rest = [] → (LacksBracket text ↔ last ≠ '>') := by
    rintro rfl
    rw [LacksBracket, htext]
    simp
  subst hbefore
  rw [hstop]
  by_cases hend : isLineEnd last = true
  · have hne : last ≠ '>' := by
      rintro rfl
      cases hend
    obtain rfl := (hlast.resolve_left hne).2
    exact iff_of_false (not_behindBracket_of_isLineEnd hend) fun h => h ⟨rfl, .inl ((hlacks rfl).mpr hne)⟩
  · rw [Bool.not_eq_true] at hend
    obtain ⟨l, k, hcounts, hle, -, hposition, hplace⟩ := exists_place hlength rfl hend
    by_cases hroom : k + 2 ≤ Position.limit
    · rw [Nat.min_eq_left hroom] at hposition
      refine (behindBracket_iff_of_room hposition hplace).trans ⟨?_, fun h => ?_⟩
      · rintro rfl ⟨rfl, hlacking | hlong⟩
        · exact (hlacks rfl).mp hlacking rfl
        · exact not_tooLong_of_room hcounts hroom hlong
      · rcases hlast with rfl | ⟨hne, hrest⟩
        · rfl
        · exact absurd ⟨hrest, .inl ((hlacks hrest).mpr hne)⟩ h
    · obtain ⟨rfl, rfl, hlong⟩ := tooLong_of_no_room hlength hend hcounts hle hroom
      rw [Nat.min_eq_right (Nat.le_of_lt (Nat.lt_of_not_le hroom))] at hposition
      refine iff_of_false ?_ fun h => h ⟨rfl, .inr hlong⟩
      rw [← hstop] at hlong hposition ⊢
      exact not_behindBracket_of_tooLong hlong hc hposition

/-! ### The document -/

theorem mem_of_closes {tokens : List PlacedToken} {tag : Tag} {opening closing : PlacedToken}
    (h : Closes tokens tag opening closing) : opening ∈ tokens ∧ closing ∈ tokens := by
  cases h with
  | empty hmem _ => exact ⟨hmem, hmem⟩
  | pair htokens _ _ _ =>
      rw [htokens]
      simp

theorem tag?_opening {tokens : List PlacedToken} {tag : Tag} {opening closing : PlacedToken}
    (h : Closes tokens tag opening closing) : opening.token.tag? = some tag := by
  cases h with
  | empty _ ht => rw [ht]; rfl
  | pair _ ho _ _ => rw [ho]; rfl

theorem withoutMark_of_head?_ne {text : List Char} (h : text.head? ≠ some '\ufeff') : withoutMark text = text := by
  unfold withoutMark
  split
  · exact absurd rfl h
  · rfl

theorem byteLength_eq_zero {text : List Char} : byteLength text = 0 ↔ text = [] := by
  cases text with
  | nil => simp [byteLength]
  | cons c rest =>
      have := c.utf8Size_pos
      simp only [byteLength, reduceCtorEq, iff_false]
      omega

theorem not_isLineEnd_of_mem_name {tag : Tag} {c : Char} (h : c ∈ tag.name) : isLineEnd c = false := by
  have hc : isSeparator c = false := by simpa using List.mem_takeWhile_imp h
  by_contra hend
  rcases isSeparator_of_isLineEnd (Bool.not_eq_false _ ▸ hend) with rfl | rfl | rfl | rfl <;> cases hc

/-- Where a name stands behind a bracket. -/
theorem standsAt_of_append {text before more : List Char} {tag : Tag} (hlength : text.length < 2 ^ 31)
    (htext : text = before ++ '<' :: (tag.name ++ more)) :
    StandsAt (splitLines text) (positionAt text (byteLength before)) ('<' :: tag.name) := by
  obtain ⟨l, k, -, -, hposition, -, hplace⟩ := exists_place hlength htext (by decide)
  obtain ⟨line, hline, hdrop⟩ := Option.map_eq_some_iff.mp hplace
  refine ⟨l, k, hposition, line, hline, ?_⟩
  rw [hdrop, List.takeWhile_append_of_pos fun c hc => by rw [not_isLineEnd_of_mem_name hc]; rfl]
  exact ⟨_, rfl⟩

/-- **Spans point at markup.** Let a text with fewer than `2 ^ 31` characters and no mark at its beginning be
well-formed. Each element starts at an opening bracket with the name of its tag behind it, of which the part after the
first colon is the local name; and it ends behind a closing bracket, unless its last token ends with the text
and either this lacks the bracket or its single line is too long. -/
theorem spans_point_at_markup {text : List Char} (hlength : text.length < 2 ^ 31) (hmark : text.head? ≠ some '\ufeff')
    (hvalid : (Document.read text).valid = true) :
    ∀ element ∈ (Document.read text).tree.values, ∃ tag opening closing,
      Closes (Markup.tokens text).tokens tag opening closing ∧
      element.start = positionAt text opening.start ∧ element.stop = positionAt text closing.stop ∧
      element.name.localName = String.ofList (splitName tag.name).2 ∧
      StandsAt (splitLines text) element.start ('<' :: tag.name) ∧
      (BehindBracket (splitLines text) element.stop ↔
        ¬ (closing.stop = byteLength text ∧ (LacksBracket text ∨ TooLong text))) := by
  intro element hmem
  have hnone : (Document.read text).failure = none := by simpa [Document.valid] using hvalid
  obtain ⟨haccepted, hopen, -⟩ := accepted_of_firstFailure?_eq_none (failure_eq_none_iff.mp hnone)
  obtain ⟨trees, htrees, htree⟩ := exists_bracketed_read text
  have hcompleted : completed text = (Markup.tokens text).tokens := by
    rw [completed, completedAt, hopen, List.map_nil, List.append_nil, haccepted]
  rw [hcompleted] at htrees
  rw [htree, Tree.values, Option.toList_none, List.nil_append] at hmem
  obtain ⟨scope, tag, opening, closing, hcloses, rfl⟩ := exists_closes htrees [] hmem
  have hcover : Cover 0 (Markup.tokens text).tokens text := by
    have := cover_cut (text.length + 1) 0 [] (withoutMark text)
    rw [withoutMark_of_head?_ne hmark] at this
    rw [Markup.tokens, withoutMark_of_head?_ne hmark]
    exact this
  obtain ⟨hopening, hclosing⟩ := mem_of_closes hcloses
  refine ⟨tag, opening, closing, hcloses, rfl, rfl, rfl, ?_, ?_⟩
  · obtain ⟨before, written, rest, htext, hw, hstart, -⟩ := hcover.exists_written hopening
    obtain ⟨more, rfl⟩ := written_opening hcloses hw
    rw [Nat.zero_add] at hstart
    rw [elementOf, hstart]
    have hname : text = before ++ '<' :: (tag.name ++ (more ++ rest)) := by
      rw [htext]
      simp
    exact standsAt_of_append hlength hname
  · obtain ⟨before, written, rest, htext, hw, -, hstop⟩ := hcover.exists_written hclosing
    obtain ⟨start, c, last, rfl, hc, hlast⟩ := written_closing hcloses hw
    rw [Nat.zero_add, ← List.append_assoc] at hstop
    rw [← List.append_assoc] at htext
    have hrest : closing.stop = byteLength text ↔ rest = [] := by
      rw [hstop, htext, byteLength_append _ rest, ← byteLength_eq_zero]
      omega
    rw [elementOf, hrest, hstop]
    exact behindBracket_iff hlength htext hc hlast

/-- The outer element takes up three lines, and the colon in its name is behind a character of two octets. -/
theorem spans_point_at_markup_prefixed :
    let text := "<?x?>\r\n<é:a\n b='1'><c/></é:a>".toList
    text.length < 2 ^ 31 ∧ text.head? ≠ some '\ufeff' ∧ (Document.read text).valid = true ∧
    (Document.read text).tree.values.map (fun e => (e.start, e.stop)) =
      [(⟨2, 1⟩, ⟨3, 18⟩), (⟨3, 8⟩, ⟨3, 12⟩)] ∧
    ∀ element ∈ (Document.read text).tree.values, ∃ tag : Tag,
      element.name.localName = String.ofList (splitName tag.name).2 ∧
      StandsAt (splitLines text) element.start ('<' :: tag.name) ∧ BehindBracket (splitLines text) element.stop := by
  intro text
  have hlength : text.length < 2 ^ 31 := by decide
  have hmark : text.head? ≠ some '\ufeff' := by decide
  have hvalid : (Document.read text).valid = true := by decide +kernel
  refine ⟨hlength, hmark, hvalid, by decide +kernel, fun element hmem => ?_⟩
  obtain ⟨tag, opening, closing, hcloses, -, -, hname, hstands, hbehind⟩ :=
    spans_point_at_markup hlength hmark hvalid element hmem
  have hbracket : ¬ LacksBracket text := fun h => h (by decide)
  have hshort : ¬ TooLong text := fun h => absurd h.1 (by decide)
  exact ⟨tag, hname, hstands, hbehind.mpr fun h => h.2.elim hbracket hshort⟩

/-- An end tag at the end of a text needs no closing bracket, and then the element ends behind its name. -/
theorem stop_without_bracket :
    let text := "<a></a".toList
    text.length < 2 ^ 31 ∧ text.head? ≠ some '\ufeff' ∧ (Document.read text).valid = true ∧
    ∃ element ∈ (Document.read text).tree.values, ¬ BehindBracket (splitLines text) element.stop := by
  intro text
  have hstops : (Document.read text).tree.values.map Element.stop = [⟨1, 7⟩] := by decide +kernel
  obtain ⟨element, hmem, hstop⟩ : ∃ element ∈ (Document.read text).tree.values, element.stop = ⟨1, 7⟩ := by
    rw [← List.mem_map, hstops]
    exact List.mem_singleton_self _
  refine ⟨by decide, by decide, by decide +kernel, element, hmem, ?_⟩
  rw [hstop]
  rintro ⟨l, k, hposition, line, hline, hbracket⟩
  have hplace : (⟨1, 7⟩ : Position).point = ⟨1, 7⟩ := rfl
  rw [hplace, Point.mk.injEq] at hposition
  obtain rfl : l = 0 := by omega
  obtain rfl : k = 5 := by omega
  obtain rfl := Option.some.inj (hline : some text = some line)
  exact absurd hbracket (by decide)

end XmlDiagnostics.Document
