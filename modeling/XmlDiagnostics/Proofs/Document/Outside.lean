import XmlDiagnostics.Proofs.Document.Scoping

/-! # What stands outside of the outermost element

A text is a well-formed document just if its markup has no flaw and its tokens are those of one bracket, with tokens
around it that may stand outside (`valid_iff_surrounded`). What may stand there is told by the kind of a token
alone: blank text, comments and instructions, but also sections of character data, and document type
declarations at any place. Tags and other text may not.

The octets that no token takes can only be that of an opening bracket at the very end of the text. -/

namespace XmlDiagnostics.Markup

/-- Whether a token may stand outside of the outermost element. -/
def Token.isOuter : Token → Bool
  | .text content => content.all Text.isAsciiBlank
  | .startTag _ => false
  | .emptyTag _ => false
  | .endTag _ => false
  | .comment _ => true
  | .characterData _ => true
  | .documentType _ => true
  | .instruction _ => true

theorem Token.isTag_of_isOuter {token : Token} (h : token.isOuter = true) : token.isTag = false := by
  cases token <;> first | rfl | cases h

end XmlDiagnostics.Markup

namespace XmlDiagnostics.Document

open Markup

/-! ### Refusals -/

variable {before tokens : List PlacedToken} {token : PlacedToken}

theorem refusedFrom?_cons_eq_none_iff :
    refusedFrom? before (token :: tokens) = none ↔
      refusal? before token = none ∧ refusedFrom? (before ++ [token]) tokens = none := by
  rw [refusedFrom?]
  cases refusal? before token <;> simp

theorem refusedFrom?_append_eq_none_iff {more : List PlacedToken} :
    refusedFrom? before (tokens ++ more) = none ↔
      refusedFrom? before tokens = none ∧ refusedFrom? (before ++ tokens) more = none := by
  induction tokens generalizing before with
  | nil => simp [refusedFrom?]
  | cons token tokens ih =>
      rw [List.cons_append, refusedFrom?_cons_eq_none_iff, refusedFrom?_cons_eq_none_iff, ih, List.append_assoc,
        List.singleton_append, and_assoc]

theorem refusal?_of_text {content : List Char} (h : token.token = .text content) :
    refusal? before token = none ↔ (openTags before = [] → content.all Text.isAsciiBlank = true) := by
  unfold refusal?
  rw [h]
  cases hblank : content.all Text.isAsciiBlank <;> cases openTags before <;> simp [hblank]

/-- A tag can follow others unless it begins a second element or its attributes are broken. -/
theorem refusal?_eq_none_of_tag {tag : Tag} (htag : token.token.tag? = some tag)
    (hsecond : openTags before = [] → before.any (·.token.isTag) = false)
    (hattributes : ∃ attributes, tag.attributes = .ok attributes) : refusal? before token = none := by
  obtain ⟨attributes, hattributes⟩ := hattributes
  rw [Builder.refusal?_of_tag htag, hattributes]
  cases hopen : openTags before with
  | nil => simp [hsecond hopen]
  | cons opening opened => simp

/-- Tokens that are neither text nor open a tag are never refused. -/
theorem refusal?_eq_none_of_other (htag : token.token.tag? = none) (htext : ∀ content, token.token ≠ .text content) :
    refusal? before token = none := by
  unfold refusal?
  cases ht : token.token <;> simp_all [Token.tag?]

theorem refusal?_eq_none_iff_isOuter (hopen : openTags before = []) (htag : token.token.isTag = false) :
    refusal? before token = none ↔ token.token.isOuter = true := by
  cases ht : token.token with
  | text content => simp [refusal?_of_text ht, hopen, Token.isOuter]
  | startTag | emptyTag | endTag =>
      rw [ht] at htag
      cases htag
  | comment | characterData | documentType | instruction =>
      have : refusal? before token = none := refusal?_eq_none_of_other (by rw [ht]; rfl) (by simp [ht])
      simp [this, Token.isOuter]

/-! ### Outside and inside -/

/-- Whether the attributes of the tags of tokens are not broken. -/
def Readable (tokens : List PlacedToken) : Prop :=
  ∀ token ∈ tokens, ∀ tag, token.token.tag? = some tag → ∃ attributes, tag.attributes = .ok attributes

/-- **Outside**: where nothing is open, tokens without tags are accepted just if all of them may stand there. -/
theorem refusedFrom?_eq_none_iff_isOuter (hopen : openTags before = []) (htags : Bracketed tokens []) :
    refusedFrom? before tokens = none ↔ ∀ token ∈ tokens, token.token.isOuter = true := by
  induction tokens generalizing before with
  | nil => simp [refusedFrom?]
  | cons token tokens ih =>
      cases htags with
      | other ht htokens =>
          have hnext : openTags (before ++ [token]) = [] := by
            rw [openTags_concat, openTagsAfter_of_not_isTag _ ht, hopen]
          rw [refusedFrom?_cons_eq_none_iff, refusal?_eq_none_iff_isOuter hopen ht, ih hnext htokens,
            List.forall_mem_cons]

/-- A pair is accepted if its start tag and what is in it are. -/
theorem refusedFrom?_pair {opening closing : PlacedToken} {inner : List PlacedToken} {name : List Char}
    (hopening : refusal? before opening = none) (hinner : refusedFrom? (before ++ [opening]) inner = none)
    (hc : closing.token = .endTag name) : refusedFrom? before (opening :: inner ++ [closing]) = none := by
  have hclosing : refusal? (before ++ [opening] ++ inner) closing = none :=
    refusal?_eq_none_of_other (by rw [hc]; rfl) (by simp [hc])
  rw [List.cons_append, refusedFrom?_cons_eq_none_iff, refusedFrom?_append_eq_none_iff, refusedFrom?_cons_eq_none_iff]
  exact ⟨hopening, hinner, hclosing, rfl⟩

/-- **Inside**: where a tag is open, brackets are accepted if their attributes are not broken. -/
theorem refusedFrom?_eq_none_of_open {trees : List (Tree Bracket)} (h : Bracketed tokens trees)
    (hopen : openTags before ≠ []) (hreadable : Readable tokens) : refusedFrom? before tokens = none := by
  have htag {before : List PlacedToken} {token : PlacedToken} {tag : Tag} (hopen : openTags before ≠ [])
      (htag : token.token.tag? = some tag) (hattributes : ∃ attributes, tag.attributes = .ok attributes) :
      refusal? before token = none := refusal?_eq_none_of_tag htag (fun hnil => absurd hnil hopen) hattributes
  induction h generalizing before with
  | nil => rfl
  | @other token tokens trees ht _ ih =>
      have hrefusal : refusal? before token = none := by
        cases htoken : token.token with
        | text content => exact (refusal?_of_text htoken).mpr fun hnil => absurd hnil hopen
        | startTag | emptyTag | endTag =>
            rw [htoken] at ht
            cases ht
        | comment | characterData | documentType | instruction =>
            exact refusal?_eq_none_of_other (by rw [htoken]; rfl) (by simp [htoken])
      have hnext : openTags (before ++ [token]) ≠ [] := by
        rw [openTags_concat, openTagsAfter_of_not_isTag _ ht]
        exact hopen
      exact refusedFrom?_cons_eq_none_iff.mpr ⟨hrefusal, ih hnext (List.forall_mem_cons.mp hreadable).2⟩
  | @empty tag token tokens trees ht _ ih =>
      obtain ⟨hfirst, hreadable⟩ := List.forall_mem_cons.mp hreadable
      have htoken : token.token.tag? = some tag := by rw [ht]; rfl
      have hnext : openTags (before ++ [token]) ≠ [] := by
        rw [openTags_concat, openTagsAfter_emptyTag _ ht]
        exact hopen
      exact refusedFrom?_cons_eq_none_iff.mpr ⟨htag hopen htoken (hfirst tag htoken), ih hnext hreadable⟩
  | @pair tag opening inner children closing tokens trees ho hc hinner _ ihInner ih =>
      rw [List.cons_append] at hreadable
      obtain ⟨hfirst, hreadable⟩ := List.forall_mem_cons.mp hreadable
      obtain ⟨hreadableInner, hreadable⟩ := List.forall_mem_append.mp hreadable
      have htoken : opening.token.tag? = some tag := by rw [ho]; rfl
      have hwithin : openTags (before ++ [opening]) ≠ [] := by
        rw [openTags_concat, openTagsAfter_startTag _ ho]
        exact List.cons_ne_nil _ _
      have hnext : openTags (before ++ (opening :: inner ++ [closing])) ≠ [] := by
        rw [(Enclosed.pair ho hc hinner).bracketed.openTags_append]
        exact hopen
      have hsplit : opening :: inner ++ closing :: tokens = (opening :: inner ++ [closing]) ++ tokens := by simp
      rw [hsplit, refusedFrom?_append_eq_none_iff]
      refine ⟨refusedFrom?_pair (htag hopen htoken (hfirst tag htoken)) ?_ hc, ?_⟩
      · exact ihInner hwithin hreadableInner
      · exact ih hnext (List.forall_mem_cons.mp hreadable).2

/-- The tokens of the first element are accepted if their attributes are not broken. -/
theorem refusedFrom?_eq_none_of_enclosed {bracket : Bracket} {children : List (Tree Bracket)}
    (h : Enclosed tokens bracket children)
    (hfirst : before.any (·.token.isTag) = false) (hreadable : Readable tokens) :
    refusedFrom? before tokens = none := by
  cases h with
  | @empty tag token ht =>
      have htoken : token.token.tag? = some tag := by rw [ht]; rfl
      have hattributes := hreadable token (List.mem_singleton_self _) tag htoken
      exact refusedFrom?_cons_eq_none_iff.mpr ⟨refusal?_eq_none_of_tag htoken (fun _ => hfirst) hattributes, rfl⟩
  | @pair tag opening inner children closing ho hc hinner =>
      rw [List.cons_append] at hreadable
      obtain ⟨htag, hreadable⟩ := List.forall_mem_cons.mp hreadable
      have htoken : opening.token.tag? = some tag := by rw [ho]; rfl
      have hwithin : openTags (before ++ [opening]) ≠ [] := by
        rw [openTags_concat, openTagsAfter_startTag _ ho]
        exact List.cons_ne_nil _ _
      have hopening := refusal?_eq_none_of_tag htoken (fun _ => hfirst) (htag tag htoken)
      apply refusedFrom?_pair hopening _ hc
      exact refusedFrom?_eq_none_of_open hinner hwithin (List.forall_mem_append.mp hreadable).1

/-- The tokens of one bracket with tokens around it that may stand outside. -/
structure Surrounded (tokens before element after : List PlacedToken) (bracket : Bracket)
    (children : List (Tree Bracket)) : Prop where
  tokens_eq : tokens = before ++ element ++ after
  enclosed : Enclosed element bracket children
  readable : Readable element
  outer : ∀ token ∈ before ++ after, token.token.isOuter = true

variable {element after : List PlacedToken} {bracket : Bracket} {children : List (Tree Bracket)}

theorem bracketed_nil_of_isOuter (h : ∀ token ∈ tokens, token.token.isOuter = true) : Bracketed tokens [] :=
  bracketed_nil_iff.mpr fun token hmem => Token.isTag_of_isOuter (h token hmem)

theorem any_isTag_of_enclosed (h : Enclosed element bracket children) : element.any (·.token.isTag) = true := by
  cases h with
  | empty ht => simp [ht, Token.isTag]
  | pair ho _ _ => simp [ho, Token.isTag]

theorem any_isTag_of_bracketed_nil (h : Bracketed tokens []) : tokens.any (·.token.isTag) = false := by
  rw [List.any_eq_false]
  intro token hmem
  rw [bracketed_nil_iff.mp h token hmem]
  exact Bool.false_ne_true

theorem Surrounded.bracketed (h : Surrounded tokens before element after bracket children) :
    Bracketed tokens [.node (some bracket) children] := by
  obtain ⟨hbefore, hafter⟩ := List.forall_mem_append.mp h.outer
  rw [h.tokens_eq]
  exact ((bracketed_nil_of_isOuter hbefore).append h.enclosed.bracketed).append (bracketed_nil_of_isOuter hafter)

theorem Surrounded.refusedFrom?_eq_none (h : Surrounded tokens before element after bracket children) :
    refusedFrom? [] tokens = none := by
  obtain ⟨hbefore, hafter⟩ := List.forall_mem_append.mp h.outer
  have htags := bracketed_nil_of_isOuter hbefore
  have hopen : openTags (before ++ element) = [] := (htags.append h.enclosed.bracketed).openTags_eq_nil
  rw [h.tokens_eq, refusedFrom?_append_eq_none_iff, refusedFrom?_append_eq_none_iff, List.nil_append]
  refine ⟨⟨?_, ?_⟩, ?_⟩
  · exact (refusedFrom?_eq_none_iff_isOuter rfl htags).mpr hbefore
  · exact refusedFrom?_eq_none_of_enclosed h.enclosed (any_isTag_of_bracketed_nil htags) h.readable
  · exact (refusedFrom?_eq_none_iff_isOuter hopen (bracketed_nil_of_isOuter hafter)).mpr hafter

/-- Accepted tokens that make one tree are those of its bracket, surrounded by others. -/
theorem exists_surrounded {tree : Tree Bracket} (h : Bracketed tokens [tree]) (hrefused : refusedFrom? [] tokens = none) :
    ∃ before element after bracket children, tree = .node (some bracket) children ∧
      Surrounded tokens before element after bracket children := by
  obtain ⟨before, element, after, bracket, children, rfl, rfl, helement, hbefore, hafter⟩ := h.exists_enclosed
  have haccepted := acceptedFrom_of_refusedFrom?_eq_none hrefused
  have hopen : openTags (before ++ element) = [] := (hbefore.append helement.bracketed).openTags_eq_nil
  rw [refusedFrom?_append_eq_none_iff, refusedFrom?_append_eq_none_iff] at hrefused
  refine ⟨before, element, after, bracket, children, rfl, rfl, helement, ?_, ?_⟩
  · intro token hmem tag htag
    have hmem' : token ∈ acceptedFrom [] (before ++ element ++ after) := by
      rw [haccepted]
      simp [hmem]
    exact exists_attributes_of_mem_acceptedFrom hmem' htag
  · refine List.forall_mem_append.mpr ⟨?_, ?_⟩
    · exact (refusedFrom?_eq_none_iff_isOuter rfl hbefore).mp hrefused.1.1
    · exact (refusedFrom?_eq_none_iff_isOuter hopen hafter).mp hrefused.2

/-! ### Octets -/

/-- The tokens of a bracket lie between its beginning and its end. -/
theorem span_of_mem_enclosed (h : Enclosed element bracket children) {offset : Nat} (horder : InOrder offset element)
    {token : PlacedToken} (hmem : token ∈ element) :
    bracket.opening.start ≤ token.start ∧ token.stop ≤ bracket.closing.stop := by
  cases h with
  | empty ht =>
      obtain rfl := List.mem_singleton.mp hmem
      exact ⟨Nat.le_refl _, Nat.le_refl _⟩
  | @pair tag opening inner children closing ho hc hinner =>
      rw [List.cons_append] at horder hmem
      obtain ⟨-, hopening, hrest⟩ := horder
      have hend : endOf opening.stop (inner ++ [closing]) = closing.stop := by
        rw [endOf_append]
        rfl
      rcases List.mem_cons.mp hmem with rfl | hmem
      · refine ⟨Nat.le_refl _, ?_⟩
        rw [← hend]
        exact hrest.le_endOf
      · obtain ⟨hstart, hstop⟩ := hrest.bounds_of_mem hmem
        exact ⟨hopening.trans hstart, hend ▸ hstop⟩

/-- The octets of a text are those of its tokens, and that of an opening bracket at its very end. -/
theorem exists_token_of_octet {text : List Char} (hflaw : (Markup.tokens text).flaw = none) {o : Nat}
    (ho : o < Text.byteLength (withoutMark text)) :
    (∃ token ∈ (Markup.tokens text).tokens, token.start ≤ o ∧ o < token.stop) ∨
      (o + 1 = Text.byteLength (withoutMark text) ∧ (withoutMark text).getLast? = some '<') := by
  have hlength : (withoutMark text).length < text.length + 1 := by
    unfold withoutMark
    split
    · simp only [List.length_cons]
      omega
    · exact Nat.lt_succ_self _
  have hcover : Cover 0 (Markup.tokens text).tokens (withoutMark text) := cover_cut _ _ _ _
  obtain ⟨covered, last, htext, hlast, hend⟩ := exists_covered_cut hlength hflaw
  have hcovered : endOf 0 (Markup.tokens text).tokens = Text.byteLength covered := by
    rw [Nat.zero_add] at hend
    exact hend
  rw [htext, Text.byteLength_append] at ho ⊢
  by_cases hin : o < Text.byteLength covered
  · exact .inl (hcover.exists_token (Nat.zero_le o) (hcovered ▸ hin))
  · rcases hlast with rfl | rfl
    · rw [Text.byteLength] at ho
      omega
    · have hbracket : Text.byteLength ['<'] = 1 := rfl
      rw [hbracket] at ho ⊢
      refine .inr ⟨by omega, ?_⟩
      exact List.getLast?_concat

/-! ### The document -/

theorem firstFailure?_eq_none_iff {text : List Char} :
    firstFailure? text = none ↔
      refusedFrom? [] (Markup.tokens text).tokens = none ∧ (Markup.tokens text).flaw = none ∧
        openTags (Markup.tokens text).tokens = [] ∧ (Markup.tokens text).tokens.any (·.token.isTag) = true := by
  constructor
  · intro h
    obtain ⟨haccepted, hopen, htag, hflaw⟩ := accepted_of_firstFailure?_eq_none h
    rw [haccepted] at hopen htag
    exact ⟨(Option.or_eq_none_iff.mp h).1, hflaw, hopen, htag⟩
  · rintro ⟨hrefused, hflaw, hopen, htag⟩
    have haccepted : accepted text = (Markup.tokens text).tokens := acceptedFrom_of_refusedFrom?_eq_none hrefused
    rw [firstFailure?, hrefused, Option.none_or, flawAtEnd?, hflaw, haccepted, hopen, htag]
    rfl

theorem valid_iff {text : List Char} : (Document.read text).valid = true ↔ firstFailure? text = none := by
  rw [Document.valid, Option.isNone_iff_eq_none, failure_eq_none_iff]

/-- The tokens of a well-formed document are those of its one element, surrounded by others. -/
theorem exists_surrounded_of_valid {text : List Char} (h : (Document.read text).valid = true) :
    ∃ before element after bracket children,
      Surrounded (Markup.tokens text).tokens before element after bracket children ∧
        (Document.read text).tree =
          .node none [elementTree (Text.positionAt text) [] (.node (some bracket) children)] := by
  rw [valid_iff] at h
  obtain ⟨trees, htrees, htree⟩ := exists_bracketed_read text
  have hone := (length_children_read text).2 (failure_eq_none_iff.mpr h)
  have hrefused := (firstFailure?_eq_none_iff.mp h).1
  obtain ⟨haccepted, hopen, -, -⟩ := accepted_of_firstFailure?_eq_none h
  rw [completed, completedAt, hopen, List.map_nil, List.append_nil, haccepted] at htrees
  rw [htree, Tree.children] at hone
  obtain ⟨tree, rfl⟩ : ∃ tree, trees = [tree] := by
    cases trees with
    | nil => cases hone
    | cons tree trees =>
        cases trees with
        | nil => exact ⟨tree, rfl⟩
        | cons tree' trees => simp [elementTrees] at hone
  obtain ⟨before, element, after, bracket, children, rfl, hsurrounded⟩ := exists_surrounded htrees hrefused
  exact ⟨before, element, after, bracket, children, hsurrounded, htree⟩

/-- **Outside of the outermost element.** A text is a well-formed document just if its markup has no flaw and its tokens
are those of one bracket, with readable attributes in its tags, among tokens that may stand outside. Then its tree is
the element of this bracket, and each octet of the text is one of a token outside, or lies within the span of the
element, or is that of an opening bracket with which the text ends. -/
theorem valid_iff_surrounded (text : List Char) :
    (Document.read text).valid = true ↔
      (Markup.tokens text).flaw = none ∧
      ∃ before element after bracket children,
        Surrounded (Markup.tokens text).tokens before element after bracket children ∧
        (Document.read text).tree =
          .node none [elementTree (Text.positionAt text) [] (.node (some bracket) children)] ∧
        ∀ o < Text.byteLength (withoutMark text),
          (∃ token ∈ before ++ after, token.start ≤ o ∧ o < token.stop) ∨
          (bracket.opening.start ≤ o ∧ o < bracket.closing.stop) ∨
          (o + 1 = Text.byteLength (withoutMark text) ∧ (withoutMark text).getLast? = some '<') := by
  constructor
  · intro h
    have hflaw := (firstFailure?_eq_none_iff.mp (valid_iff.mp h)).2.1
    obtain ⟨before, element, after, bracket, children, hsurrounded, htree⟩ := exists_surrounded_of_valid h
    refine ⟨hflaw, before, element, after, bracket, children, hsurrounded, htree, ?_⟩
    intro o ho
    rcases exists_token_of_octet hflaw ho with ⟨token, hmem, hoctet⟩ | hlast
    · rw [hsurrounded.tokens_eq, List.append_assoc, List.mem_append, List.mem_append] at hmem
      have horder : InOrder 0 (Markup.tokens text).tokens := (cover_cut _ _ _ _).inOrder
      rw [hsurrounded.tokens_eq, inOrder_append, inOrder_append] at horder
      rcases hmem with hmem | hmem | hmem
      · exact .inl ⟨token, by simp [hmem], hoctet⟩
      · obtain ⟨hstart, hstop⟩ := span_of_mem_enclosed hsurrounded.enclosed horder.1.2 hmem
        exact .inr (.inl ⟨hstart.trans hoctet.1, hoctet.2.trans_le hstop⟩)
      · exact .inl ⟨token, by simp [hmem], hoctet⟩
    · exact .inr (.inr hlast)
  · rintro ⟨hflaw, before, element, after, bracket, children, hsurrounded, -, -⟩
    rw [valid_iff, firstFailure?_eq_none_iff]
    refine ⟨hsurrounded.refusedFrom?_eq_none, hflaw, hsurrounded.bracketed.openTags_eq_nil, ?_⟩
    rw [hsurrounded.tokens_eq, List.any_append, List.any_append, any_isTag_of_enclosed hsurrounded.enclosed,
      Bool.or_true, Bool.true_or]

/-- Character data behind the outermost element leaves a document well-formed. -/
theorem valid_of_character_data_behind :
    let text := "<a/><![CDATA[x]]>".toList
    (Document.read text).valid = true ∧
      (Document.read text).tree.values.map (fun element => (element.start, element.stop)) = [(⟨1, 1⟩, ⟨1, 5⟩)] ∧
      ⟨.characterData "![CDATA[x]]".toList, 4, 17⟩ ∈ (Markup.tokens text).tokens := by
  decide +kernel

end XmlDiagnostics.Document
