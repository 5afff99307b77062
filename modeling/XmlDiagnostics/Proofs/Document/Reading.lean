import XmlDiagnostics.Document
import XmlDiagnostics.Proofs.Markup.Bracketing

/-! # What reading a document gives

`Document.read` puts tokens together with a stack of open elements. Here its result is described
without the stack.

* **Where reading ends** (`failure_read`). `refusal?` tells why a token cannot follow others. The tokens before the
  first one that is refused are accepted; `firstFailure?` is the refusal, else a flaw of the markup, else
  what is missing at the end.
* **What the tree is** (`exists_bracketed_read`). The accepted tokens, completed by end tags where reading ends, make
  trees of brackets. The tree of the document has an element in the place of each bracket, with
  the namespaces of the tags around it (`elementTree`).

Both are carried through the tokens by one invariant of the builder, `Stands`, which a token keeps
(`feed_of_stands`). -/

namespace XmlDiagnostics.Document

open Markup

/-! ### Elements of brackets -/

/-- The keys and values of a tag, none if they are broken. -/
def pairsOf (tag : Tag) : List (List Char × List Char) := tag.attributes.toOption.getD []

/-- The namespaces declared within a tag, given those declared around it. -/
def scopeWithin (scope : Scope) (tag : Tag) : Scope := scopeOf (pairsOf tag) ++ scope

/-- The name of a tag where namespaces are declared. -/
def qualifiedName (scope : Scope) (tag : Tag) : QName :=
  ⟨resolve scope (splitName tag.name).1, String.ofList (splitName tag.name).2⟩

/-- The element of a tag with a span, where namespaces are declared. -/
def elementOf (scope : Scope) (tag : Tag) (start stop : Position) : Element :=
  ⟨qualifiedName scope tag, properAttributes (pairsOf tag), start, stop⟩

mutual

/-- The elements in the places of brackets; `place` tells the position of an octet. -/
def elementTree (place : Nat → Position) (scope : Scope) : Tree Bracket → Tree Element
  | .node none children => .node none (elementTrees place scope children)
  | .node (some bracket) children =>
    let scope := scopeWithin scope bracket.tag
    .node (some (elementOf scope bracket.tag (place bracket.opening.start) (place bracket.closing.stop)))
      (elementTrees place scope children)

/-- The elements in the places of brackets, for one tree after the other. -/
def elementTrees (place : Nat → Position) (scope : Scope) : List (Tree Bracket) → List (Tree Element)
  | [] => []
  | tree :: trees => elementTree place scope tree :: elementTrees place scope trees

end

theorem elementTrees_append (place : Nat → Position) (scope : Scope) (trees trees' : List (Tree Bracket)) :
    elementTrees place scope (trees ++ trees') = elementTrees place scope trees ++ elementTrees place scope trees' := by
  induction trees with
  | nil => rfl
  | cons tree trees ih => rw [List.cons_append, elementTrees, elementTrees, ih, List.cons_append]

/-! ### Where reading ends -/

/-- Why a token cannot follow others: there is one element outermost, the attributes of a tag are not broken,
and text outside of elements is blank. -/
def refusal? (before : List PlacedToken) (token : PlacedToken) : Option Flaw :=
  let outside := (openTags before).isEmpty
  let hasTag := before.any (·.token.isTag)
  match token.token with
  | .text content =>
    if outside && !content.all Text.isAsciiBlank then some (if hasTag then .textAfterElement else .textBeforeElement)
    else none
  | other =>
    match other.tag? with
    | none => none
    | some tag =>
      if outside && hasTag then some .secondElement
      else
        match tag.attributes with
        | .error flaw => some (.attributes flaw)
        | .ok _ => none

/-- The tokens up to the first one that is refused after those before it. -/
def acceptedFrom (before : List PlacedToken) : List PlacedToken → List PlacedToken
  | [] => []
  | token :: tokens =>
    match refusal? before token with
    | some _ => []
    | none => token :: acceptedFrom (before ++ [token]) tokens

/-- Where and why the first token is refused. -/
def refusedFrom? (before : List PlacedToken) : List PlacedToken → Option (Nat × Flaw)
  | [] => none
  | token :: tokens =>
    match refusal? before token with
    | some flaw => some (token.start, flaw)
    | none => refusedFrom? (before ++ [token]) tokens

/-- The tokens of a text that are put together to its tree. -/
def accepted (text : List Char) : List PlacedToken := acceptedFrom [] (Markup.tokens text).tokens

/-- What is wrong at the end of a text all of whose tokens are accepted. -/
def flawAtEnd? (text : List Char) : Option (Nat × Flaw) :=
  match (Markup.tokens text).flaw with
  | some flaw => some (flaw.offset, .markup flaw.flaw)
  | none =>
    if !(openTags (accepted text)).isEmpty then some (Text.byteLength text, .openElement)
    else if !(accepted text).any (·.token.isTag) then some (Text.byteLength text, .noElement)
    else none

/-- Where and why a text is not well-formed. -/
def firstFailure? (text : List Char) : Option (Nat × Flaw) :=
  (refusedFrom? [] (Markup.tokens text).tokens).or (flawAtEnd? text)

/-- The accepted tokens, with an end tag where reading ends for every tag that is open there. -/
def completed (text : List Char) : List PlacedToken :=
  completedAt ((firstFailure? text).elim 0 Prod.fst) (accepted text)

/-! ### The builder -/

namespace Builder

/-- The builder has read tokens whose open tags are `openings`: its finished trees are those of brackets, and
each open element stands after the tokens of what is around it. -/
inductive Reached (place : Nat → Position) : List PlacedToken → List PlacedToken → Builder → Prop
  | outside {tokens trees} : Bracketed tokens trees →
      Reached place tokens [] ⟨[], (elementTrees place [] trees).reverse⟩
  | inside {tokens openings b tag opening inner trees} : Reached place tokens openings b →
      opening.token = .startTag tag → Bracketed inner trees →
      Reached place (tokens ++ opening :: inner) (opening :: openings)
        ⟨⟨elementOf (scopeWithin b.scope tag) tag (place opening.start) .unknown, scopeWithin b.scope tag,
          (elementTrees place (scopeWithin b.scope tag) trees).reverse⟩ :: b.opened, b.finished⟩

variable {place : Nat → Position} {tokens openings more : List PlacedToken} {b : Builder}

/-- Tokens that make one tree attach its elements. -/
theorem Reached.attach (h : Reached place tokens openings b) {tree : Tree Bracket} (hmore : Bracketed more [tree]) :
    Reached place (tokens ++ more) openings (b.attach (elementTree place b.scope tree)) := by
  cases h with
  | outside htrees =>
      have : Reached place _ [] _ := .outside (htrees.append hmore)
      rw [elementTrees_append, List.reverse_append] at this
      exact this
  | inside hb ho hinner =>
      have := hb.inside ho (hinner.append hmore)
      rw [elementTrees_append, List.reverse_append, ← List.cons_append, ← List.append_assoc] at this
      exact this

/-- Tokens that make no tree change nothing. -/
theorem Reached.skip (h : Reached place tokens openings b) (hmore : Bracketed more []) :
    Reached place (tokens ++ more) openings b := by
  cases h with
  | outside htrees =>
      have : Reached place _ [] _ := .outside (htrees.append hmore)
      rwa [List.append_nil] at this
  | inside hb ho hinner =>
      have := hb.inside ho (hinner.append hmore)
      rwa [List.append_nil, ← List.cons_append, ← List.append_assoc] at this

/-- An end tag for the innermost open tag attaches its element. -/
theorem Reached.close {o : OpenElement} {opened : List OpenElement} {finished : List (Tree Element)}
    {opening closing : PlacedToken} (h : Reached place tokens (opening :: openings) ⟨o :: opened, finished⟩)
    (hclosing : closing.token = .endTag opening.name) :
    Reached place (tokens ++ [closing]) openings (Builder.attach ⟨opened, finished⟩ (o.close (place closing.stop))) := by
  cases h with
  | @inside tokens _ b tag _ inner trees hb ho hinner =>
      have hname : opening.name = tag.name := by simp [PlacedToken.name, ho, Token.tag?]
      rw [hname] at hclosing
      have hpair : Bracketed (opening :: inner ++ [closing]) [.node (some ⟨tag, opening, closing⟩) trees] :=
        .pair ho hclosing hinner .nil
      have := hb.attach hpair
      rw [← List.append_assoc] at this
      simpa [OpenElement.close, elementTree, elementOf] using this

theorem Reached.isEmpty_opened (h : Reached place tokens openings b) : b.opened.isEmpty = openings.isEmpty := by
  cases h with
  | outside => rfl
  | inside => rfl

/-! ### Closing what is open -/

theorem closeAll_cons (position : Position) (o : OpenElement) (opened : List OpenElement)
    (finished : List (Tree Element)) :
    closeAll position (o :: opened) finished =
      closeAll position (Builder.attach ⟨opened, finished⟩ (o.close position)).opened
        (Builder.attach ⟨opened, finished⟩ (o.close position)).finished := by
  cases opened with
  | nil => rw [closeAll, attach, closeAll]
  | cons parent opened => rw [closeAll, attach]

/-- Closing all open elements at an octet reads one end tag there for each open tag. -/
theorem Reached.closeAll (h : Reached place tokens openings b) (offset : Nat) :
    Reached place (tokens ++ openings.map (closingAt offset)) []
      ⟨[], closeAll (place offset) b.opened b.finished⟩ := by
  induction openings generalizing tokens b with
  | nil =>
      cases h with
      | outside htrees =>
          rw [Builder.closeAll, List.map_nil, List.append_nil]
          exact .outside htrees
  | cons opening openings ih =>
      obtain ⟨opened, finished⟩ := b
      cases opened with
      | nil => cases h.isEmpty_opened
      | cons o opened =>
          have hclosing : (closingAt offset opening).token = .endTag opening.name := rfl
          have := ih (h.close hclosing)
          rw [closeAll_cons]
          rwa [List.append_assoc] at this

theorem Reached.exists_bracketed (h : Reached place tokens [] b) :
    ∃ trees, Bracketed tokens trees ∧ b.finished = (elementTrees place [] trees).reverse := by
  cases h with
  | outside htrees => exact ⟨_, htrees, rfl⟩

/-- The tree of what has been read, with what is open ended at an octet or nothing open. -/
theorem Reached.exists_toTree (h : Reached place tokens openings b) {offset : Nat} {stop : Position}
    (hstop : stop = place offset ∨ openings = []) :
    ∃ trees, Bracketed (tokens ++ openings.map (closingAt offset)) trees ∧
      b.toTree stop = .node none (elementTrees place [] trees) := by
  obtain ⟨trees, htrees, hfinished⟩ := (h.closeAll offset).exists_bracketed
  refine ⟨trees, htrees, ?_⟩
  have hclose : Builder.closeAll stop b.opened b.finished = Builder.closeAll (place offset) b.opened b.finished := by
    rcases hstop with rfl | rfl
    · rfl
    · have hempty := h.isEmpty_opened
      rw [List.isEmpty_nil, List.isEmpty_iff] at hempty
      rw [hempty, Builder.closeAll, Builder.closeAll]
  dsimp only at hfinished
  unfold toTree
  rw [hclose, hfinished, List.reverse_reverse]

/-! ### One token -/

/-- The builder has read tokens all of which were accepted. -/
structure Stands (place : Nat → Position) (before : List PlacedToken) (b : Builder) : Prop where
  reached : Reached place before (openTags before) b
  hasElement : b.hasElement = before.any (·.token.isTag)
  finished_eq_nil : b.opened ≠ [] → b.finished = []
  length_finished_le : b.finished.length ≤ 1

theorem stands_start : Stands place [] start where
  reached := .outside .nil
  hasElement := rfl
  finished_eq_nil := fun h => absurd rfl h
  length_finished_le := Nat.zero_le 1

theorem hasElement_attach (b : Builder) (tree : Tree Element) : (b.attach tree).hasElement = true := by
  unfold attach hasElement
  split <;> simp_all

theorem any_isTag_concat (before : List PlacedToken) {token : PlacedToken} (h : token.token.isTag = true) :
    (before ++ [token]).any (·.token.isTag) = true := by
  simp [h]

variable {before : List PlacedToken} {token : PlacedToken}

theorem refusal?_of_tag {tag : Tag} (htag : token.token.tag? = some tag) :
    refusal? before token =
      if (openTags before).isEmpty && before.any (·.token.isTag) then some .secondElement
      else
        match tag.attributes with
        | .error flaw => some (.attributes flaw)
        | .ok _ => none := by
  unfold refusal?
  cases ht : token.token <;> simp_all [Token.tag?]

/-- Opening a tag fails for the reasons for which its token is refused. -/
theorem openTag_of_stands (h : Stands place before b) {tag : Tag} (htag : token.token.tag? = some tag)
    (position : Position) :
    b.openTag tag position =
      match refusal? before token with
      | some flaw => .error flaw
      | none => .ok ⟨⟨elementOf (scopeWithin b.scope tag) tag position .unknown, scopeWithin b.scope tag, []⟩ :: b.opened,
          b.finished⟩ := by
  rw [refusal?_of_tag htag, openTag, h.reached.isEmpty_opened, h.hasElement]
  split
  · rfl
  · cases hattributes : tag.attributes with
    | error flaw => rfl
    | ok attributes => simp [elementOf, qualifiedName, scopeWithin, pairsOf, hattributes, Except.toOption]

/-- Attaching a tree keeps a single outermost element if none is finished. -/
theorem finished_attach {b : Builder} (h : b.finished = []) (tree : Tree Element) :
    ((b.attach tree).opened ≠ [] → (b.attach tree).finished = []) ∧ (b.attach tree).finished.length ≤ 1 := by
  obtain ⟨opened, finished⟩ := b
  cases opened with
  | nil => simp_all [attach]
  | cons o opened => simp_all [attach]

/-- A tag is not refused where its element is the second one outermost. -/
theorem Stands.finished_eq_nil_of_tag (h : Stands place before b) {tag : Tag} (htag : token.token.tag? = some tag)
    (hrefusal : refusal? before token = none) : b.finished = [] := by
  by_cases hopened : b.opened = []
  · have hempty : (openTags before).isEmpty = true := by rw [← h.reached.isEmpty_opened, hopened]; rfl
    rw [refusal?_of_tag htag, hempty, ← h.hasElement, Bool.true_and] at hrefusal
    have hnone : b.hasElement = false := by
      by_contra hb
      rw [if_pos (Bool.not_eq_false _ ▸ hb)] at hrefusal
      cases hrefusal
    simp only [Builder.hasElement, hopened, List.isEmpty_nil, Bool.not_true, Bool.false_or, Bool.not_eq_eq_eq_not,
      Bool.not_false, List.isEmpty_iff] at hnone
    exact hnone
  · exact h.finished_eq_nil hopened

/-- A start tag that is not refused opens an element. -/
theorem feed_startTag (h : Stands place before b) {tag : Tag} (ht : token.token = .startTag tag)
    (hrefusal : refusal? before token = none) :
    ∃ b', b.feed place token = .ok b' ∧ Stands place (before ++ [token]) b' := by
  have htag : token.token.tag? = some tag := by rw [ht]; rfl
  have hopen := openTag_of_stands h htag (place token.start)
  rw [hrefusal] at hopen
  refine ⟨_, by simp only [feed, ht, hopen]; rfl, ?_, ?_, ?_, ?_⟩
  · rw [openTags_concat, openTagsAfter, ht]
    exact h.reached.inside ht .nil
  · rw [any_isTag_concat before (by rw [ht]; rfl)]
    rfl
  · exact fun _ => h.finished_eq_nil_of_tag htag hrefusal
  · exact h.length_finished_le

/-- An empty tag that is not refused attaches an element. -/
theorem feed_emptyTag (h : Stands place before b) {tag : Tag} (ht : token.token = .emptyTag tag)
    (hrefusal : refusal? before token = none) :
    ∃ b', b.feed place token = .ok b' ∧ Stands place (before ++ [token]) b' := by
  have htag : token.token.tag? = some tag := by rw [ht]; rfl
  have hopen := openTag_of_stands h htag (place token.start)
  rw [hrefusal] at hopen
  have hattach := finished_attach (h.finished_eq_nil_of_tag htag hrefusal)
  refine ⟨b.attach (elementTree place b.scope (.node (some ⟨tag, token, token⟩) [])), ?_, ?_, ?_, ?_, ?_⟩
  · simp only [feed, ht, hopen]
    rfl
  · rw [openTags_concat, openTagsAfter, ht]
    exact h.reached.attach (.empty ht .nil)
  · rw [any_isTag_concat before (by rw [ht]; rfl), hasElement_attach]
  · exact (hattach _).1
  · exact (hattach _).2

/-- An end tag for the innermost open tag closes its element. -/
theorem feed_endTag (h : Stands place before b) {name : List Char} (ht : token.token = .endTag name)
    (hname : ((openTags before).map PlacedToken.name).head? = some name) :
    ∃ b', b.feed place token = .ok b' ∧ Stands place (before ++ [token]) b' := by
  obtain ⟨opened, finished⟩ := b
  have hreached := h.reached
  have hempty := hreached.isEmpty_opened
  cases hopenings : openTags before with
  | nil => simp [hopenings] at hname
  | cons opening openings =>
      cases opened with
      | nil => simp [hopenings] at hempty
      | cons o opened =>
          obtain rfl : opening.name = name := by simpa [hopenings] using hname
          rw [hopenings] at hreached
          have hfinished : finished = [] := h.finished_eq_nil (by simp)
          have hattach := finished_attach (b := ⟨opened, finished⟩) hfinished
          refine ⟨Builder.attach ⟨opened, finished⟩ (o.close (place token.stop)), ?_, ?_, ?_, ?_, ?_⟩
          · simp only [feed, ht]
            rfl
          · rw [openTags_concat, openTagsAfter, ht, hopenings]
            exact hreached.close ht
          · rw [any_isTag_concat before (by rw [ht]; rfl), hasElement_attach]
          · exact (hattach _).1
          · exact (hattach _).2

/-- Other tokens that are not refused change nothing. -/
theorem stands_other (h : Stands place before b) (ht : token.token.isTag = false) :
    Stands place (before ++ [token]) b where
  reached := by
    rw [openTags_concat, openTagsAfter_of_not_isTag _ ht]
    exact h.reached.skip (.other ht .nil)
  hasElement := by
    rw [h.hasElement]
    simp [ht]
  finished_eq_nil := h.finished_eq_nil
  length_finished_le := h.length_finished_le

/-- **One token**: it is refused with its flaw, or taken in. -/
theorem feed_of_stands (h : Stands place before b)
    (hend : ∀ name, token.token = .endTag name → ((openTags before).map PlacedToken.name).head? = some name) :
    match refusal? before token with
    | some flaw => b.feed place token = .error (token.start, flaw)
    | none => ∃ b', b.feed place token = .ok b' ∧ Stands place (before ++ [token]) b' := by
  cases ht : token.token with
  | startTag tag =>
      have htag : token.token.tag? = some tag := by rw [ht]; rfl
      have hopen := openTag_of_stands h htag (place token.start)
      cases hr : refusal? before token with
      | some flaw =>
          rw [hr] at hopen
          simp only [feed, ht, hopen]
          rfl
      | none => exact feed_startTag h ht hr
  | emptyTag tag =>
      have htag : token.token.tag? = some tag := by rw [ht]; rfl
      have hopen := openTag_of_stands h htag (place token.start)
      cases hr : refusal? before token with
      | some flaw =>
          rw [hr] at hopen
          simp only [feed, ht, hopen]
          rfl
      | none => exact feed_emptyTag h ht hr
  | endTag name =>
      have hr : refusal? before token = none := by simp [refusal?, ht, Token.tag?]
      rw [hr]
      exact feed_endTag h ht (hend name ht)
  | text content =>
      have hnot : token.token.isTag = false := by rw [ht]; rfl
      have hstands := stands_other h hnot
      have hempty := h.reached.isEmpty_opened
      by_cases hblank : (openTags before).isEmpty && !content.all Text.isAsciiBlank
      · simp only [refusal?, feed, ht, hempty, h.hasElement, hblank, if_pos]
      · simp only [refusal?, feed, ht, hempty, h.hasElement, hblank, if_neg, Bool.false_eq_true, not_false_eq_true]
        exact ⟨b, rfl, hstands⟩
  | comment _ | characterData _ | documentType _ | instruction _ =>
      have hr : refusal? before token = none := by simp [refusal?, ht, Token.tag?]
      rw [hr]
      exact ⟨b, by simp only [feed, ht], stands_other h (by rw [ht]; rfl)⟩

/-- **All tokens**: the builder stops at the first token that is refused, and stands after those before it. -/
theorem feedAll_of_stands (h : Stands place before b) {tokens : List PlacedToken}
    (hmatched : Matched ((openTags before).map PlacedToken.name) tokens) :
    (b.feedAll place tokens).2 = refusedFrom? before tokens ∧
      Stands place (before ++ acceptedFrom before tokens) (b.feedAll place tokens).1 := by
  induction tokens generalizing before b with
  | nil => exact ⟨rfl, by simpa [acceptedFrom, feedAll] using h⟩
  | cons token tokens ih =>
      obtain ⟨hend, hmatched⟩ := hmatched
      have hstep := feed_of_stands h hend
      rw [openedAfter_map_name, ← openTags_concat] at hmatched
      unfold feedAll refusedFrom? acceptedFrom
      cases hr : refusal? before token with
      | some flaw =>
          rw [hr] at hstep
          simp only [hstep, List.append_nil]
          exact ⟨trivial, h⟩
      | none =>
          rw [hr] at hstep
          obtain ⟨b', hfeed, hstands⟩ := hstep
          obtain ⟨hrefused, haccepted⟩ := ih hstands hmatched
          simp only [hfeed]
          rw [List.append_assoc] at haccepted
          exact ⟨hrefused, haccepted⟩

end Builder

/-! ### The document -/

/-- What the builder has read of a text. -/
def builderOf (text : List Char) : Builder :=
  (Builder.start.feedAll (Text.positionAt text) (Markup.tokens text).tokens).1

theorem stands_builderOf (text : List Char) :
    (Builder.start.feedAll (Text.positionAt text) (Markup.tokens text).tokens).2 =
        refusedFrom? [] (Markup.tokens text).tokens ∧
      Builder.Stands (Text.positionAt text) (accepted text) (builderOf text) :=
  Builder.feedAll_of_stands Builder.stands_start (matched_cut _ _ _ _)

/-- What is missing at the end can be told from the accepted tokens. -/
theorem lastFlaw_builderOf (text : List Char) :
    lastFlaw (Text.byteLength text) (builderOf text) (Markup.tokens text).flaw = flawAtEnd? text := by
  have hstands := (stands_builderOf text).2
  unfold lastFlaw flawAtEnd?
  cases (Markup.tokens text).flaw with
  | some flaw => rfl
  | none => simp only [hstands.reached.isEmpty_opened, hstands.hasElement]

/-- Reading a text, with the positions that its octets have. -/
theorem read_eq (text : List Char) :
    Document.read text =
      match firstFailure? text with
      | none => ⟨(builderOf text).toTree .unknown, none⟩
      | some (offset, flaw) =>
        ⟨(builderOf text).toTree (Text.positionAt text offset), some ⟨Text.positionAt text offset, flaw⟩⟩ := by
  have hplace : Text.positionIn (Text.positionTable text) = Text.positionAt text :=
    funext (Text.positionIn_positionTable text)
  have hfirst : (Builder.start.feedAll (Text.positionAt text) (Markup.tokens text).tokens).2.or
      (lastFlaw (Text.byteLength text) (builderOf text) (Markup.tokens text).flaw) = firstFailure? text := by
    rw [(stands_builderOf text).1, lastFlaw_builderOf, firstFailure?]
  unfold builderOf at hfirst
  cases hfailure : firstFailure? text with
  | none => simp only [Document.read, builderOf, hplace, hfirst, hfailure]
  | some failure => simp only [Document.read, builderOf, hplace, hfirst, hfailure]

/-- **Where reading ends**: the failure of a document is the first one of its text. -/
theorem failure_read (text : List Char) :
    (Document.read text).failure =
      (firstFailure? text).map fun (offset, flaw) => ⟨Text.positionAt text offset, flaw⟩ := by
  rw [read_eq]
  cases firstFailure? text <;> rfl

theorem acceptedFrom_of_refusedFrom?_eq_none {before tokens : List PlacedToken}
    (h : refusedFrom? before tokens = none) : acceptedFrom before tokens = tokens := by
  induction tokens generalizing before with
  | nil => rfl
  | cons token tokens ih =>
      unfold refusedFrom? at h
      unfold acceptedFrom
      cases hr : refusal? before token with
      | some flaw =>
          rw [hr] at h
          cases h
      | none =>
          rw [hr] at h
          rw [ih h]

/-- At the end of a text without a failure nothing is open, and there has been a tag. -/
theorem accepted_of_firstFailure?_eq_none {text : List Char} (h : firstFailure? text = none) :
    accepted text = (Markup.tokens text).tokens ∧ openTags (accepted text) = [] ∧
      (accepted text).any (·.token.isTag) = true ∧ (Markup.tokens text).flaw = none := by
  obtain ⟨hrefused, hend⟩ := Option.or_eq_none_iff.mp h
  refine ⟨acceptedFrom_of_refusedFrom?_eq_none hrefused, ?_⟩
  unfold flawAtEnd? at hend
  cases hflaw : (Markup.tokens text).flaw with
  | some flaw =>
      rw [hflaw] at hend
      cases hend
  | none =>
      simp only [hflaw] at hend
      split at hend
      · cases hend
      · rename_i hopen
        split at hend
        · cases hend
        · rename_i htag
          refine ⟨?_, ?_, rfl⟩
          · simpa using hopen
          · simpa using htag

theorem failure_eq_none_iff {text : List Char} :
    (Document.read text).failure = none ↔ firstFailure? text = none := by
  rw [failure_read, Option.map_eq_none_iff]

/-- **What the tree is**: the elements of the brackets that the completed tokens make. -/
theorem exists_bracketed_read (text : List Char) :
    ∃ trees, Bracketed (completed text) trees ∧
      (Document.read text).tree = .node none (elementTrees (Text.positionAt text) [] trees) := by
  have hreached := (stands_builderOf text).2.reached
  rw [read_eq]
  unfold completed completedAt
  cases hfailure : firstFailure? text with
  | none =>
      have hopen := (accepted_of_firstFailure?_eq_none hfailure).2.1
      exact hreached.exists_toTree (.inr hopen)
  | some failure =>
      obtain ⟨offset, flaw⟩ := failure
      exact hreached.exists_toTree (.inl rfl)

/-- The top level holds what is finished and the outermost open element. -/
theorem Builder.length_closeAll (position : Position) (opened : List OpenElement) (finished : List (Tree Element)) :
    (Builder.closeAll position opened finished).length = finished.length + if opened.isEmpty then 0 else 1 := by
  fun_induction Builder.closeAll position opened finished with
  | case1 finished => rfl
  | case2 o finished => rfl
  | case3 o parent rest finished ih => exact ih

theorem children_toTree (b : Builder) (stop : Position) :
    (b.toTree stop).children.length = b.finished.length + if b.opened.isEmpty then 0 else 1 := by
  rw [Builder.toTree, Tree.children, List.length_reverse, Builder.length_closeAll]

/-- A document has at most one element outermost, and just one if it is well-formed. -/
theorem length_children_read (text : List Char) :
    (Document.read text).tree.children.length ≤ 1 ∧
      ((Document.read text).failure = none → (Document.read text).tree.children.length = 1) := by
  have hstands := (stands_builderOf text).2
  have hlength : (Document.read text).tree.children.length =
      (builderOf text).finished.length + if (builderOf text).opened.isEmpty then 0 else 1 := by
    rw [read_eq]
    cases firstFailure? text with
    | none => exact children_toTree _ _
    | some failure => exact children_toTree _ _
  rw [hlength]
  by_cases hopened : (builderOf text).opened = []
  · have hempty : (builderOf text).opened.isEmpty = true := by rw [hopened]; rfl
    refine ⟨by simpa [hempty] using hstands.length_finished_le, fun hfailure => ?_⟩
    have htag := (accepted_of_firstFailure?_eq_none (failure_eq_none_iff.mp hfailure)).2.2.1
    rw [← hstands.hasElement, Builder.hasElement, hempty, Bool.not_true, Bool.false_or, Bool.not_eq_true',
      List.isEmpty_eq_false_iff] at htag
    have hpos := List.length_pos_iff.mpr htag
    have hle := hstands.length_finished_le
    rw [hempty, if_pos rfl]
    omega
  · have hfinished := hstands.finished_eq_nil hopened
    have hempty : (builderOf text).opened.isEmpty = false := List.isEmpty_eq_false_iff.mpr hopened
    simp [hfinished, hempty]

/-! ### Order -/

theorem exists_append_of_refusedFrom?_eq_some {before tokens : List PlacedToken} {offset : Nat} {flaw : Flaw}
    (h : refusedFrom? before tokens = some (offset, flaw)) :
    ∃ token rest, tokens = acceptedFrom before tokens ++ token :: rest ∧ offset = token.start ∧
      refusal? (before ++ acceptedFrom before tokens) token = some flaw := by
  induction tokens generalizing before with
  | nil => cases h
  | cons token tokens ih =>
      unfold refusedFrom? at h
      unfold acceptedFrom
      cases hr : refusal? before token with
      | some flaw' =>
          rw [hr] at h
          obtain ⟨rfl, rfl⟩ := Prod.mk.inj (Option.some.inj h)
          exact ⟨token, tokens, rfl, rfl, by simpa using hr⟩
      | none =>
          rw [hr] at h
          obtain ⟨token', rest, htokens, hoffset, hrefusal⟩ := ih h
          refine ⟨token', rest, ?_, hoffset, ?_⟩
          · rw [List.cons_append, ← htokens]
          · rw [List.append_assoc] at hrefusal
            exact hrefusal

theorem byteLength_withoutMark_le (text : List Char) :
    Text.byteLength (withoutMark text) ≤ Text.byteLength text := by
  unfold withoutMark
  split
  · exact Nat.le_add_left _ _
  · exact Nat.le_refl _

/-- The accepted tokens end where reading ends, or before. -/
theorem endOf_accepted_le {text : List Char} {offset : Nat} {flaw : Flaw}
    (h : firstFailure? text = some (offset, flaw)) : endOf 0 (accepted text) ≤ offset := by
  have hcover : Cover 0 (Markup.tokens text).tokens (withoutMark text) := cover_cut _ _ _ _
  rcases Option.or_eq_some_iff.mp h with hrefused | ⟨hnone, hend⟩
  · obtain ⟨token, rest, htokens, rfl, -⟩ := exists_append_of_refusedFrom?_eq_some hrefused
    have horder := hcover.inOrder
    rw [htokens, inOrder_append] at horder
    exact horder.2.1
  · have haccepted : accepted text = (Markup.tokens text).tokens := acceptedFrom_of_refusedFrom?_eq_none hnone
    have hle : endOf 0 (accepted text) ≤ Text.byteLength text := by
      have := hcover.endOf_le
      have := byteLength_withoutMark_le text
      rw [haccepted]
      omega
    unfold flawAtEnd? at hend
    cases hflaw : (Markup.tokens text).flaw with
    | some flaw' =>
        rw [hflaw] at hend
        obtain ⟨rfl, -⟩ := Prod.mk.inj (Option.some.inj hend)
        rw [haccepted]
        exact endOf_le_flaw_cut hflaw
    | none =>
        simp only [hflaw] at hend
        split at hend
        · obtain ⟨rfl, -⟩ := Prod.mk.inj (Option.some.inj hend)
          exact hle
        · split at hend
          · obtain ⟨rfl, -⟩ := Prod.mk.inj (Option.some.inj hend)
            exact hle
          · cases hend

theorem inOrder_accepted (text : List Char) : InOrder 0 (accepted text) := by
  have horder : InOrder 0 (Markup.tokens text).tokens := (cover_cut _ _ _ _).inOrder
  cases hrefused : refusedFrom? [] (Markup.tokens text).tokens with
  | none =>
      rw [accepted, acceptedFrom_of_refusedFrom?_eq_none hrefused]
      exact horder
  | some failure =>
      obtain ⟨token, rest, htokens, -, -⟩ := exists_append_of_refusedFrom?_eq_some hrefused
      rw [htokens, inOrder_append] at horder
      exact horder.1

/-- The completed tokens are in order, and none reaches beyond the place where reading ends. -/
theorem inOrder_completed (text : List Char) :
    InOrder 0 (completed text) ∧
      ∀ offset flaw, firstFailure? text = some (offset, flaw) → endOf 0 (completed text) ≤ offset := by
  unfold completed
  cases hfailure : firstFailure? text with
  | none =>
      have hopen := (accepted_of_firstFailure?_eq_none hfailure).2.1
      refine ⟨?_, fun offset flaw h => by cases h⟩
      rw [completedAt, hopen, List.map_nil, List.append_nil]
      exact inOrder_accepted text
  | some failure =>
      obtain ⟨offset, flaw⟩ := failure
      obtain ⟨horder, hend⟩ := inOrder_completedAt (inOrder_accepted text) (endOf_accepted_le hfailure)
      refine ⟨horder, fun offset' flaw' h => ?_⟩
      obtain ⟨rfl, -⟩ := Prod.mk.inj (Option.some.inj h)
      exact hend

end XmlDiagnostics.Document
