import XmlDiagnostics.Proofs.Markup.Cutting
import XmlDiagnostics.Tree

/-! # The bracket structure of tokens

Start tags and end tags are brackets. `Bracketed` relates tokens, all of whose tags are closed, to the trees that
their tags make; it is a grammar and knows no stack. `openTags` are the start tags that tokens leave
open. Tokens that are cut off early are completed by one end tag for each of these, without
extent, at the octet where the cutting ends (`completedAt`). -/

namespace XmlDiagnostics.Markup

/-- The tag that a token writes, unless it is an end tag. -/
def Token.tag? : Token → Option Tag
  | .startTag tag => some tag
  | .emptyTag tag => some tag
  | _ => none

/-- A tag is written between brackets, and an empty tag with a slash before the second one. -/
theorem written_of_tag {token : Token} {tag : Tag} {written rest : List Char} (htag : token.tag? = some tag)
    (hwritten : Written token written rest) :
    ∃ slash, (slash = [] ∨ slash = ['/']) ∧ written = '<' :: (tag.content ++ slash ++ ['>']) := by
  cases hwritten with
  | startTag =>
      obtain rfl := Option.some.inj htag
      exact ⟨[], .inl rfl, by simp⟩
  | emptyTag =>
      obtain rfl := Option.some.inj htag
      exact ⟨['/'], .inr rfl, by simp⟩
  | _ => cases htag

/-- Whether a token is a start tag, an empty tag or an end tag. -/
def Token.isTag : Token → Bool
  | .startTag _ => true
  | .emptyTag _ => true
  | .endTag _ => true
  | _ => false

/-- The name in a start tag or an empty tag. -/
def PlacedToken.name (token : PlacedToken) : List Char := (token.token.tag?.map Tag.name).getD []

/-! ### Open tags -/

/-- The start tags that are open after a token, innermost first. -/
def openTagsAfter (opened : List PlacedToken) (token : PlacedToken) : List PlacedToken :=
  match token.token with
  | .startTag _ => token :: opened
  | .endTag _ => opened.tail
  | _ => opened

/-- The start tags that tokens leave open, innermost first. -/
def openTags (tokens : List PlacedToken) : List PlacedToken := tokens.foldl openTagsAfter []

theorem openTags_concat (tokens : List PlacedToken) (token : PlacedToken) :
    openTags (tokens ++ [token]) = openTagsAfter (openTags tokens) token := by
  unfold openTags
  rw [List.foldl_append]
  rfl

theorem openTagsAfter_of_not_isTag (opened : List PlacedToken) {token : PlacedToken} (h : token.token.isTag = false) :
    openTagsAfter opened token = opened := by
  unfold openTagsAfter
  cases ht : token.token <;> simp [ht, Token.isTag] at h ⊢

/-- The names that the cutting keeps are those of the open tags. -/
theorem openedAfter_map_name (opened : List PlacedToken) (token : PlacedToken) :
    openedAfter (opened.map PlacedToken.name) token.token = (openTagsAfter opened token).map PlacedToken.name := by
  unfold openTagsAfter
  cases ht : token.token with
  | startTag tag => simp [openedAfter, PlacedToken.name, ht, Token.tag?]
  | endTag name => simp [openedAfter]
  | _ => rfl

/-- The end tag of a start tag, without extent. -/
def closingAt (offset : Nat) (opening : PlacedToken) : PlacedToken := ⟨.endTag opening.name, offset, offset⟩

/-- Tokens with end tags for the tags that they leave open. -/
def completedAt (offset : Nat) (tokens : List PlacedToken) : List PlacedToken :=
  tokens ++ (openTags tokens).map (closingAt offset)

theorem inOrder_closingAt {start offset : Nat} (h : start ≤ offset) (opened : List PlacedToken) :
    InOrder start (opened.map (closingAt offset)) ∧ endOf start (opened.map (closingAt offset)) ≤ offset := by
  induction opened generalizing start with
  | nil => exact ⟨trivial, h⟩
  | cons opening opened ih =>
      obtain ⟨horder, hend⟩ := ih (Nat.le_refl offset)
      exact ⟨⟨h, Nat.le_refl offset, horder⟩, hend⟩

theorem inOrder_completedAt {start offset : Nat} {tokens : List PlacedToken} (h : InOrder start tokens)
    (hend : endOf start tokens ≤ offset) :
    InOrder start (completedAt offset tokens) ∧ endOf start (completedAt offset tokens) ≤ offset := by
  obtain ⟨horder, hle⟩ := inOrder_closingAt hend (openTags tokens)
  unfold completedAt
  rw [inOrder_append, endOf_append]
  exact ⟨⟨h, horder⟩, hle⟩

/-! ### Trees of brackets -/

/-- A tag with the token that opens it and the token that closes it, which for an empty tag are one. -/
structure Bracket where
  tag : Tag
  opening : PlacedToken
  closing : PlacedToken

/-- The tags of the tokens are closed, and make the trees. -/
inductive Bracketed : List PlacedToken → List (Tree Bracket) → Prop
  | nil : Bracketed [] []
  | other {token tokens trees} : token.token.isTag = false → Bracketed tokens trees → Bracketed (token :: tokens) trees
  | empty {tag token tokens trees} : token.token = .emptyTag tag → Bracketed tokens trees →
      Bracketed (token :: tokens) (.node (some ⟨tag, token, token⟩) [] :: trees)
  | pair {tag opening inner children closing tokens trees} : opening.token = .startTag tag →
      closing.token = .endTag tag.name → Bracketed inner children → Bracketed tokens trees →
      Bracketed (opening :: inner ++ closing :: tokens) (.node (some ⟨tag, opening, closing⟩) children :: trees)

theorem Bracketed.append {tokens tokens' : List PlacedToken} {trees trees' : List (Tree Bracket)}
    (h : Bracketed tokens trees) (h' : Bracketed tokens' trees') : Bracketed (tokens ++ tokens') (trees ++ trees') := by
  induction h with
  | nil => exact h'
  | other ht _ ih => exact .other ht ih
  | empty ht _ ih => exact .empty ht ih
  | pair ho hc hinner _ _ ih =>
      rw [List.append_assoc, List.cons_append]
      exact .pair ho hc hinner ih

/-- The tokens that open and close one tag. -/
inductive Closes (tokens : List PlacedToken) (tag : Tag) : PlacedToken → PlacedToken → Prop
  | empty {token} : token ∈ tokens → token.token = .emptyTag tag → Closes tokens tag token token
  | pair {before opening inner children closing after} : tokens = before ++ opening :: inner ++ closing :: after →
      opening.token = .startTag tag → closing.token = .endTag tag.name → Bracketed inner children →
      Closes tokens tag opening closing

theorem Closes.append {tokens : List PlacedToken} {tag : Tag} {opening closing : PlacedToken}
    (h : Closes tokens tag opening closing) (before after : List PlacedToken) :
    Closes (before ++ tokens ++ after) tag opening closing := by
  cases h with
  | empty hmem ht => exact .empty (by simp [hmem]) ht
  | @pair before' _ inner _ _ after' htokens ho hc hinner =>
      have htext : before ++ tokens ++ after = (before ++ before') ++ opening :: inner ++ closing :: (after' ++ after) := by
        rw [htokens]
        simp
      exact .pair htext ho hc hinner

/-! ### One bracket among other tokens -/

/-- The tokens of one bracket, from the one that opens it to the one that closes it. -/
inductive Enclosed : List PlacedToken → Bracket → List (Tree Bracket) → Prop
  | empty {tag token} : token.token = .emptyTag tag → Enclosed [token] ⟨tag, token, token⟩ []
  | pair {tag opening inner children closing} : opening.token = .startTag tag → closing.token = .endTag tag.name →
      Bracketed inner children → Enclosed (opening :: inner ++ [closing]) ⟨tag, opening, closing⟩ children

variable {tokens : List PlacedToken} {trees : List (Tree Bracket)} {bracket : Bracket} {children : List (Tree Bracket)}

theorem Enclosed.bracketed (h : Enclosed tokens bracket children) : Bracketed tokens [.node (some bracket) children] := by
  cases h with
  | empty ht => exact .empty ht .nil
  | pair ho hc hinner => exact .pair ho hc hinner .nil

theorem bracketed_nil_iff : Bracketed tokens [] ↔ ∀ token ∈ tokens, token.token.isTag = false := by
  constructor
  · intro h
    induction tokens with
    | nil => exact fun token hmem => by cases hmem
    | cons token tokens ih =>
        cases h with
        | other ht htokens => exact List.forall_mem_cons.mpr ⟨ht, ih htokens⟩
  · intro h
    induction tokens with
    | nil => exact .nil
    | cons token tokens ih =>
        obtain ⟨ht, htokens⟩ := List.forall_mem_cons.mp h
        exact .other ht (ih htokens)

/-- Tokens that make one tree are the tokens of one bracket, with tokens that are no tags around them. -/
theorem Bracketed.exists_enclosed {tree : Tree Bracket} (h : Bracketed tokens [tree]) :
    ∃ before element after bracket children, tokens = before ++ element ++ after ∧
      tree = .node (some bracket) children ∧ Enclosed element bracket children ∧ Bracketed before [] ∧
      Bracketed after [] := by
  induction tokens with
  | nil => cases h
  | cons token tokens ih =>
      cases h with
      | other ht htokens =>
          obtain ⟨before, element, after, bracket, children, rfl, rfl, helement, hbefore, hafter⟩ := ih htokens
          exact ⟨token :: before, element, after, bracket, children, rfl, rfl, helement, .other ht hbefore, hafter⟩
      | empty ht htokens => exact ⟨[], [token], tokens, _, _, rfl, rfl, .empty ht, .nil, htokens⟩
      | pair ho hc hinner htokens => exact ⟨[], _, _, _, _, by simp, rfl, .pair ho hc hinner, .nil, htokens⟩

/-! ### Open tags of brackets -/

theorem openTagsAfter_emptyTag (opened : List PlacedToken) {token : PlacedToken} {tag : Tag}
    (h : token.token = .emptyTag tag) : openTagsAfter opened token = opened := by
  unfold openTagsAfter
  rw [h]

theorem openTagsAfter_startTag (opened : List PlacedToken) {token : PlacedToken} {tag : Tag}
    (h : token.token = .startTag tag) : openTagsAfter opened token = token :: opened := by
  unfold openTagsAfter
  rw [h]

theorem openTagsAfter_endTag (opened : List PlacedToken) {token : PlacedToken} {name : List Char}
    (h : token.token = .endTag name) : openTagsAfter opened token = opened.tail := by
  unfold openTagsAfter
  rw [h]

/-- Brackets leave open what has been open before them. -/
theorem Bracketed.foldl_openTagsAfter (h : Bracketed tokens trees) (opened : List PlacedToken) :
    tokens.foldl openTagsAfter opened = opened := by
  induction h generalizing opened with
  | nil => rfl
  | other ht _ ih => rw [List.foldl_cons, openTagsAfter_of_not_isTag _ ht, ih]
  | empty ht _ ih => rw [List.foldl_cons, openTagsAfter_emptyTag _ ht, ih]
  | pair ho hc _ _ ihInner ih =>
      rw [List.cons_append, List.foldl_cons, openTagsAfter_startTag _ ho, List.foldl_append, ihInner, List.foldl_cons,
        openTagsAfter_endTag _ hc, List.tail_cons, ih]

theorem Bracketed.openTags_append (h : Bracketed tokens trees) (before : List PlacedToken) :
    openTags (before ++ tokens) = openTags before := by
  unfold openTags
  rw [List.foldl_append, h.foldl_openTagsAfter]

theorem Bracketed.openTags_eq_nil (h : Bracketed tokens trees) : openTags tokens = [] :=
  h.foldl_openTagsAfter []

end XmlDiagnostics.Markup
