import XmlDiagnostics.Proofs.Document.Reading
import XmlDiagnostics.Proofs.Tree.Shape

/-! # Walking the tree of a document

A walk through a tree of elements notes each element twice, when it comes to it and when it leaves it.
The walk through the tree of a document gives the tags of its text in their order, and for tags that are
open where reading ends one more end there (`walk_read`). A walk determines the tree up to
attributes (`outlines_eq_of_walkIn_eq`), so the tree has every tag once and in its place. -/

namespace XmlDiagnostics.Document

open Markup

/-- What a walk notes of an element. -/
inductive TagEvent where
  | opened (name : QName) (start : Position)
  | closed (stop : Position)
deriving DecidableEq, Repr

mutual

/-- The walk through a tree of elements. -/
def walk : Tree Element → List TagEvent
  | .node none children => walkIn children
  | .node (some element) children => .opened element.name element.start :: (walkIn children ++ [.closed element.stop])

/-- The walk through one tree after the other. -/
def walkIn : List (Tree Element) → List TagEvent
  | [] => []
  | tree :: trees => walk tree ++ walkIn trees

end

/-- The namespaces declared by tags that stand within each other, innermost first. -/
def scopeOfTags (tags : List Tag) : Scope := tags.foldr (fun tag scope => scopeWithin scope tag) []

/-- What tokens open and close, given the tags that are open before them, innermost first; `place` tells
the position of an octet. -/
def eventsOf (place : Nat → Position) (opened : List Tag) : List PlacedToken → List TagEvent
  | [] => []
  | token :: tokens =>
    match token.token with
    | .startTag tag =>
      .opened (qualifiedName (scopeOfTags (tag :: opened)) tag) (place token.start) ::
        eventsOf place (tag :: opened) tokens
    | .emptyTag tag =>
      .opened (qualifiedName (scopeOfTags (tag :: opened)) tag) (place token.start) ::
        .closed (place token.stop) :: eventsOf place opened tokens
    | .endTag _ => .closed (place token.stop) :: eventsOf place opened.tail tokens
    | _ => eventsOf place opened tokens

/-! ### The tags of the text -/

variable {place : Nat → Position}

theorem eventsOf_append_of_bracketed {tokens : List PlacedToken} {trees : List (Tree Bracket)}
    (h : Bracketed tokens trees) (opened : List Tag) (rest : List PlacedToken) :
    eventsOf place opened (tokens ++ rest) =
      walkIn (elementTrees place (scopeOfTags opened) trees) ++ eventsOf place opened rest := by
  induction h generalizing opened rest with
  | nil => rfl
  | @other token tokens trees ht _ ih =>
      rw [List.cons_append, eventsOf]
      cases htoken : token.token <;> simp only [htoken, Token.isTag, Bool.true_eq_false] at ht ⊢ <;> exact ih opened rest
  | empty ht _ ih =>
      simp only [List.cons_append, eventsOf, ht, ih, elementTrees, elementTree, walkIn, walk]
      rfl
  | @pair tag opening inner children closing tokens trees ho hc _ _ ihInner ih =>
      have hinner := ihInner (tag :: opened) (closing :: (tokens ++ rest))
      rw [List.append_assoc, List.cons_append, List.cons_append, eventsOf, ho]
      simp only [hinner, eventsOf, hc, List.tail_cons, ih, elementTrees, elementTree, walkIn, walk, List.append_assoc,
        List.cons_append, List.nil_append]
      rfl

/-- An end tag without extent closes whatever is open. -/
theorem eventsOf_append_closingAt (opened : List Tag) (tokens openings : List PlacedToken) (offset : Nat) :
    eventsOf place opened (tokens ++ openings.map (closingAt offset)) =
      eventsOf place opened tokens ++ List.replicate openings.length (.closed (place offset)) := by
  induction tokens generalizing opened with
  | nil =>
      induction openings generalizing opened with
      | nil => rfl
      | cons opening openings ih => exact congrArg (TagEvent.closed (place offset) :: ·) (ih opened.tail)
  | cons token tokens ih =>
      rw [List.cons_append, eventsOf, eventsOf]
      cases token.token <;> simp only [ih, List.cons_append]

/-! ### The tree of a walk -/

/-- What a walk tells of an element. -/
def outlineOf (element : Element) : QName × Position × Position := (element.name, element.start, element.stop)

/-- Events do not begin with the opening of an element. -/
def NotOpening (events : List TagEvent) : Prop := ∀ name start rest, events ≠ .opened name start :: rest

theorem notOpening_nil : NotOpening [] := fun _ _ _ h => by cases h

theorem notOpening_closed (stop : Position) (events : List TagEvent) : NotOpening (.closed stop :: events) :=
  fun _ _ _ h => by cases h

theorem walkIn_cons_append (element : Element) (children trees : List (Tree Element)) (rest : List TagEvent) :
    walkIn (.node (some element) children :: trees) ++ rest =
      .opened element.name element.start :: (walkIn children ++ .closed element.stop :: (walkIn trees ++ rest)) := by
  simp [walkIn, walk]

/-- The elements that a walk begins with can be told from it. -/
theorem outlines_eq_of_walkIn_append_eq : ∀ {trees trees' : List (Tree Element)} {rest rest' : List TagEvent},
    Tree.Valued trees → Tree.Valued trees' → NotOpening rest → NotOpening rest' →
    walkIn trees ++ rest = walkIn trees' ++ rest' →
    Tree.mapIn outlineOf trees = Tree.mapIn outlineOf trees' ∧ rest = rest'
  | [], [], _, _, _, _, _, _, h => ⟨rfl, h⟩
  | .node value children :: trees, [], rest, rest', ht, _, _, hrest', h => by
      obtain ⟨element, rfl⟩ := Option.isSome_iff_exists.mp (Tree.valued_cons.mp ht).1
      rw [walkIn_cons_append] at h
      exact absurd h.symm (hrest' _ _ _)
  | [], .node value children :: trees, rest, rest', _, ht, hrest, _, h => by
      obtain ⟨element, rfl⟩ := Option.isSome_iff_exists.mp (Tree.valued_cons.mp ht).1
      rw [walkIn_cons_append] at h
      exact absurd h (hrest _ _ _)
  | .node value children :: trees, .node value' children' :: trees', rest, rest', ht, ht', hrest, hrest', h => by
      obtain ⟨hvalue, hchildren, htrees⟩ := Tree.valued_cons.mp ht
      obtain ⟨hvalue', hchildren', htrees'⟩ := Tree.valued_cons.mp ht'
      obtain ⟨element, rfl⟩ := Option.isSome_iff_exists.mp hvalue
      obtain ⟨element', rfl⟩ := Option.isSome_iff_exists.mp hvalue'
      rw [walkIn_cons_append, walkIn_cons_append] at h
      obtain ⟨hopened, hinner⟩ := List.cons.inj h
      obtain ⟨hname, hstart⟩ := TagEvent.opened.inj hopened
      obtain ⟨hsame, hclosed⟩ := outlines_eq_of_walkIn_append_eq hchildren hchildren' (notOpening_closed _ _)
        (notOpening_closed _ _) hinner
      obtain ⟨hstop, houter⟩ := List.cons.inj hclosed
      obtain ⟨hothers, hrests⟩ := outlines_eq_of_walkIn_append_eq htrees htrees' hrest hrest' houter
      refine ⟨?_, hrests⟩
      rw [Tree.mapIn, Tree.mapIn, Tree.map, Tree.map, hsame, hothers, Option.map_some, Option.map_some, outlineOf,
        outlineOf, hname, hstart, TagEvent.closed.inj hstop]

/-- A walk determines shape, names and spans of the trees. -/
theorem outlines_eq_of_walkIn_eq {trees trees' : List (Tree Element)} (ht : Tree.Valued trees)
    (ht' : Tree.Valued trees') (h : walkIn trees = walkIn trees') :
    Tree.mapIn outlineOf trees = Tree.mapIn outlineOf trees' := by
  refine (outlines_eq_of_walkIn_append_eq ht ht' notOpening_nil notOpening_nil ?_).1
  rw [h]

/-! ### The walk through a document -/

theorem valued_elementTrees {tokens : List PlacedToken} {trees : List (Tree Bracket)} (h : Bracketed tokens trees)
    (scope : Scope) : Tree.Valued (elementTrees place scope trees) := by
  induction h generalizing scope with
  | nil => exact Tree.valued_nil
  | other _ _ ih => exact ih scope
  | empty _ _ ih =>
      rw [elementTrees, elementTree, Tree.valued_cons]
      exact ⟨rfl, Tree.valued_nil, ih scope⟩
  | pair _ _ _ _ ihInner ih =>
      rw [elementTrees, elementTree, Tree.valued_cons]
      exact ⟨rfl, ihInner _, ih scope⟩

/-- The tree of a document is a root with elements below it. -/
theorem read_tree_eq (text : List Char) :
    (Document.read text).tree = .node none (Document.read text).tree.children ∧
      Tree.Valued (Document.read text).tree.children := by
  obtain ⟨trees, htrees, htree⟩ := exists_bracketed_read text
  rw [htree]
  exact ⟨rfl, valued_elementTrees htrees []⟩

/-- The tokens after the accepted ones begin with the one at which the failure is noticed. -/
theorem exists_append_accepted (text : List Char) :
    ∃ rest, (Markup.tokens text).tokens = accepted text ++ rest ∧
      ∀ token ∈ rest.head?, ∃ flaw, (Document.read text).failure = some ⟨Text.positionAt text token.start, flaw⟩ := by
  cases hrefused : refusedFrom? [] (Markup.tokens text).tokens with
  | none =>
      refine ⟨[], ?_, fun token h => by cases h⟩
      rw [accepted, acceptedFrom_of_refusedFrom?_eq_none hrefused, List.append_nil]
  | some failure =>
      obtain ⟨offset, flaw⟩ := failure
      obtain ⟨token, rest, htokens, rfl, -⟩ := exists_append_of_refusedFrom?_eq_some hrefused
      refine ⟨token :: rest, htokens, fun token' h => ⟨flaw, ?_⟩⟩
      obtain rfl : token = token' := by simpa using h
      rw [failure_read, firstFailure?, hrefused]
      rfl

/-- The walk through a document notes the tags of the accepted tokens and then leaves what is open. -/
theorem walkIn_children_read (text : List Char) :
    walkIn (Document.read text).tree.children =
      eventsOf (Text.positionAt text) [] (accepted text) ++
        match (Document.read text).failure with
        | none => []
        | some failure => List.replicate (openTags (accepted text)).length (.closed failure.position) := by
  obtain ⟨trees, htrees, htree⟩ := exists_bracketed_read text
  have hwalk := @eventsOf_append_of_bracketed (Text.positionAt text) _ _ htrees [] []
  rw [List.append_nil, eventsOf, List.append_nil, completed, completedAt, eventsOf_append_closingAt] at hwalk
  rw [htree, Tree.children, failure_read]
  refine hwalk.symm.trans (congrArg _ ?_)
  cases hfailure : firstFailure? text with
  | none =>
      rw [(accepted_of_firstFailure?_eq_none hfailure).2.1]
      rfl
  | some failure => rfl

/-- **The tree of a document is the bracket structure of its markup.** Walking it gives the tags of the
accepted tokens in their order, an empty tag counting as opened and closed, and then the end of every tag
that is open at the failure. The accepted tokens reach to the token at which the failure is noticed, or are all
of them. No other tree of elements has that walk, up to attributes; there is at most one element
outermost, and just one in a well-formed document. -/
theorem walk_read (text : List Char) :
    (∃ rest, (Markup.tokens text).tokens = accepted text ++ rest ∧
      ∀ token ∈ rest.head?, ∃ flaw, (Document.read text).failure = some ⟨Text.positionAt text token.start, flaw⟩) ∧
    (Document.read text).tree.value? = none ∧ Tree.Valued (Document.read text).tree.children ∧
    walkIn (Document.read text).tree.children =
      eventsOf (Text.positionAt text) [] (accepted text) ++
        (match (Document.read text).failure with
        | none => []
        | some failure => List.replicate (openTags (accepted text)).length (.closed failure.position)) ∧
    (∀ trees, Tree.Valued trees → walkIn trees = walkIn (Document.read text).tree.children →
      Tree.mapIn outlineOf trees = Tree.mapIn outlineOf (Document.read text).tree.children) ∧
    (Document.read text).tree.children.length ≤ 1 ∧
    ((Document.read text).valid = true → (Document.read text).tree.children.length = 1 ∧
      accepted text = (Markup.tokens text).tokens ∧ openTags (accepted text) = []) := by
  obtain ⟨trees, htrees, htree⟩ := exists_bracketed_read text
  have hvalued : Tree.Valued (Document.read text).tree.children := by
    rw [htree]
    exact valued_elementTrees htrees []
  obtain ⟨hle, hone⟩ := length_children_read text
  refine ⟨exists_append_accepted text, ?_, hvalued, walkIn_children_read text,
    fun trees' hvalued' h => outlines_eq_of_walkIn_eq hvalued' hvalued h, hle, fun hvalid => ?_⟩
  · rw [htree]
    rfl
  · have hnone : (Document.read text).failure = none := by simpa [Document.valid] using hvalid
    obtain ⟨haccepted, hopen, -⟩ := accepted_of_firstFailure?_eq_none (failure_eq_none_iff.mp hnone)
    exact ⟨hone hnone, haccepted, hopen⟩

end XmlDiagnostics.Document
