import XmlDiagnostics.Proofs.Document.Walk
import XmlDiagnostics.Proofs.Position
import XmlDiagnostics.Proofs.Text.Places

/-! # Spans nest

The span of an element lies within that of its parent, behind the one of the sibling before it, and before the
failure of the document; what is open at the failure ends there (`spans_nest`). Octets are behind this: the
completed tokens are in order (`inOrder_completed`), a bracket lies around the tokens of its children, and
positions keep the order of octets in a text that is not too long (`Text.positionAt_mono`). -/

namespace XmlDiagnostics

namespace Document

open Markup

/-- The elements at the top of trees. -/
def topElements (trees : List (Tree Element)) : List Element := trees.filterMap Tree.value?

/-- An element ends no earlier than it starts, its children lie within it, and each of them ends before the
next one starts. -/
structure SpansNest (element : Element) (children : List Element) : Prop where
  start_le_stop : element.start ≤ element.stop
  within : ∀ child ∈ children, element.start ≤ child.start ∧ child.stop ≤ element.stop
  ordered : children.Pairwise fun earlier later => earlier.stop ≤ later.start

/-- Trees of elements lie between two positions, with all their spans in order. -/
structure Between (first last : Position) (trees : List (Tree Element)) : Prop where
  within : ∀ element ∈ Tree.valuesIn trees, first ≤ element.start ∧ element.start ≤ last ∧ element.stop ≤ last
  ordered : (topElements trees).Pairwise fun earlier later => earlier.stop ≤ later.start
  nest : ∀ node ∈ Tree.subtreesIn trees, ∀ element, node.value? = some element →
    SpansNest element (topElements node.children)

/-! ### Trees between positions -/

theorem topElements_cons_some (element : Element) (children trees : List (Tree Element)) :
    topElements (.node (some element) children :: trees) = element :: topElements trees := rfl

theorem topElements_cons_none (children trees : List (Tree Element)) :
    topElements (.node none children :: trees) = topElements trees := rfl

theorem mem_valuesIn_of_mem_topElements {element : Element} {trees : List (Tree Element)}
    (h : element ∈ topElements trees) : element ∈ Tree.valuesIn trees := by
  induction trees with
  | nil => cases h
  | cons tree trees ih =>
      obtain ⟨value, children⟩ := tree
      rw [Tree.valuesIn, List.mem_append]
      cases value with
      | none =>
          rw [topElements_cons_none] at h
          exact .inr (ih h)
      | some value =>
          rw [topElements_cons_some] at h
          rcases List.mem_cons.mp h with rfl | h
          · exact .inl (by simp [Tree.values])
          · exact .inr (ih h)

theorem between_nil (first last : Position) : Between first last [] where
  within := fun element h => by cases h
  ordered := .nil
  nest := fun node h => by cases h

theorem Between.mono {first last first' last' : Position} {trees : List (Tree Element)}
    (h : Between first last trees) (hfirst : first' ≤ first) (hlast : last ≤ last') : Between first' last' trees where
  within := fun element hmem => by
    obtain ⟨h₁, h₂, h₃⟩ := h.within element hmem
    exact ⟨Position.le_trans hfirst h₁, Position.le_trans h₂ hlast, Position.le_trans h₃ hlast⟩
  ordered := h.ordered
  nest := h.nest

/-- An element around trees that lie within it, before other trees. -/
theorem Between.cons {element : Element} {last : Position} {children trees : List (Tree Element)}
    (hspan : element.start ≤ element.stop) (hlast : element.stop ≤ last)
    (hchildren : Between element.start element.stop children) (htrees : Between element.stop last trees) :
    Between element.start last (.node (some element) children :: trees) where
  within := by
    intro e he
    simp only [Tree.valuesIn, Tree.values, Option.toList_some, List.mem_append, List.mem_singleton] at he
    rcases he with (rfl | he) | he
    · exact ⟨Position.le_refl _, Position.le_trans hspan hlast, hlast⟩
    · obtain ⟨h₁, h₂, h₃⟩ := hchildren.within e he
      exact ⟨h₁, Position.le_trans h₂ hlast, Position.le_trans h₃ hlast⟩
    · obtain ⟨h₁, h₂, h₃⟩ := htrees.within e he
      exact ⟨Position.le_trans hspan h₁, h₂, h₃⟩
  ordered := by
    rw [topElements_cons_some, List.pairwise_cons]
    exact ⟨fun e he => (htrees.within e (mem_valuesIn_of_mem_topElements he)).1, htrees.ordered⟩
  nest := by
    intro node hnode e hvalue
    simp only [Tree.subtreesIn, Tree.subtrees, List.mem_append, List.mem_cons] at hnode
    rcases hnode with (rfl | hnode) | hnode
    · obtain rfl : element = e := Option.some.inj hvalue
      refine ⟨hspan, fun child hchild => ?_, hchildren.ordered⟩
      obtain ⟨h₁, -, h₃⟩ := hchildren.within child (mem_valuesIn_of_mem_topElements hchild)
      exact ⟨h₁, h₃⟩
    · exact hchildren.nest node hnode e hvalue
    · exact htrees.nest node hnode e hvalue

/-- **Brackets nest**: the elements of tokens in order lie between the first and the last octet. -/
theorem between_elementTrees {place : Nat → Position} (hplace : ∀ o o', o ≤ o' → place o ≤ place o')
    {tokens : List PlacedToken} {trees : List (Tree Bracket)} (h : Bracketed tokens trees) (scope : Scope)
    {offset : Nat} (horder : InOrder offset tokens) :
    Between (place offset) (place (endOf offset tokens)) (elementTrees place scope trees) := by
  induction h generalizing scope offset with
  | nil => exact between_nil _ _
  | @other token tokens trees ht _ ih =>
      obtain ⟨hstart, hstop, hrest⟩ := horder
      exact (ih scope hrest).mono (hplace _ _ (hstart.trans hstop)) (Position.le_refl _)
  | @empty tag token tokens trees ht _ ih =>
      obtain ⟨hstart, hstop, hrest⟩ := horder
      have hlast := hplace _ _ hrest.le_endOf
      let element := elementOf (scopeWithin scope tag) tag (place token.start) (place token.stop)
      have hspan : element.start ≤ element.stop := hplace _ _ hstop
      have := Between.cons hspan hlast (between_nil _ _) (ih scope hrest)
      exact this.mono (hplace _ _ hstart) (Position.le_refl _)
  | @pair tag opening inner children closing tokens trees ho hc _ _ ihInner ih =>
      rw [inOrder_append] at horder
      obtain ⟨⟨hstart, hstop, hinner⟩, hclose, hclosed, hrest⟩ := horder
      rw [endOf_append]
      have hlast := hplace _ _ hrest.le_endOf
      have hchildren := (ihInner (scopeWithin scope tag) hinner).mono (hplace _ _ hstop)
        (hplace _ _ (hclose.trans hclosed))
      let element := elementOf (scopeWithin scope tag) tag (place opening.start) (place closing.stop)
      have hspan : element.start ≤ element.stop :=
        hplace _ _ (hstop.trans (hinner.le_endOf.trans (hclose.trans hclosed)))
      have := Between.cons hspan hlast hchildren (ih scope hrest)
      exact this.mono (hplace _ _ hstart) (Position.le_refl _)

/-! ### What is open at a failure -/

namespace Builder

/-- Closing what is open puts the open elements, outermost first, down the last children. -/
theorem spineIn_closeAll (position : Position) (opened : List OpenElement) (finished : List (Tree Element)) :
    Tree.spineIn (closeAll position opened finished).reverse =
      (opened.reverse.map fun o => { o.element with stop := position }) ++
        Tree.spineIn (opened.head?.elim finished OpenElement.children).reverse := by
  fun_induction closeAll position opened finished with
  | case1 finished => rfl
  | case2 o finished =>
      rw [List.reverse_cons, Tree.spineIn_concat]
      rfl
  | case3 o parent rest finished ih =>
      rw [ih]
      simp [Tree.spineIn_concat, OpenElement.close, Tree.spine]

theorem spine_toTree (b : Builder) (stop : Position) :
    (b.toTree stop).spine.take b.opened.length = b.opened.reverse.map fun o => { o.element with stop := stop } := by
  rw [toTree, Tree.spine, Option.toList_none, List.nil_append, spineIn_closeAll]
  exact List.take_left' (by simp)

/-- Open elements start where their tags do. -/
theorem Reached.map_start {place : Nat → Position} {tokens openings : List PlacedToken} {b : Builder}
    (h : Reached place tokens openings b) :
    b.opened.map (·.element.start) = openings.map fun opening => place opening.start := by
  induction h with
  | outside => rfl
  | inside _ _ _ ih =>
      rw [List.map_cons, List.map_cons, ih]
      rfl

end Builder

/-- The elements of the tags that are open at a failure are the last ones from the top down, and end there. -/
theorem spine_read {text : List Char} {failure : Failure} (h : (Document.read text).failure = some failure) :
    ((Document.read text).tree.spine.take (openTags (accepted text)).length).map (fun e => (e.start, e.stop)) =
      (openTags (accepted text)).reverse.map fun opening =>
        (Text.positionAt text opening.start, failure.position) := by
  have hstarts := (stands_builderOf text).2.reached.map_start
  have hlength : (builderOf text).opened.length = (openTags (accepted text)).length := by
    simpa using congrArg List.length hstarts
  have htree : (Document.read text).tree = (builderOf text).toTree failure.position := by
    rw [read_eq] at h ⊢
    cases hfailure : firstFailure? text with
    | none =>
        rw [hfailure] at h
        cases h
    | some found =>
        rw [hfailure] at h
        obtain rfl := Option.some.inj h
        rfl
  rw [htree, ← hlength, Builder.spine_toTree, List.map_map, List.map_reverse, List.map_reverse]
  refine congrArg List.reverse ?_
  have := congrArg (List.map fun start => (start, failure.position)) hstarts
  rwa [List.map_map, List.map_map] at this

/-! ### The document -/

/-- All spans of a document lie between its first octet and the one where reading ends. -/
theorem between_children_read {text : List Char} (hlength : text.length < 2 ^ 31) :
    Between (Text.positionAt text 0) (Text.positionAt text (endOf 0 (completed text)))
      (Document.read text).tree.children := by
  obtain ⟨trees, htrees, htree⟩ := exists_bracketed_read text
  rw [htree]
  exact between_elementTrees (fun o o' h => Text.positionAt_mono hlength h) htrees [] (inOrder_completed text).1

/-- **Spans nest.** In the tree of a text with fewer than `2 ^ 31` characters every element ends no earlier than
it starts, lies within its parent, and ends before its next sibling starts. No span reaches beyond a
failure, and the elements whose tags are open at the failure, which follow each other from the top down as last
children, end just there. -/
theorem spans_nest (text : List Char) (hlength : text.length < 2 ^ 31) :
    Tree.Valued (Document.read text).tree.children ∧
    (∀ node ∈ (Document.read text).tree.subtrees, ∀ element, node.value? = some element →
      SpansNest element (topElements node.children)) ∧
    ∀ failure, (Document.read text).failure = some failure →
      (∀ element ∈ (Document.read text).tree.values,
        element.start ≤ failure.position ∧ element.stop ≤ failure.position) ∧
      ((Document.read text).tree.spine.take (openTags (accepted text)).length).map (fun e => (e.start, e.stop)) =
        (openTags (accepted text)).reverse.map fun opening =>
          (Text.positionAt text opening.start, failure.position) := by
  have hbetween := between_children_read hlength
  obtain ⟨trees, htrees, htree⟩ := exists_bracketed_read text
  have htop : (Document.read text).tree = .node none (Document.read text).tree.children := by
    rw [htree]
    rfl
  refine ⟨?_, fun node hnode element hvalue => ?_, fun failure hfailure => ⟨fun element hmem => ?_, spine_read hfailure⟩⟩
  · rw [htree]
    exact valued_elementTrees htrees []
  · rw [htop, Tree.subtrees, List.mem_cons] at hnode
    rcases hnode with rfl | hnode
    · cases hvalue
    · exact hbetween.nest node hnode element hvalue
  · rw [htop, Tree.values, Option.toList_none, List.nil_append] at hmem
    obtain ⟨-, hstart, hstop⟩ := hbetween.within element hmem
    have hend : Text.positionAt text (endOf 0 (completed text)) ≤ failure.position := by
      rw [failure_read, Option.map_eq_some_iff] at hfailure
      obtain ⟨⟨offset, flaw⟩, hfirst, rfl⟩ := hfailure
      exact Text.positionAt_mono hlength ((inOrder_completed text).2 offset flaw hfirst)
    exact ⟨Position.le_trans hstart hend, Position.le_trans hstop hend⟩

/-- Two elements are open at the end of this text. -/
theorem spans_nest_unclosed :
    let text := "<a>\n <b c='1'/>\n <d>".toList
    let document := Document.read text
    text.length < 2 ^ 31 ∧ document.failure = some ⟨⟨3, 5⟩, .openElement⟩ ∧
    (∀ node ∈ document.tree.subtrees, ∀ element, node.value? = some element →
      SpansNest element (topElements node.children)) ∧
    (document.tree.spine.take 2).map (fun e => (e.start, e.stop)) = [(⟨1, 1⟩, ⟨3, 5⟩), (⟨3, 2⟩, ⟨3, 5⟩)] := by
  intro text document
  have hlength : text.length < 2 ^ 31 := by decide
  have hfailure : document.failure = some ⟨⟨3, 5⟩, .openElement⟩ := by decide +kernel
  have hopen : (openTags (accepted text)).map (fun opening => Text.positionAt text opening.start) =
      [⟨3, 2⟩, ⟨1, 1⟩] := by decide +kernel
  have hcount : (openTags (accepted text)).length = 2 := by simpa using congrArg List.length hopen
  obtain ⟨-, hnest, hfail⟩ := spans_nest text hlength
  have hspine := (hfail _ hfailure).2
  have hspans := congrArg (List.map fun start => (start, (⟨3, 5⟩ : Position))) hopen
  rw [List.map_map] at hspans
  rw [hcount, List.map_reverse] at hspine
  exact ⟨hlength, hfailure, hnest, hspine.trans (congrArg List.reverse hspans)⟩

end Document

end XmlDiagnostics
