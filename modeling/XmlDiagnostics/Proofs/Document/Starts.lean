import XmlDiagnostics.Proofs.Document.Nesting
import XmlDiagnostics.Proofs.Document.Spans
import XmlDiagnostics.Proofs.Markup.Contents
import XmlDiagnostics.Proofs.Text.Coordinates
import XmlDiagnostics.Proofs.Tree.Paths

/-! # Where siblings start

A later sibling starts at a later position (`startsGrow_read`), in a broken document too. The span of an element says
this only for elements with an extent: an element could end where it starts, and octets are counted after a mark at
the beginning of the text but placed as if there were none, so that a start may name an octet inside of a character.
But another tag follows only where the tags before it have been read whole, and the brackets of an element that is
read whole take four octets or more (`Token.extent`), as many as any character.

Thus the siblings below a node are told apart by what they are, without the place where they stand
(`distinctIn_read`). -/

namespace XmlDiagnostics

/-- The octets that the brackets of a tag take at least. -/
def Markup.Token.extent : Token → Nat
  | .startTag _ => 2
  | .emptyTag _ => 4
  | .endTag _ => 2
  | _ => 0

namespace Document

open Markup Text

/-- Siblings start one after the other, on every level of trees. -/
structure StartsGrow (trees : List (Tree Element)) : Prop where
  siblings : (topElements trees).Pairwise fun earlier later => earlier.start < later.start
  below : ∀ node ∈ Tree.subtreesIn trees,
    (topElements node.children).Pairwise fun earlier later => earlier.start < later.start

/-- Tokens take the octets of their brackets if another tag follows. -/
def Extended (tokens : List PlacedToken) : Prop :=
  tokens.Pairwise fun earlier later => later.token.tag?.isSome → earlier.start + earlier.token.extent ≤ earlier.stop

/-! ### The extent of tokens -/

theorem extent_le_byteLength {token : Token} {written rest : List Char} (h : Written token written rest)
    (hempty : ∀ tag, token = .emptyTag tag → tag.content ≠ []) : token.extent ≤ byteLength written := by
  have hopen : '<'.utf8Size = 1 := rfl
  have hslash : '/'.utf8Size = 1 := rfl
  have hclose : '>'.utf8Size = 1 := rfl
  cases h with
  | startTag | endTag =>
      simp only [Token.extent, byteLength, byteLength_append, List.cons_append]
      omega
  | @emptyTag tag =>
      have hcontent : byteLength tag.content ≠ 0 := fun h => hempty tag rfl (byteLength_eq_zero.mp h)
      simp only [Token.extent, byteLength, byteLength_append, List.cons_append]
      omega
  | _ => exact Nat.zero_le _

/-- The tokens of a text take the octets of their brackets, and none stops behind the text. -/
theorem extent_of_mem_tokens {text : List Char} {token : PlacedToken} (h : token ∈ (Markup.tokens text).tokens) :
    token.start + token.token.extent ≤ token.stop ∧ token.stop ≤ byteLength text := by
  have hcover : Cover 0 (Markup.tokens text).tokens (withoutMark text) := cover_cut _ _ _ _
  obtain ⟨before, written, rest, -, hwritten, hstart, hstop⟩ := hcover.exists_written h
  have hextent := extent_le_byteLength hwritten (content_ne_nil_of_mem_cut token h)
  have hbound := (hcover.inOrder.bounds_of_mem h).2
  have hend := hcover.endOf_le
  have hmark := byteLength_withoutMark_le text
  rw [byteLength_append] at hstop
  omega

theorem mem_tokens_of_mem_accepted {text : List Char} {token : PlacedToken} (h : token ∈ accepted text) :
    token ∈ (Markup.tokens text).tokens := by
  obtain ⟨rest, htokens, -⟩ := exists_append_accepted text
  rw [htokens]
  exact List.mem_append_left _ h

/-- The tags that open elements are tokens of the text. -/
theorem mem_accepted_of_mem_completed {text : List Char} {token : PlacedToken} (h : token ∈ completed text)
    (htag : token.token.tag?.isSome) : token ∈ accepted text := by
  rcases List.mem_append.mp h with h | h
  · exact h
  · obtain ⟨opening, -, rfl⟩ := List.mem_map.mp h
    cases htag

theorem start_lt_of_mem_completed {text : List Char} {token : PlacedToken} (h : token ∈ completed text)
    (htag : token.token.tag?.isSome) : token.start < byteLength text := by
  obtain ⟨hextent, hend⟩ := extent_of_mem_tokens (mem_tokens_of_mem_accepted (mem_accepted_of_mem_completed h htag))
  have hpos : 0 < token.token.extent := by
    cases ht : token.token with
    | startTag | emptyTag => exact Nat.succ_pos _
    | _ =>
        rw [ht] at htag
        cases htag
  omega

theorem extended_completed (text : List Char) : Extended (completed text) := by
  unfold Extended completed completedAt
  rw [List.pairwise_append]
  refine ⟨List.pairwise_of_forall_mem_list fun earlier hearlier _ _ _ => ?_, ?_, ?_⟩
  · exact (extent_of_mem_tokens (mem_tokens_of_mem_accepted hearlier)).1
  · -- what closes the open tags is no tag that opens an element
    rw [List.pairwise_map]
    exact List.pairwise_of_forall fun _ _ h => by cases h
  · intro earlier _ later hlater htag
    obtain ⟨opening, -, rfl⟩ := List.mem_map.mp hlater
    cases htag

/-! ### Brackets one after the other -/

theorem startsGrow_nil : StartsGrow [] where
  siblings := .nil
  below := fun node h => by cases h

theorem StartsGrow.cons {element : Element} {children trees : List (Tree Element)}
    (hlater : ∀ later ∈ topElements trees, element.start < later.start) (hchildren : StartsGrow children)
    (htrees : StartsGrow trees) : StartsGrow (.node (some element) children :: trees) where
  siblings := by
    rw [topElements_cons_some, List.pairwise_cons]
    exact ⟨hlater, htrees.siblings⟩
  below := by
    intro node hnode
    rw [Tree.subtreesIn, Tree.subtrees, List.mem_append, List.mem_cons] at hnode
    rcases hnode with (rfl | hnode) | hnode
    · exact hchildren.siblings
    · exact hchildren.below node hnode
    · exact htrees.below node hnode

/-- An element starts at the tag that opens it. -/
theorem exists_opening_of_mem_topElements {place : Nat → Position} {tokens : List PlacedToken}
    {trees : List (Tree Bracket)} (h : Bracketed tokens trees) (scope : Scope) {element : Element}
    (hmem : element ∈ topElements (elementTrees place scope trees)) :
    ∃ opening ∈ tokens, opening.token.tag?.isSome ∧ element.start = place opening.start := by
  obtain ⟨scope', tag, opening, closing, hcloses, rfl⟩ := exists_closes h scope (mem_valuesIn_of_mem_topElements hmem)
  exact ⟨opening, (mem_of_closes hcloses).1, by rw [tag?_opening hcloses]; rfl, rfl⟩

/-- **Brackets start one after the other**, if octets that are four or more apart have positions in their order. -/
theorem startsGrow_elementTrees {place : Nat → Position} {last : Nat}
    (hplace : ∀ o o', o + 4 ≤ o' → o' < last → place o < place o') {tokens : List PlacedToken}
    {trees : List (Tree Bracket)} (h : Bracketed tokens trees) (scope : Scope) {offset : Nat}
    (horder : InOrder offset tokens) (hextended : Extended tokens)
    (hlast : ∀ token ∈ tokens, token.token.tag?.isSome → token.start < last) :
    StartsGrow (elementTrees place scope trees) := by
  induction h generalizing scope offset with
  | nil => exact startsGrow_nil
  | other _ _ ih =>
      exact ih scope horder.2.2 (List.Pairwise.of_cons hextended) fun token hmem => hlast token (List.mem_cons_of_mem _ hmem)
  | @empty tag token tokens trees ht htokens ih =>
      obtain ⟨hbehind, hextended⟩ := List.pairwise_cons.mp hextended
      obtain ⟨-, -, hrest⟩ := horder
      have hlast' := fun token hmem => hlast token (List.mem_cons_of_mem _ hmem)
      refine StartsGrow.cons (fun later hlater => ?_) startsGrow_nil (ih scope hrest hextended hlast')
      obtain ⟨opening, hmem, htag, hstart⟩ := exists_opening_of_mem_topElements htokens scope hlater
      have hextent := hbehind opening hmem htag
      have hbound := (hrest.bounds_of_mem hmem).1
      rw [ht, Token.extent] at hextent
      rw [hstart]
      exact hplace _ _ (hextent.trans hbound) (hlast' opening hmem htag)
  | @pair tag opening inner children closing tokens trees ho hc hinner htokens ihInner ih =>
      rw [List.cons_append] at horder hextended
      obtain ⟨hopening, hextended⟩ := List.pairwise_cons.mp hextended
      obtain ⟨hextendedInner, hextended, -⟩ := List.pairwise_append.mp hextended
      obtain ⟨hclosing, hextended⟩ := List.pairwise_cons.mp hextended
      obtain ⟨-, -, horder⟩ := horder
      obtain ⟨horderInner, hclose, hclosed, hrest⟩ := inOrder_append.mp horder
      have hlast' : ∀ token ∈ tokens, token.token.tag?.isSome → token.start < last :=
        fun token hmem => hlast token (by simp [hmem])
      have hlastInner : ∀ token ∈ inner, token.token.tag?.isSome → token.start < last :=
        fun token hmem => hlast token (by simp [hmem])
      refine StartsGrow.cons (fun later hlater => ?_) (ihInner _ horderInner hextendedInner hlastInner)
        (ih scope hrest hextended hlast')
      obtain ⟨next, hmem, htag, hstart⟩ := exists_opening_of_mem_topElements htokens scope hlater
      have hextentOpening := hopening next (by simp [hmem]) htag
      have hextentClosing := hclosing next hmem htag
      have hbetween := horderInner.le_endOf
      have hbound := (hrest.bounds_of_mem hmem).1
      rw [ho, Token.extent] at hextentOpening
      rw [hc, Token.extent] at hextentClosing
      rw [hstart]
      have hfar : opening.start + 4 ≤ next.start := by omega
      exact hplace _ _ hfar (hlast' next hmem htag)

/-! ### The document -/

/-- **A later sibling starts later** in the tree of a text with fewer than `2 ^ 31` characters. -/
theorem startsGrow_read {text : List Char} (hlength : text.length < 2 ^ 31) :
    StartsGrow (Document.read text).tree.children := by
  obtain ⟨trees, htrees, htree⟩ := exists_bracketed_read text
  rw [htree]
  apply startsGrow_elementTrees (fun o o' hfar hend => positionAt_lt_of_add_four_le hlength hfar hend) htrees []
  · exact (inOrder_completed text).1
  · exact extended_completed text
  · exact fun token hmem htag => start_lt_of_mem_completed hmem htag

theorem nodup_of_starts {trees : List (Tree Element)} (hvalued : ∀ tree ∈ trees, tree.value?.isSome)
    (hstarts : (topElements trees).Pairwise fun earlier later => earlier.start < later.start) :
    (trees.map fun tree => tree.value?.map id).Nodup := by
  have hmap : (trees.map fun tree => tree.value?.map id) = (topElements trees).map some := by
    simp only [Option.map_id_fun, id_eq]
    exact (Tree.map_some_filterMap_value? hvalued).symm
  rw [hmap]
  refine List.Nodup.map (fun _ _ h => Option.some.inj h) (hstarts.imp fun hlt hsame => ?_)
  rw [hsame] at hlt
  exact (Position.ne_of_lt hlt) rfl

/-- No two siblings are equal. -/
theorem distinctIn_read {text : List Char} (hlength : text.length < 2 ^ 31) :
    Tree.DistinctIn id (Document.read text).tree.children := by
  have hvalued := (read_tree_eq text).2
  have hstarts := startsGrow_read hlength
  refine ⟨nodup_of_starts (fun tree htree => ?_) hstarts.siblings, fun node hnode => ?_⟩
  · exact hvalued tree (Tree.mem_subtreesIn.mpr ⟨tree, htree, Tree.mem_subtrees_self tree⟩)
  · refine nodup_of_starts (fun child hchild => ?_) (hstarts.below node hnode)
    exact hvalued child (Tree.mem_subtreesIn_of_mem_children hnode hchild)

end Document

end XmlDiagnostics
