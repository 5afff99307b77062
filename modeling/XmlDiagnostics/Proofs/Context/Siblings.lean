import XmlDiagnostics.Proofs.Context.Locating
import XmlDiagnostics.Proofs.Document.Starts
import XmlDiagnostics.Proofs.Tree.Addresses

/-! # Siblings of an element

The siblings of an element are looked for among all paths of the document, and paths are compared by value: an element
with the same name, attributes and span elsewhere would be taken for this one, and a parent equal to its parent for this
parent. No two siblings of a document are equal, as they start one after the other (`Document.distinctIn_read`), so a
path belongs to one node only, and the siblings found are the other children of its parent
(`documentSiblings_by_node`). -/

namespace XmlDiagnostics.Context

variable (ctx : Context)

theorem document_tree_eq :
    ctx.document.tree = .node none ctx.document.tree.children ∧ Tree.Valued ctx.document.tree.children := by
  rw [ctx.document_eq]
  exact Document.read_tree_eq ctx.text

variable {ctx}

theorem distinctIn_document (hlength : ctx.text.length < 2 ^ 31) : Tree.DistinctIn id ctx.document.tree.children := by
  rw [ctx.document_eq]
  exact Document.distinctIn_read hlength

/-- The way down to a node below an address leads to it. -/
theorem leads_valuesTo {address : List Nat} {node : Tree Element} (h : ctx.document.tree.at? address = some node) :
    Tree.Leads ctx.document.tree (ctx.document.tree.valuesTo address) node := by
  obtain ⟨htree, hvalued⟩ := ctx.document_tree_eq
  have hleads := Tree.leads_of_at? hvalued h
  rwa [← htree] at hleads

/-- A path that a search lists is that of a child of some node. -/
theorem exists_childAt_of_mem_documentPaths {p : Element → Bool} {path : DocumentPath} (h : path ∈ ctx.documentPaths p) :
    ∃ address before element after, ctx.document.tree.ChildAt address before element after ∧ p element = true ∧
      path = ctx.document.tree.valuesTo address ++ [element] := by
  obtain ⟨outer, element, node, rfl, hp, hleads⟩ := ctx.mem_documentPaths_iff.mp h
  obtain ⟨parent, hparent, hnode, hvalue⟩ := Tree.leads_concat.mp hleads
  obtain ⟨before, after, hchildren⟩ := List.append_of_mem hnode
  obtain ⟨address, haddress, hway⟩ := hparent.exists_at?
  rw [← ctx.document_tree_eq.1] at hway
  exact ⟨address, before, element, after, ⟨parent, node, haddress, hchildren, hvalue⟩, hp, by rw [hway]⟩

/-- The siblings of a path are the paths to the other children of the node above. -/
theorem documentSiblings_of_childAt (hlength : ctx.text.length < 2 ^ 31) {address : List Nat} {element : Element}
    {before after : List (Tree Element)} (h : ctx.document.tree.ChildAt address before element after)
    (p : Element → Bool) :
    ctx.documentSiblings (ctx.document.tree.valuesTo address ++ [element]) p =
      (((before ++ after).filterMap Tree.value?).filter p).map fun other =>
        ctx.document.tree.valuesTo address ++ [other] := by
  obtain ⟨parent, node, hparent, hchildren, hvalue⟩ := h
  have hsiblings := Tree.siblings_pathsIn (leads_valuesTo hparent) hchildren hvalue ctx.document_tree_eq.2
    (distinctIn_document hlength) p
  simp only [List.map_id, id_eq] at hsiblings
  rw [documentSiblings, if_neg (by simp), List.dropLast_concat, documentPaths_eq]
  exact hsiblings

/-- **Siblings are those of a node.** In the tree of a text with fewer than `2 ^ 31` characters, well-formed or not, the
way down to a node is the way to no other one. Every path that a search lists goes to a child of some node, and its
siblings with a property are just the paths to the children before it and after it that have the property, in
order. -/
theorem documentSiblings_by_node (hlength : ctx.text.length < 2 ^ 31) :
    (∀ address address' : List Nat,
      (ctx.document.tree.at? address).isSome → (ctx.document.tree.at? address').isSome →
        ctx.document.tree.valuesTo address = ctx.document.tree.valuesTo address' → address = address') ∧
    (∀ p, ∀ path ∈ ctx.documentPaths p, ∃ address before element after,
      ctx.document.tree.ChildAt address before element after ∧ p element = true ∧
        path = ctx.document.tree.valuesTo address ++ [element]) ∧
    ∀ address before element after, ctx.document.tree.ChildAt address before element after → ∀ p,
      ctx.documentSiblings (ctx.document.tree.valuesTo address ++ [element]) p =
        (((before ++ after).filterMap Tree.value?).filter p).map fun other =>
          ctx.document.tree.valuesTo address ++ [other] := by
  refine ⟨?_, ?_, ?_⟩
  · intro address address' hsome hsome' hsame
    obtain ⟨htree, hvalued⟩ := ctx.document_tree_eq
    obtain ⟨node, hnode⟩ := Option.isSome_iff_exists.mp hsome
    obtain ⟨node', hnode'⟩ := Option.isSome_iff_exists.mp hsome'
    apply Tree.eq_of_valuesTo_eq hvalued (distinctIn_document hlength) hnode hnode'
    rwa [← htree]
  · intro p path hpath
    exact exists_childAt_of_mem_documentPaths hpath
  · intro address before element after hchild p
    exact documentSiblings_of_childAt hlength hchild p

/-- An element that is not closed has three children, and below the second one is an element named like the others. -/
theorem documentSiblings_by_node_unclosed :
    let ctx := ofText "<r><a/><b><a/></b><a/>".toList
    let r : Element := ⟨⟨"", "r"⟩, .empty, ⟨1, 1⟩, ⟨1, 23⟩⟩
    let first : Element := ⟨⟨"", "a"⟩, .empty, ⟨1, 4⟩, ⟨1, 8⟩⟩
    let second : Element := ⟨⟨"", "b"⟩, .empty, ⟨1, 8⟩, ⟨1, 19⟩⟩
    let inner : Element := ⟨⟨"", "a"⟩, .empty, ⟨1, 11⟩, ⟨1, 15⟩⟩
    let third : Element := ⟨⟨"", "a"⟩, .empty, ⟨1, 19⟩, ⟨1, 23⟩⟩
    ctx.text.length < 2 ^ 31 ∧ ctx.document.valid = false ∧
      ctx.document.tree.ChildAt [0] [.leaf first, .node (some second) [.leaf inner]] third [] ∧
      ctx.documentSiblings [r, third] (fun element => element.name = ⟨"", "a"⟩) = [[r, first]] := by
  intro ctx r first second inner third
  have hlength : ctx.text.length < 2 ^ 31 := by decide
  have hparent : ctx.document.tree.at? [0] =
      some (.node (some r) [.leaf first, .node (some second) [.leaf inner], .leaf third]) := by with_unfolding_all rfl
  have hchild : ctx.document.tree.ChildAt [0] [.leaf first, .node (some second) [.leaf inner]] third [] :=
    ⟨_, .leaf third, hparent, rfl, rfl⟩
  have hway : ctx.document.tree.valuesTo [0] = [r] := by decide +kernel
  obtain ⟨-, -, hsiblings⟩ := documentSiblings_by_node hlength
  refine ⟨hlength, by decide +kernel, hchild, ?_⟩
  have hfound := hsiblings [0] _ third [] hchild fun element => element.name = ⟨"", "a"⟩
  rw [hway] at hfound
  exact hfound

end XmlDiagnostics.Context
