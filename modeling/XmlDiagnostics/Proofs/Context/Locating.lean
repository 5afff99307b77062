import XmlDiagnostics.Context.Paths
import XmlDiagnostics.Proofs.Document.Nesting
import XmlDiagnostics.Proofs.Tree.Paths

/-! # Elements at a position

Several elements with one name can enclose a position, one inside the other or side by side where two of them
meet. The search takes the first one in document order. As spans nest, this is the outermost of those that lie one inside
the other, and of two that meet at the position the earlier one (`documentPathAt_outermost`). The element that
just starts at the position, or the innermost one, is another as soon as there are two
(`documentPathAt_not_innermost`). -/

namespace XmlDiagnostics

theorem Element.encloses_iff {element : Element} {position : Position} :
    element.encloses position = true ↔ element.start ≤ position ∧ position ≤ element.stop := by
  rw [encloses, Bool.and_eq_true, decide_eq_true_iff, decide_eq_true_iff]

namespace Document

/-! ### Taking trees between positions apart -/

/-- Where spans nest, all elements lie between any two positions that the elements at the top lie between. -/
theorem between_of_topElements {first last : Position} {trees : List (Tree Element)} (hvalued : Tree.Valued trees)
    (htop : ∀ element ∈ topElements trees, first ≤ element.start ∧ element.stop ≤ last)
    (hordered : (topElements trees).Pairwise fun earlier later => earlier.stop ≤ later.start)
    (hnest : ∀ node ∈ Tree.subtreesIn trees, ∀ element, node.value? = some element →
      SpansNest element (topElements node.children)) : Between first last trees where
  within := by
    induction trees using Tree.forest_induction generalizing first last with
    | nil =>
        intro element hmem
        cases hmem
    | cons top children trees ihChildren ih =>
        obtain ⟨hsome, hchildren, htrees⟩ := Tree.valued_cons.mp hvalued
        obtain ⟨element, rfl⟩ := Option.isSome_iff_exists.mp hsome
        rw [topElements_cons_some] at htop hordered
        have hself := hnest _ (List.mem_append_left _ (Tree.mem_subtrees_self _)) element rfl
        obtain ⟨hfirst, hlast⟩ := htop element List.mem_cons_self
        have hinner := ihChildren hchildren hself.within hself.ordered fun node hnode =>
          hnest node (List.mem_append_left _ (List.mem_cons_of_mem _ hnode))
        have hothers := ih htrees (fun other hother => htop other (List.mem_cons_of_mem _ hother))
          (List.pairwise_cons.mp hordered).2 fun node hnode => hnest node (List.mem_append_right _ hnode)
        intro e he
        rw [Tree.valuesIn, Tree.values, Option.toList_some, List.mem_append, List.mem_append, List.mem_singleton] at he
        rcases he with (rfl | he) | he
        · exact ⟨hfirst, Position.le_trans hself.start_le_stop hlast, hlast⟩
        · obtain ⟨h₁, h₂, h₃⟩ := hinner e he
          exact ⟨Position.le_trans hfirst h₁, Position.le_trans h₂ hlast, Position.le_trans h₃ hlast⟩
        · exact hothers e he
  ordered := hordered
  nest := hnest

/-- Trees between two positions are those inside the first element, and others behind it. -/
theorem Between.of_cons {first last : Position} {element : Element} {children trees : List (Tree Element)}
    (hvalued : Tree.Valued (.node (some element) children :: trees))
    (h : Between first last (.node (some element) children :: trees)) :
    Between element.start element.stop children ∧ Between element.stop last trees := by
  obtain ⟨-, hchildren, htrees⟩ := Tree.valued_cons.mp hvalued
  have hself := h.nest _ (List.mem_append_left _ (Tree.mem_subtrees_self _)) element rfl
  have hordered := h.ordered
  rw [topElements_cons_some, List.pairwise_cons] at hordered
  refine ⟨between_of_topElements hchildren hself.within hself.ordered fun node hnode =>
      h.nest node (List.mem_append_left _ (List.mem_cons_of_mem _ hnode)),
    between_of_topElements htrees (fun other hother => ⟨hordered.1 other hother, ?_⟩) hordered.2 fun node hnode =>
      h.nest node (List.mem_append_right _ hnode)⟩
  exact (h.within other (List.mem_append_right _ (mem_valuesIn_of_mem_topElements hother))).2.2

/-! ### The first path -/

/-- The first path to an element at a position has no element of that name above its end. Each other path goes on
from it, or leads to an element that starts at the position where the first one stops. -/
theorem Between.head_pathsIn {first last : Position} {trees : List (Tree Element)} (hvalued : Tree.Valued trees)
    (h : Between first last trees) {name : QName} {position : Position} {ancestors path : DocumentPath}
    {others : List DocumentPath}
    (hpaths : Tree.pathsIn true (fun element => element.name = name && element.encloses position) ancestors trees =
      path :: others) :
    ∃ outer element, path = ancestors ++ (outer ++ [element]) ∧ element ∈ Tree.valuesIn trees ∧
      element.name = name ∧ element.encloses position = true ∧ (∀ above ∈ outer, above.name ≠ name) ∧
      ∀ other ∈ others, path <+: other ∨
        ∃ outer' element', other = outer' ++ [element'] ∧ element.stop = position ∧ element'.start = position := by
  induction trees using Tree.forest_induction generalizing first last ancestors path others with
  | nil => cases hpaths
  | cons top children trees ihChildren ih =>
      obtain ⟨hsome, hchildren, htrees⟩ := Tree.valued_cons.mp hvalued
      obtain ⟨here, rfl⟩ := Option.isSome_iff_exists.mp hsome
      obtain ⟨hinner, hbehind⟩ := h.of_cons hvalued
      -- what lies behind an element that encloses the position meets it there
      have hmeet : ∀ element : Element, element.encloses position = true → element.stop ≤ here.stop →
          ∀ other ∈ Tree.pathsIn true (fun e => e.name = name && e.encloses position) ancestors trees,
          ∃ outer' element', other = outer' ++ [element'] ∧ element.stop = position ∧ element'.start = position := by
        intro element hencloses hstop other hother
        obtain ⟨outer', element', node, rfl, hfound, hleads⟩ := (Tree.mem_pathsIn_iff htrees).mp hother
        have hmem := hleads.mem_values element' (List.mem_append_right _ (List.mem_singleton.mpr rfl))
        rw [Tree.values, Option.toList_none, List.nil_append] at hmem
        have hafter := (hbehind.within element' hmem).1
        have hposition := (Element.encloses_iff.mp hencloses).2
        have hstart := (Element.encloses_iff.mp (Bool.and_eq_true_iff.mp hfound).2).1
        refine ⟨ancestors ++ outer', element', by rw [List.append_assoc], ?_, ?_⟩
        · exact Position.le_antisymm (Position.le_trans (Position.le_trans hstop hafter) hstart) hposition
        · exact Position.le_antisymm hstart (Position.le_trans hposition (Position.le_trans hstop hafter))
      rw [Tree.pathsIn_cons_some] at hpaths
      by_cases hhere : (decide (here.name = name) && here.encloses position) = true
      · rw [if_pos hhere, List.singleton_append, List.cons_append, List.cons.injEq] at hpaths
        obtain ⟨rfl, rfl⟩ := hpaths
        obtain ⟨hname, hencloses⟩ := Bool.and_eq_true_iff.mp hhere
        refine ⟨[], here, rfl, by simp [Tree.valuesIn, Tree.values], of_decide_eq_true hname, hencloses, by simp, ?_⟩
        intro other hother
        rcases List.mem_append.mp hother with hother | hother
        · obtain ⟨outer, element, node, rfl, -⟩ := (Tree.mem_pathsIn_iff hchildren).mp hother
          exact .inl (List.prefix_append _ _)
        · exact .inr (hmeet here hencloses (Position.le_refl _) other hother)
      · rw [if_neg hhere, List.nil_append] at hpaths
        rcases List.append_eq_cons_iff.mp hpaths with ⟨hnone, hpaths⟩ | ⟨below, hbelow, rfl⟩
        · obtain ⟨outer, element, hpath, hmem, hrest⟩ := ih htrees hbehind hpaths
          exact ⟨outer, element, hpath, List.mem_append_right _ hmem, hrest⟩
        · obtain ⟨outer, element, hpath, hmem, hname, hencloses, habove, hothers⟩ := ihChildren hchildren hinner hbelow
          obtain ⟨hstart, -, hstop⟩ := hinner.within element hmem
          refine ⟨here :: outer, element, by simp [hpath], ?_, hname, hencloses, ?_, ?_⟩
          · exact List.mem_append_left _ (List.mem_append_right _ hmem)
          · -- the element here encloses what its descendant encloses, so it was passed for its name
            have hspan := Element.encloses_iff.mp hencloses
            have hhere' : here.encloses position = true :=
              Element.encloses_iff.mpr ⟨Position.le_trans hstart hspan.1, Position.le_trans hspan.2 hstop⟩
            intro above hmem
            rcases List.mem_cons.mp hmem with rfl | hmem
            · simpa [hhere'] using hhere
            · exact habove above hmem
          · intro other hother
            rcases List.mem_append.mp hother with hother | hother
            · exact hothers other hother
            · exact .inr (hmeet element hencloses hstop other hother)

end Document

namespace Context

/-- A context around a text alone. -/
def ofText (text : List Char) : Context :=
  let setup : ContextSetup := { url := ⟨"file", .opaqueText "", none, none⟩, schemaUrls := [] }
  setup.context .utf8 text []

variable (ctx : Context)

theorem documentPaths_eq (p : Element → Bool) :
    ctx.documentPaths p = Tree.pathsIn true p [] ctx.document.tree.children := by
  rw [documentPaths, ctx.document_eq, (Document.read_tree_eq ctx.text).1, Tree.paths_eq_pathsFrom,
    Tree.pathsFrom]
  rfl

/-- The paths that a search in a document lists are the ways down to the elements looked for. -/
theorem mem_documentPaths_iff {p : Element → Bool} {path : DocumentPath} :
    path ∈ ctx.documentPaths p ↔ ∃ outer element node, path = outer ++ [element] ∧ p element = true ∧
      Tree.Leads ctx.document.tree (outer ++ [element]) node := by
  rw [documentPaths_eq, ctx.document_eq, Tree.mem_pathsIn_iff (Document.read_tree_eq ctx.text).2]
  simp only [List.nil_append, Tree.leads_concat_of_children]

/-- The path to an element at a position is one of those that are listed. -/
theorem documentPathAt_mem {name : QName} {position : Position} {element : Element}
    (h : (ctx.documentPathAt name position).getLast? = some element) :
    ctx.documentPathAt name position ∈ ctx.documentPaths fun element => element.name = name && element.encloses position := by
  unfold documentPathAt documentPath at h ⊢
  cases hpaths : ctx.documentPaths fun element => element.name = name && element.encloses position with
  | nil =>
      rw [hpaths] at h
      cases h
  | cons path paths => exact List.mem_cons_self

/-- **The outermost element at a position.** If an element with a name encloses a position, the search finds the
way down to one of them. None above it has the name, and every other one lies below it, or starts at the
position where it stops. -/
theorem documentPathAt_outermost (hlength : ctx.text.length < 2 ^ 31) (name : QName) (position : Position)
    (hsome : ∃ outer element node, Tree.Leads ctx.document.tree (outer ++ [element]) node ∧
      element.name = name ∧ element.encloses position = true) :
    ∃ outer element node, ctx.documentPathAt name position = outer ++ [element] ∧
      Tree.Leads ctx.document.tree (outer ++ [element]) node ∧
      element.name = name ∧ element.encloses position = true ∧ (∀ above ∈ outer, above.name ≠ name) ∧
      ∀ outer' element' node', Tree.Leads ctx.document.tree (outer' ++ [element']) node' → element'.name = name →
        element'.encloses position = true →
          outer ++ [element] <+: outer' ++ [element'] ∨ (element.stop = position ∧ element'.start = position) := by
  let here : Element → Bool := fun element => element.name = name && element.encloses position
  have hmem : ∀ outer' element' node', Tree.Leads ctx.document.tree (outer' ++ [element']) node' →
      element'.name = name → element'.encloses position = true → outer' ++ [element'] ∈ ctx.documentPaths here := by
    intro outer' element' node' hleads hname hencloses
    exact ctx.mem_documentPaths_iff.mpr ⟨outer', element', node', rfl, by simp [here, hname, hencloses], hleads⟩
  obtain ⟨outer', element', node', hleads, hname, hencloses⟩ := hsome
  obtain ⟨path, others, hpaths⟩ := List.exists_cons_of_ne_nil (List.ne_nil_of_mem (hmem _ _ _ hleads hname hencloses))
  have hfound : ctx.documentPathAt name position = path := by
    show (ctx.documentPaths here).headD [] = path
    rw [hpaths, List.headD_cons]
  have hbetween := Document.between_children_read hlength
  have hvalued := (Document.read_tree_eq ctx.text).2
  rw [← ctx.document_eq] at hbetween hvalued
  have hhead := hpaths
  rw [documentPaths_eq] at hhead
  obtain ⟨outer, element, hpath, -, hname, hencloses, habove, hothers⟩ := hbetween.head_pathsIn hvalued hhead
  rw [List.nil_append] at hpath
  obtain ⟨_, _, node, hsame, -, hleads⟩ := ctx.mem_documentPaths_iff.mp
    (show path ∈ ctx.documentPaths here by rw [hpaths]; exact List.mem_cons_self)
  rw [← hsame, hpath] at hleads
  refine ⟨outer, element, node, hfound.trans hpath, hleads, hname, hencloses, habove, ?_⟩
  intro outer' element' node' hleads' hname' hencloses'
  have hlisted := hmem outer' element' node' hleads' hname' hencloses'
  rw [hpaths, hpath] at hlisted
  rcases List.mem_cons.mp hlisted with hsame | hother
  · exact .inl (hsame ▸ List.prefix_refl _)
  · rcases hothers _ hother with hprefix | ⟨outer'', element'', hend, hmeet⟩
    · exact .inl (hpath ▸ hprefix)
    · obtain ⟨-, hend⟩ := List.append_inj' hend rfl
      obtain rfl := List.singleton_inj.mp hend
      exact .inr hmeet

/-- The second of two siblings starts where the first one stops. -/
theorem documentPathAt_outermost_siblings :
    let ctx := ofText "<r><a/><a/></r>".toList
    ctx.text.length < 2 ^ 31 ∧
    (∃ outer element node, Tree.Leads ctx.document.tree (outer ++ [element]) node ∧
      element.name = ⟨"", "a"⟩ ∧ element.encloses ⟨1, 8⟩ = true) ∧
    ∃ outer element node, ctx.documentPathAt ⟨"", "a"⟩ ⟨1, 8⟩ = outer ++ [element] ∧
      Tree.Leads ctx.document.tree (outer ++ [element]) node ∧
      element.name = ⟨"", "a"⟩ ∧ element.encloses ⟨1, 8⟩ = true ∧ (∀ above ∈ outer, above.name ≠ ⟨"", "a"⟩) ∧
      ∀ outer' element' node', Tree.Leads ctx.document.tree (outer' ++ [element']) node' → element'.name = ⟨"", "a"⟩ →
        element'.encloses ⟨1, 8⟩ = true →
          outer ++ [element] <+: outer' ++ [element'] ∨ (element.stop = ⟨1, 8⟩ ∧ element'.start = ⟨1, 8⟩) := by
  intro ctx
  have hlength : ctx.text.length < 2 ^ 31 := by decide
  let r : Element := ⟨⟨"", "r"⟩, .empty, ⟨1, 1⟩, ⟨1, 16⟩⟩
  let a : Element := ⟨⟨"", "a"⟩, .empty, ⟨1, 8⟩, ⟨1, 12⟩⟩
  have hmem : [r, a] ∈ ctx.documentPaths fun element => element.name = ⟨"", "a"⟩ && element.encloses ⟨1, 8⟩ := by
    decide +kernel
  obtain ⟨outer, element, node, -, hfound, hleads⟩ := ctx.mem_documentPaths_iff.mp hmem
  obtain ⟨hname, hencloses⟩ := Bool.and_eq_true_iff.mp hfound
  have hsome : ∃ outer element node, Tree.Leads ctx.document.tree (outer ++ [element]) node ∧
      element.name = ⟨"", "a"⟩ ∧ element.encloses ⟨1, 8⟩ = true :=
    ⟨outer, element, node, hleads, of_decide_eq_true hname, hencloses⟩
  exact ⟨hlength, hsome, ctx.documentPathAt_outermost hlength ⟨"", "a"⟩ ⟨1, 8⟩ hsome⟩

/-- **Not the innermost one.** In both texts two elements of one name enclose the position, and the second one starts there.
In the first text it is inside the other, in the second text it is the next sibling. Both times the first one is
found. -/
theorem documentPathAt_not_innermost :
    let inside := ofText "<a><a/></a>".toList
    let beside := ofText "<r><a/><a/></r>".toList
    let outer : Element := ⟨⟨"", "a"⟩, .empty, ⟨1, 1⟩, ⟨1, 12⟩⟩
    let inner : Element := ⟨⟨"", "a"⟩, .empty, ⟨1, 4⟩, ⟨1, 8⟩⟩
    let top : Element := ⟨⟨"", "r"⟩, .empty, ⟨1, 1⟩, ⟨1, 16⟩⟩
    let next : Element := ⟨⟨"", "a"⟩, .empty, ⟨1, 8⟩, ⟨1, 12⟩⟩
    (inside.documentPathAt ⟨"", "a"⟩ ⟨1, 4⟩ = [outer] ∧ inner.start = ⟨1, 4⟩ ∧
      [outer, inner] ∈ inside.documentPaths fun e => e.name = ⟨"", "a"⟩ && e.encloses ⟨1, 4⟩) ∧
    beside.documentPathAt ⟨"", "a"⟩ ⟨1, 8⟩ = [top, inner] ∧ next.start = ⟨1, 8⟩ ∧
      [top, next] ∈ beside.documentPaths fun e => e.name = ⟨"", "a"⟩ && e.encloses ⟨1, 8⟩ := by
  decide +kernel

end Context

end XmlDiagnostics
