import XmlDiagnostics.Proofs.Tree.Paths
import XmlDiagnostics.Schema.Grammar

/-! # Children of grammar nodes

The trees below a node of a grammar are put in with `firstPerElement`, which keeps one tree for each name. So
no node has two children with one name (`nodup_children_expand`, `distinctIn_children_tree`). -/

namespace XmlDiagnostics

namespace Grammar

theorem firstPerElement_sublist (seen : List QName) (trees : List (Tree GrammarElement)) :
    (firstPerElement seen trees).Sublist trees := by
  fun_induction firstPerElement seen trees with
  | case1 => exact .slnil
  | case2 seen tree rest element hvalue hmem ih => exact ih.cons tree
  | case3 seen tree rest element hvalue hmem ih => exact ih.cons_cons tree
  | case4 seen tree rest hvalue ih => exact ih.cons_cons tree

/-- The kept trees have different names at the top, none of which has been seen. -/
theorem nodup_firstPerElement (seen : List QName) {trees : List (Tree GrammarElement)}
    (hvalued : ∀ tree ∈ trees, tree.value?.isSome) :
    ((firstPerElement seen trees).map fun tree => tree.value?.map GrammarElement.name).Nodup ∧
      ∀ tree ∈ firstPerElement seen trees, ∀ name ∈ seen, tree.value?.map GrammarElement.name ≠ some name := by
  fun_induction firstPerElement seen trees with
  | case1 => exact ⟨List.nodup_nil, fun tree h => by cases h⟩
  | case2 seen tree rest element hvalue hmem ih =>
      exact ih fun tree' htree' => hvalued tree' (List.mem_cons_of_mem _ htree')
  | case3 seen tree rest element hvalue hmem ih =>
      obtain ⟨hnodup, hseen⟩ := ih fun tree' htree' => hvalued tree' (List.mem_cons_of_mem _ htree')
      have htop : tree.value?.map GrammarElement.name = some element.name := by rw [hvalue]; rfl
      constructor
      · rw [List.map_cons, List.nodup_cons, htop]
        refine ⟨fun hname => ?_, hnodup⟩
        obtain ⟨tree', htree', hsame⟩ := List.mem_map.mp hname
        exact hseen tree' htree' element.name List.mem_cons_self hsame
      · intro tree' htree' name hname
        rcases List.mem_cons.mp htree' with rfl | htree'
        · rw [htop]
          intro heq
          obtain rfl := Option.some.inj heq
          exact hmem hname
        · exact hseen tree' htree' name (List.mem_cons_of_mem _ hname)
  | case4 seen tree rest hvalue ih =>
      have hsome := hvalued tree List.mem_cons_self
      rw [hvalue] at hsome
      cases hsome

theorem isSome_value?_expand (g : Grammar) {unused : List QName} {d : Declaration} {tree : Tree GrammarElement}
    (h : g.expand unused d = some tree) : tree.value?.isSome := by
  unfold expand at h
  split at h
  · cases h
  · split at h
    · cases h
    · split at h
      · obtain rfl := Option.some.inj h
        rfl
      · obtain rfl := Option.some.inj h
        rfl

/-- Every node in the tree of a declaration is an element, and its children have different names. -/
theorem nodup_children_expand (g : Grammar) {unused : List QName} {d : Declaration} {tree : Tree GrammarElement}
    (h : g.expand unused d = some tree) :
    ∀ node ∈ tree.subtrees,
      node.value?.isSome ∧ (node.children.map fun child => child.value?.map GrammarElement.name).Nodup := by
  fun_induction Grammar.expand g unused d generalizing tree with
  | case1 => cases h
  | case2 => cases h
  | case3 unused d d' htarget name hname content element hmem inside =>
      rename_i ih
      obtain rfl := Option.some.inj h
      intro node hnode
      rcases List.mem_cons.mp hnode with rfl | hnode
      · refine ⟨rfl, (nodup_firstPerElement [] fun child hchild => ?_).1⟩
        obtain ⟨particle, -, hexpand⟩ := List.mem_filterMap.mp hchild
        exact isSome_value?_expand g hexpand
      · obtain ⟨child, hchild, hnode⟩ := Tree.mem_subtreesIn.mp hnode
        obtain ⟨particle, -, hexpand⟩ := List.mem_filterMap.mp ((firstPerElement_sublist [] _).mem hchild)
        exact ih particle hexpand node hnode
  | case4 =>
      obtain rfl := Option.some.inj h
      intro node hnode
      obtain rfl := List.mem_singleton.mp hnode
      exact ⟨rfl, List.nodup_nil⟩

theorem exists_expand_of_mem_children_tree {g : Grammar} {tree : Tree GrammarElement} (h : tree ∈ g.tree.children) :
    ∃ d, g.expand g.names d = some tree := by
  obtain ⟨⟨schema, number⟩, -, hmem⟩ := List.mem_flatMap.mp ((firstPerElement_sublist [] _).mem h)
  obtain ⟨n, -, hexpand⟩ := List.mem_filterMap.mp hmem
  exact ⟨_, hexpand⟩

theorem distinctIn_children_tree (g : Grammar) : Tree.DistinctIn GrammarElement.name g.tree.children := by
  constructor
  · refine (nodup_firstPerElement [] fun tree htree => ?_).1
    obtain ⟨⟨schema, number⟩, -, hmem⟩ := List.mem_flatMap.mp htree
    obtain ⟨n, -, hexpand⟩ := List.mem_filterMap.mp hmem
    exact isSome_value?_expand g hexpand
  · intro node hnode
    obtain ⟨tree, htree, hnode⟩ := Tree.mem_subtreesIn.mp hnode
    obtain ⟨d, hexpand⟩ := exists_expand_of_mem_children_tree htree
    exact (nodup_children_expand g hexpand node hnode).2

end Grammar

end XmlDiagnostics
