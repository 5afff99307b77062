import XmlDiagnostics.Proofs.Tree.Paths

/-! # Addresses in a tree

A node of a tree has an address, the numbers of the children that one goes to from the top down to it; values cannot
name a node, as they may be repeated and be missing. A node stands before another in pre-order just if its address
is smaller as a list: it is above the other, or it lies below an earlier child where the two ways part.

The paths that a search lists are the values met on the way to each node it looks for, these nodes in
pre-order (`paths_eq_map_valuesTo`). -/

namespace XmlDiagnostics.Tree

variable {α : Type}

/-- The tree at an address. -/
def at? (tree : Tree α) : List Nat → Option (Tree α)
  | [] => some tree
  | i :: address => tree.children[i]?.bind fun child => child.at? address

/-- The values met from the top of a tree down to an address; a node without a value adds nothing. -/
def valuesTo (tree : Tree α) : List Nat → List α
  | [] => tree.value?.toList
  | i :: address => tree.value?.toList ++ tree.children[i]?.elim [] fun child => child.valuesTo address

/-- A value that satisfies `p` stands at an address. -/
def FoundAt (p : α → Bool) (tree : Tree α) (address : List Nat) : Prop :=
  ∃ node value, tree.at? address = some node ∧ node.value? = some value ∧ p value

mutual

/-- The addresses of the values that satisfy `p`, in pre-order. -/
def addresses (p : α → Bool) : Tree α → List (List Nat)
  | node value children => (if value.any p then [[]] else []) ++ addressesIn p 0 children

/-- The addresses in a list of trees, the first of which is the child with the number `i`. -/
def addressesIn (p : α → Bool) (i : Nat) : List (Tree α) → List (List Nat)
  | [] => []
  | tree :: trees => (tree.addresses p).map (i :: ·) ++ addressesIn p (i + 1) trees

end

/-! ### What the addresses are -/

theorem mem_addressesIn {p : α → Bool} {i : Nat} {trees : List (Tree α)} {address : List Nat} :
    address ∈ addressesIn p i trees ↔
      ∃ n rest tree, address = (i + n) :: rest ∧ trees[n]? = some tree ∧ rest ∈ tree.addresses p := by
  induction trees generalizing i with
  | nil => simp [addressesIn]
  | cons first trees ih =>
      rw [addressesIn, List.mem_append, ih]
      constructor
      · rintro (hmem | ⟨n, rest, tree, rfl, htree, hrest⟩)
        · obtain ⟨rest, hrest, rfl⟩ := List.mem_map.mp hmem
          exact ⟨0, rest, first, rfl, rfl, hrest⟩
        · exact ⟨n + 1, rest, tree, by simp; omega, htree, hrest⟩
      · rintro ⟨n, rest, tree, rfl, htree, hrest⟩
        cases n with
        | zero =>
            obtain rfl : first = tree := by simpa using htree
            exact .inl (List.mem_map.mpr ⟨rest, hrest, rfl⟩)
        | succ n => exact .inr ⟨n, rest, tree, by simp; omega, htree, hrest⟩

/-- The listed addresses are those of the values looked for. -/
theorem mem_addresses {p : α → Bool} {tree : Tree α} {address : List Nat} :
    address ∈ tree.addresses p ↔ tree.FoundAt p address := by
  induction address generalizing tree with
  | nil =>
      obtain ⟨value, children⟩ := tree
      have hinner : [] ∉ addressesIn p 0 children := by
        intro hmem
        obtain ⟨n, rest, child, hway, -⟩ := mem_addressesIn.mp hmem
        cases hway
      cases value <;> simp [addresses, FoundAt, at?, hinner]
  | cons i rest ih =>
      obtain ⟨value, children⟩ := tree
      have htop : i :: rest ∉ (if value.any p then [[]] else []) := by split <;> simp
      rw [addresses, List.mem_append, or_iff_right htop, mem_addressesIn]
      constructor
      · rintro ⟨n, rest', child, hway, hchild, hmem⟩
        obtain ⟨rfl, rfl⟩ := List.cons.inj hway
        obtain ⟨node, value', hnode, hvalue⟩ := ih.mp hmem
        refine ⟨node, value', ?_, hvalue⟩
        simpa [at?, Tree.children, hchild] using hnode
      · rintro ⟨node, value', hnode, hvalue⟩
        obtain ⟨child, hchild, hnode⟩ := Option.bind_eq_some_iff.mp hnode
        exact ⟨i, rest, child, by simp, hchild, ih.mpr ⟨node, value', hnode, hvalue⟩⟩

/-- The addresses in a list of trees are in pre-order, and so none is listed twice. -/
theorem pairwise_addressesIn (p : α → Bool) (i : Nat) (trees : List (Tree α)) :
    (addressesIn p i trees).Pairwise (· < ·) := by
  induction trees using forest_induction generalizing i with
  | nil => exact .nil
  | cons value children trees ihChildren ih =>
      rw [addressesIn, List.pairwise_append]
      refine ⟨?_, ih (i + 1), ?_⟩
      · -- below one child: the child itself first
        rw [List.pairwise_map]
        have hinner : ((node value children).addresses p).Pairwise (· < ·) := by
          rw [addresses, List.pairwise_append]
          refine ⟨by split <;> simp, ihChildren 0, fun top htop address hmem => ?_⟩
          obtain ⟨n, rest, child, rfl, -⟩ := mem_addressesIn.mp hmem
          obtain rfl : top = [] := by
            split at htop
            · exact List.mem_singleton.mp htop
            · cases htop
          exact List.nil_lt_cons _ _
        exact hinner.imp fun hlt => List.cons_lt_cons_iff.mpr (.inr ⟨rfl, hlt⟩)
      · intro address hmem address' hmem'
        obtain ⟨rest, -, rfl⟩ := List.mem_map.mp hmem
        obtain ⟨n, rest', child, rfl, -⟩ := mem_addressesIn.mp hmem'
        exact List.cons_lt_cons_iff.mpr (.inl (by omega))

theorem pairwise_addresses (p : α → Bool) (tree : Tree α) : (tree.addresses p).Pairwise (· < ·) := by
  have h := pairwise_addressesIn p 0 [tree]
  rw [addressesIn, addressesIn, List.append_nil, List.pairwise_map] at h
  refine h.imp fun hlt => ?_
  simpa using hlt

/-! ### The paths to the addresses -/

theorem valuesTo_node_some (value : α) (children : List (Tree α)) (address : List Nat) :
    (node (some value) children).valuesTo address = value :: (node none children).valuesTo address := by
  cases address <;> simp [valuesTo, Tree.children]

theorem valuesTo_append_cons (before trees : List (Tree α)) (tree : Tree α) (address : List Nat) :
    (node none (before ++ tree :: trees)).valuesTo (before.length :: address) = tree.valuesTo address := by
  simp [valuesTo, Tree.children]

/-- Paths into the trees behind others are listed for their addresses among all of them. -/
theorem pathsIn_eq_map (p : α → Bool) (ancestors : List α) (before trees : List (Tree α)) :
    pathsIn true p ancestors trees =
      (addressesIn p before.length trees).map fun address =>
        ancestors ++ (node none (before ++ trees)).valuesTo address := by
  induction trees using forest_induction generalizing ancestors before with
  | nil => rfl
  | cons value children trees ihChildren ih =>
      have hothers := ih ancestors (before ++ [node value children])
      rw [List.append_assoc, List.singleton_append, List.length_append, List.length_singleton] at hothers
      have hinner := ihChildren (ancestors ++ value.toList) []
      rw [List.length_nil, List.nil_append] at hinner
      have hfirst : (node value children).pathsFrom true p ancestors =
          ((node value children).addresses p).map fun address =>
            ancestors ++ (node value children).valuesTo address := by
        cases value with
        | none => simpa [pathsFrom, addresses] using hinner
        | some value =>
            have hinner' : pathsIn true p (ancestors ++ [value]) children =
                (addressesIn p 0 children).map fun address =>
                  ancestors ++ (node (some value) children).valuesTo address := by
              simpa [valuesTo_node_some] using hinner
            rw [pathsFrom, addresses, List.map_append, hinner']
            by_cases hp : p value <;> simp [hp, valuesTo]
      rw [pathsIn, addressesIn, List.map_append, hothers, List.map_map, hfirst]
      simp only [Function.comp_def, valuesTo_append_cons]

/-- **What a search lists**: for each value looked for, in pre-order, the values from the top down to it, or all of
these but the last. -/
theorem paths_eq_map_valuesTo (p : α → Bool) (tree : Tree α) :
    (tree.addresses p).Pairwise (· < ·) ∧ (∀ address, address ∈ tree.addresses p ↔ tree.FoundAt p address) ∧
      tree.paths true p = (tree.addresses p).map tree.valuesTo ∧
      tree.paths false p = (tree.paths true p).map List.dropLast := by
  refine ⟨pairwise_addresses p tree, fun _ => mem_addresses, ?_, ?_⟩
  · have h := pathsIn_eq_map p [] [] [tree]
    simpa [pathsIn, addressesIn, valuesTo, Tree.children, paths_eq_pathsFrom, Function.comp_def] using h
  · have h := pathsIn_false p [] [tree]
    simpa [pathsIn, paths_eq_pathsFrom] using h

/-- Three nodes have the same value, and a node without one stands between two of them. -/
example :
    (node none [node (some 1) [node none [leaf 1]], leaf 1]).paths true (fun n => n = 1) = [[1], [1, 1], [1]] := by
  decide

/-! ### The children of one node -/

/-- A value is that of a child of the node at an address, which has other children before it and after it. -/
def ChildAt (tree : Tree α) (address : List Nat) (before : List (Tree α)) (value : α) (after : List (Tree α)) : Prop :=
  ∃ parent node, tree.at? address = some parent ∧ parent.children = before ++ node :: after ∧ node.value? = some value

theorem valuesTo_cons {children : List (Tree α)} {i : Nat} {child : Tree α} {value : α} (hchild : children[i]? = some child)
    (hvalue : child.value? = some value) (address : List Nat) :
    (node none children).valuesTo (i :: address) = value :: (node none child.children).valuesTo address := by
  obtain ⟨_, inner⟩ := child
  obtain rfl := hvalue
  rw [valuesTo, Tree.children, hchild, value?_node, Option.toList_none, List.nil_append, Option.elim_some,
    valuesTo_node_some]
  rfl

/-- The first step to an address goes to a child with a value. -/
theorem exists_child_of_at? {tree node : Tree α} {i : Nat} {address : List Nat} (hvalued : Valued tree.children)
    (h : tree.at? (i :: address) = some node) :
    ∃ child value, tree.children[i]? = some child ∧ child.value? = some value ∧ child ∈ tree.children ∧
      child.at? address = some node := by
  obtain ⟨child, hchild, hnode⟩ := Option.bind_eq_some_iff.mp h
  have hmem := List.mem_of_getElem? hchild
  obtain ⟨value, hvalue⟩ := Option.isSome_iff_exists.mp
    (hvalued child (mem_subtreesIn.mpr ⟨child, hmem, mem_subtrees_self child⟩))
  exact ⟨child, value, hchild, hvalue, hmem, hnode⟩

/-- The values met on the way to an address lead to the node there. -/
theorem leads_of_at? {tree node : Tree α} {address : List Nat} (hvalued : Valued tree.children)
    (h : tree.at? address = some node) : Leads tree ((Tree.node none tree.children).valuesTo address) node := by
  induction address generalizing tree with
  | nil =>
      obtain rfl := Option.some.inj h
      exact .stay
  | cons i address ih =>
      obtain ⟨child, value, hchild, hvalue, hmem, hnode⟩ := exists_child_of_at? hvalued h
      rw [valuesTo_cons hchild hvalue]
      exact .down hmem hvalue (ih (hvalued.children_of_mem hmem) hnode)

/-- A way down leads to an address. -/
theorem Leads.exists_at? {tree node : Tree α} {path : List α} (h : Leads tree path node) :
    ∃ address, tree.at? address = some node ∧ (Tree.node none tree.children).valuesTo address = path := by
  induction h with
  | stay => exact ⟨[], rfl, rfl⟩
  | @down tree child node value path hmem hvalue _ ih =>
      obtain ⟨address, hnode, rfl⟩ := ih
      obtain ⟨i, hchild⟩ := List.getElem?_of_mem hmem
      refine ⟨i :: address, ?_, valuesTo_cons hchild hvalue address⟩
      rw [at?, hchild, Option.bind_some, hnode]

/-- Where siblings have different values, the values on the way tell an address. -/
theorem eq_of_valuesTo_eq {tree node node' : Tree α} {address address' : List Nat} (hvalued : Valued tree.children)
    (hdistinct : DistinctIn id tree.children) (h : tree.at? address = some node) (h' : tree.at? address' = some node')
    (hsame : (Tree.node none tree.children).valuesTo address = (Tree.node none tree.children).valuesTo address') :
    address = address' := by
  induction address generalizing tree address' with
  | nil =>
      cases address' with
      | nil => rfl
      | cons j address' =>
          obtain ⟨child', value', hchild', hvalue', -, -⟩ := exists_child_of_at? hvalued h'
          rw [valuesTo_cons hchild' hvalue'] at hsame
          cases hsame
  | cons i address ih =>
      obtain ⟨child, value, hchild, hvalue, hmem, hnode⟩ := exists_child_of_at? hvalued h
      rw [valuesTo_cons hchild hvalue] at hsame
      cases address' with
      | nil => cases hsame
      | cons j address' =>
          obtain ⟨child', value', hchild', hvalue', -, hnode'⟩ := exists_child_of_at? hvalued h'
          rw [valuesTo_cons hchild' hvalue'] at hsame
          obtain ⟨rfl, hrest⟩ := List.cons.inj hsame
          have hplace : i = j := by
            refine (List.getElem?_inj ?_ hdistinct.1).mp ?_
            · rw [List.length_map]
              exact (List.getElem?_eq_some_iff.mp hchild).1
            · rw [List.getElem?_map, List.getElem?_map, hchild, hchild', Option.map_some, Option.map_some, hvalue, hvalue']
          subst hplace
          obtain rfl : child = child' := Option.some.inj (hchild.symm.trans hchild')
          rw [ih (hvalued.children_of_mem hmem) (hdistinct.children_of_mem hmem) hnode hnode' hrest]

end XmlDiagnostics.Tree
