import Mathlib.Data.List.Nodup
import XmlDiagnostics.Proofs.Tree.Shape

/-! # Paths through a tree

`Leads` tells where one gets from the top of a tree by going down along values. A search keeps the values above it on a
stack, and leaves each tree with the stack that it came with, so the paths that it finds can be listed tree by tree
(`searchIn_eq`, `paths_eq_pathsFrom`). Where all nodes below the top have values, they are the ways that end at
a value looked for (`mem_pathsIn_iff`).

A key of the values, such as a name, can stand for them on a path if no node has two children with the same
key (`DistinctIn`). Then no two paths have the same keys (`nodup_map_pathsIn`), and the paths whose keys
lead to the children of one node are those to its children, in their order (`filter_pathsIn`). -/

namespace XmlDiagnostics.Tree

variable {α κ : Type}

@[simp] theorem value?_node (value : Option α) (children : List (Tree α)) : (node value children).value? = value := rfl

/-- Going through a list of trees, one takes the first tree apart and goes through its children and through the
other trees. -/
@[elab_as_elim] theorem forest_induction {motive : List (Tree α) → Prop} (nil : motive [])
    (cons : ∀ value children trees, motive children → motive trees → motive (.node value children :: trees)) :
    ∀ trees, motive trees
  | [] => nil
  | .node value children :: trees =>
    cons value children trees (forest_induction nil cons children) (forest_induction nil cons trees)

/-! ### Going down -/

/-- Going down along values leads from the top of a tree to a node: each step goes to a child with the next
value. -/
inductive Leads : Tree α → List α → Tree α → Prop
  | stay {tree} : Leads tree [] tree
  | down {tree child node value path} : child ∈ tree.children → child.value? = some value → Leads child path node →
      Leads tree (value :: path) node

theorem leads_nil {tree node : Tree α} : Leads tree [] node ↔ node = tree := by
  constructor
  · intro h
    cases h
    rfl
  · rintro rfl
    exact .stay

theorem leads_cons {tree node : Tree α} {value : α} {path : List α} :
    Leads tree (value :: path) node ↔ ∃ child ∈ tree.children, child.value? = some value ∧ Leads child path node := by
  constructor
  · intro h
    cases h with
    | down hchild hvalue hpath => exact ⟨_, hchild, hvalue, hpath⟩
  · rintro ⟨child, hchild, hvalue, hpath⟩
    exact .down hchild hvalue hpath

theorem leads_concat {tree node : Tree α} {path : List α} {value : α} :
    Leads tree (path ++ [value]) node ↔
      ∃ parent, Leads tree path parent ∧ node ∈ parent.children ∧ node.value? = some value := by
  induction path generalizing tree with
  | nil =>
      rw [List.nil_append, leads_cons]
      constructor
      · rintro ⟨child, hchild, hvalue, hnode⟩
        obtain rfl := leads_nil.mp hnode
        exact ⟨tree, .stay, hchild, hvalue⟩
      · rintro ⟨parent, hparent, hnode, hvalue⟩
        obtain rfl := leads_nil.mp hparent
        exact ⟨node, hnode, hvalue, .stay⟩
  | cons first path ih =>
      rw [List.cons_append, leads_cons]
      constructor
      · rintro ⟨child, hchild, hvalue, hpath⟩
        obtain ⟨parent, hparent, hnode⟩ := ih.mp hpath
        exact ⟨parent, .down hchild hvalue hparent, hnode⟩
      · rintro ⟨parent, hparent, hnode⟩
        obtain ⟨child, hchild, hvalue, hpath⟩ := leads_cons.mp hparent
        exact ⟨child, hchild, hvalue, ih.mpr ⟨parent, hpath, hnode⟩⟩

/-- Where one gets by at least one step depends on the children alone. -/
theorem leads_concat_of_children {tree node : Tree α} {path : List α} {value : α} :
    Leads (.node none tree.children) (path ++ [value]) node ↔ Leads tree (path ++ [value]) node := by
  cases path with
  | nil =>
      rw [List.nil_append, leads_cons, leads_cons]
      rfl
  | cons first path =>
      rw [List.cons_append, leads_cons, leads_cons]
      rfl

/-- From a list of trees one goes down into the first tree or into one of the others. -/
theorem leads_concat_of_cons {tree node : Tree α} {trees : List (Tree α)} {path : List α} {value : α} :
    Leads (.node none (tree :: trees)) (path ++ [value]) node ↔
      (∃ first rest, path ++ [value] = first :: rest ∧ tree.value? = some first ∧ Leads tree rest node) ∨
        Leads (.node none trees) (path ++ [value]) node := by
  obtain ⟨first, rest, hway⟩ := List.exists_cons_of_ne_nil (by simp : path ++ [value] ≠ [])
  rw [hway, leads_cons, leads_cons]
  constructor
  · rintro ⟨child, hchild, hvalue, hrest⟩
    rcases List.mem_cons.mp hchild with rfl | hchild
    · exact .inl ⟨first, rest, rfl, hvalue, hrest⟩
    · exact .inr ⟨child, hchild, hvalue, hrest⟩
  · rintro (⟨first', rest', hsame, hvalue, hrest⟩ | ⟨child, hchild, hvalue, hrest⟩)
    · obtain ⟨rfl, rfl⟩ := List.cons.inj hsame
      exact ⟨tree, List.mem_cons_self, hvalue, hrest⟩
    · exact ⟨child, List.mem_cons_of_mem _ hchild, hvalue, hrest⟩

/-- From fewer trees one gets to less. -/
theorem leads_concat_of_subset {node : Tree α} {trees trees' : List (Tree α)} (h : trees ⊆ trees') {path : List α}
    {value : α} (hleads : Leads (.node none trees) (path ++ [value]) node) :
    Leads (.node none trees') (path ++ [value]) node := by
  obtain ⟨first, rest, hway⟩ := List.exists_cons_of_ne_nil (by simp : path ++ [value] ≠ [])
  rw [hway, leads_cons] at hleads ⊢
  obtain ⟨child, hchild, hrest⟩ := hleads
  exact ⟨child, h hchild, hrest⟩

theorem mem_subtrees_self (tree : Tree α) : tree ∈ tree.subtrees := by
  cases tree
  exact List.mem_cons_self

theorem mem_subtreesIn {node : Tree α} {trees : List (Tree α)} :
    node ∈ subtreesIn trees ↔ ∃ tree ∈ trees, node ∈ tree.subtrees := by
  induction trees with
  | nil => simp [subtreesIn]
  | cons first trees ih => simp [subtreesIn, ih]

/-- Below each node of trees are nodes of them. -/
theorem mem_subtreesIn_of_mem_children {node child : Tree α} {trees : List (Tree α)} (hnode : node ∈ subtreesIn trees)
    (hchild : child ∈ node.children) : child ∈ subtreesIn trees := by
  induction trees using forest_induction with
  | nil => cases hnode
  | cons value children trees ihChildren ih =>
      rw [subtreesIn, subtrees, List.mem_append, List.mem_cons] at hnode ⊢
      rcases hnode with (rfl | hnode) | hnode
      · exact .inl (.inr (mem_subtreesIn.mpr ⟨child, hchild, mem_subtrees_self child⟩))
      · exact .inl (.inr (ihChildren hnode))
      · exact .inr (ih hnode)

/-- One only gets to subtrees. -/
theorem Leads.mem_subtrees {tree node : Tree α} {path : List α} (h : Leads tree path node) : node ∈ tree.subtrees := by
  induction h with
  | stay => exact mem_subtrees_self _
  | @down tree child node value path hchild _ _ ih =>
      cases tree with
      | node value children => exact List.mem_cons_of_mem _ (mem_subtreesIn.mpr ⟨child, hchild, ih⟩)

theorem values_subset_valuesIn {tree : Tree α} {trees : List (Tree α)} (h : tree ∈ trees) :
    tree.values ⊆ valuesIn trees := by
  induction trees with
  | nil => cases h
  | cons first trees ih =>
      rw [valuesIn]
      rcases List.mem_cons.mp h with rfl | h
      · exact List.subset_append_left _ _
      · exact List.Subset.trans (ih h) (List.subset_append_right _ _)

/-- All values on a way down are values of the tree. -/
theorem Leads.mem_values {tree node : Tree α} {path : List α} (h : Leads tree path node) :
    ∀ value ∈ path, value ∈ tree.values := by
  induction h with
  | stay =>
      intro value hvalue
      cases hvalue
  | @down tree child node value path hchild hvalue _ ih =>
      have hinside : child.values ⊆ tree.values := by
        cases tree with
        | node top children =>
            rw [values]
            exact List.Subset.trans (values_subset_valuesIn hchild) (List.subset_append_right _ _)
      intro value' hvalue'
      rcases List.mem_cons.mp hvalue' with rfl | hvalue'
      · refine hinside ?_
        cases child with
        | node top children =>
            obtain rfl : top = some value' := hvalue
            exact List.mem_append_left _ (List.mem_singleton.mpr rfl)
      · exact hinside (ih value' hvalue')

/-! ### Listing paths -/

mutual

/-- The paths below `ancestors` to the values that satisfy `p`, in pre-order. A path lists the values
from the top down; with `inclusive` the value found ends it. -/
def pathsFrom (inclusive : Bool) (p : α → Bool) (ancestors : List α) : Tree α → List (List α)
  | node none children => pathsIn inclusive p ancestors children
  | node (some value) children =>
    let here := if p value then [if inclusive then ancestors ++ [value] else ancestors] else []
    here ++ pathsIn inclusive p (ancestors ++ [value]) children

/-- The paths into a list of trees, one tree after the other. -/
def pathsIn (inclusive : Bool) (p : α → Bool) (ancestors : List α) : List (Tree α) → List (List α)
  | [] => []
  | tree :: trees => tree.pathsFrom inclusive p ancestors ++ pathsIn inclusive p ancestors trees

end

/-- Searching ends below the same values as it begins, and adds the paths to the values found. -/
theorem searchIn_eq (inclusive : Bool) (p : α → Bool) (search : Search α) (trees : List (Tree α)) :
    searchIn inclusive p search trees =
      ⟨search.ancestors, search.found ++ (pathsIn inclusive p search.ancestors.toList trees).toArray⟩ := by
  induction trees using forest_induction generalizing search with
  | nil => simp [searchIn, pathsIn]
  | cons value children trees ihChildren ih =>
      have hfirst : (node value children).searchFrom inclusive p search = ⟨search.ancestors,
          search.found ++ ((node value children).pathsFrom inclusive p search.ancestors.toList).toArray⟩ := by
        cases value with
        | none => exact ihChildren search
        | some value =>
            -- the children leave the value on top of the stack, where it is taken off
            rw [searchFrom, ihChildren, pathsFrom]
            by_cases hp : p value <;> cases inclusive <;>
              simp [hp, Search.record, Search.enter, Search.leave]
      rw [searchIn, hfirst, ih, pathsIn]
      simp

theorem paths_eq_pathsFrom (inclusive : Bool) (p : α → Bool) (tree : Tree α) :
    tree.paths inclusive p = tree.pathsFrom inclusive p [] := by
  have h := searchIn_eq inclusive p {} [tree]
  rw [searchIn, searchIn, pathsIn, pathsIn, List.append_nil] at h
  rw [paths, h]
  simp

theorem pathsIn_append (inclusive : Bool) (p : α → Bool) (ancestors : List α) (trees trees' : List (Tree α)) :
    pathsIn inclusive p ancestors (trees ++ trees') =
      pathsIn inclusive p ancestors trees ++ pathsIn inclusive p ancestors trees' := by
  induction trees with
  | nil => rfl
  | cons tree trees ih => rw [List.cons_append, pathsIn, pathsIn, ih, List.append_assoc]

theorem pathsIn_cons (p : α → Bool) (ancestors : List α) (tree : Tree α) (trees : List (Tree α)) :
    pathsIn true p ancestors (tree :: trees) = pathsIn true p ancestors [tree] ++ pathsIn true p ancestors trees := by
  rw [← pathsIn_append, List.singleton_append]

theorem pathsIn_cons_some (p : α → Bool) (ancestors : List α) (value : α) (children trees : List (Tree α)) :
    pathsIn true p ancestors (.node (some value) children :: trees) =
      ((if p value then [ancestors ++ [value]] else []) ++ pathsIn true p (ancestors ++ [value]) children) ++
        pathsIn true p ancestors trees := by
  rw [pathsIn, pathsFrom]
  rfl

/-- The listed paths are the ways down to the values looked for, with what stands before them. -/
theorem mem_pathsIn_iff {trees : List (Tree α)} (h : Valued trees) {p : α → Bool} {ancestors path : List α} :
    path ∈ pathsIn true p ancestors trees ↔
      ∃ outer value node, path = ancestors ++ (outer ++ [value]) ∧ p value = true ∧
        Leads (.node none trees) (outer ++ [value]) node := by
  induction trees using forest_induction generalizing ancestors with
  | nil =>
      constructor
      · intro hmem
        cases hmem
      · rintro ⟨outer, value, node, -, -, hleads⟩
        obtain ⟨parent, hparent, hnode, -⟩ := leads_concat.mp hleads
        cases hparent with
        | stay => cases hnode
        | down hchild => cases hchild
  | cons top children trees ihChildren ih =>
      obtain ⟨htop, hchildren, htrees⟩ := valued_cons.mp h
      obtain ⟨first, rfl⟩ := Option.isSome_iff_exists.mp htop
      rw [pathsIn_cons_some, List.mem_append, List.mem_append, ihChildren hchildren, ih htrees, or_assoc]
      constructor
      · rintro (hhere | ⟨outer, value, node, rfl, hp, hleads⟩ | ⟨outer, value, node, rfl, hp, hleads⟩)
        · split at hhere
          · rename_i hp
            obtain rfl := List.mem_singleton.mp hhere
            exact ⟨[], first, _, rfl, hp, .down List.mem_cons_self rfl .stay⟩
          · cases hhere
        · have htree : Leads (.node (some first) children) (outer ++ [value]) node := leads_concat_of_children.mp hleads
          exact ⟨first :: outer, value, node, by simp, hp, .down List.mem_cons_self rfl htree⟩
        · exact ⟨outer, value, node, rfl, hp, leads_concat_of_cons.mpr (.inr hleads)⟩
      · rintro ⟨outer, value, node, rfl, hp, hleads⟩
        rcases leads_concat_of_cons.mp hleads with ⟨first', rest, hway, hfirst, hrest⟩ | hrest
        · obtain rfl := Option.some.inj hfirst
          cases outer with
          | nil =>
              obtain ⟨rfl, -⟩ := List.cons.inj hway
              exact .inl (by simp [hp])
          | cons step outer =>
              obtain ⟨rfl, rfl⟩ := List.cons.inj hway
              exact .inr (.inl ⟨outer, value, node, by simp, hp, leads_concat_of_children.mpr hrest⟩)
        · exact .inr (.inr ⟨outer, value, node, rfl, hp, hrest⟩)

/-- Without the values found, the listed paths are the same but for their ends. -/
theorem pathsIn_false (p : α → Bool) (ancestors : List α) (trees : List (Tree α)) :
    pathsIn false p ancestors trees = (pathsIn true p ancestors trees).map List.dropLast := by
  induction trees using forest_induction generalizing ancestors with
  | nil => rfl
  | cons top children trees ihChildren ih =>
      cases top with
      | none => rw [pathsIn, pathsIn, pathsFrom, pathsFrom, ihChildren, ih, List.map_append]
      | some value =>
          rw [pathsIn, pathsIn, pathsFrom, pathsFrom, ihChildren, ih, List.map_append, List.map_append]
          by_cases hp : p value <;> simp [hp]

/-! ### Keys -/

/-- No two of the trees, and no two children of a node in them, have the same key at the top. -/
def DistinctIn (key : α → κ) (trees : List (Tree α)) : Prop :=
  (trees.map fun tree => tree.value?.map key).Nodup ∧
    ∀ node ∈ subtreesIn trees, (node.children.map fun child => child.value?.map key).Nodup

theorem distinctIn_cons {key : α → κ} {value : Option α} {children trees : List (Tree α)} :
    DistinctIn key (.node value children :: trees) ↔
      (∀ tree ∈ trees, tree.value?.map key ≠ value.map key) ∧ DistinctIn key children ∧ DistinctIn key trees := by
  simp only [DistinctIn, subtreesIn, subtrees, List.map_cons, List.nodup_cons, List.mem_append, List.mem_cons,
    List.mem_map]
  constructor
  · rintro ⟨⟨htop, htrees⟩, hnodes⟩
    refine ⟨fun tree hmem heq => htop ⟨tree, hmem, heq⟩, ⟨?_, fun node hnode => hnodes node (.inl (.inr hnode))⟩, htrees,
      fun node hnode => hnodes node (.inr hnode)⟩
    exact hnodes (.node value children) (.inl (.inl rfl))
  · rintro ⟨htop, ⟨hchildren, hinner⟩, htrees, hothers⟩
    refine ⟨⟨?_, htrees⟩, ?_⟩
    · rintro ⟨tree, hmem, heq⟩
      exact htop tree hmem heq
    · rintro node ((rfl | hnode) | hnode)
      · exact hchildren
      · exact hinner node hnode
      · exact hothers node hnode

theorem children_mem_subtreesIn {tree child : Tree α} {trees : List (Tree α)} (htree : tree ∈ trees)
    (hchild : child ∈ subtreesIn tree.children) : child ∈ subtreesIn trees := by
  refine mem_subtreesIn.mpr ⟨tree, htree, ?_⟩
  cases tree
  exact List.mem_cons_of_mem _ hchild

theorem Valued.children_of_mem {trees : List (Tree α)} (h : Valued trees) {tree : Tree α} (htree : tree ∈ trees) :
    Valued tree.children :=
  fun child hchild => h child (children_mem_subtreesIn htree hchild)

theorem DistinctIn.children_of_mem {key : α → κ} {trees : List (Tree α)} (h : DistinctIn key trees) {tree : Tree α}
    (htree : tree ∈ trees) : DistinctIn key tree.children :=
  ⟨h.2 tree (mem_subtreesIn.mpr ⟨tree, htree, mem_subtrees_self tree⟩),
    fun child hchild => h.2 child (children_mem_subtreesIn htree hchild)⟩

theorem Leads.distinctIn_children {key : α → κ} {tree node : Tree α} {path : List α} (h : Leads tree path node)
    (hdistinct : DistinctIn key tree.children) : DistinctIn key node.children := by
  induction h with
  | stay => exact hdistinct
  | down hchild _ _ ih => exact ih (hdistinct.children_of_mem hchild)

/-- Values at the top of trees that all have one are found without a gap. -/
theorem map_some_filterMap_value? {trees : List (Tree α)} (h : ∀ tree ∈ trees, tree.value?.isSome) :
    (trees.filterMap value?).map some = trees.map value? := by
  induction trees with
  | nil => rfl
  | cons tree trees ih =>
      obtain ⟨value, hvalue⟩ := Option.isSome_iff_exists.mp (h tree List.mem_cons_self)
      rw [List.filterMap_cons_some hvalue, List.map_cons, List.map_cons, hvalue,
        ih fun tree' htree' => h tree' (List.mem_cons_of_mem _ htree')]

/-- A listed path goes on from what stands before it with the value of one of the trees. -/
theorem exists_of_mem_pathsIn {trees : List (Tree α)} (h : Valued trees) {p : α → Bool} {ancestors path : List α}
    (hmem : path ∈ pathsIn true p ancestors trees) :
    ∃ tree ∈ trees, ∃ value rest, tree.value? = some value ∧ path = ancestors ++ value :: rest := by
  obtain ⟨outer, value, node, rfl, -, hleads⟩ := (mem_pathsIn_iff h).mp hmem
  obtain ⟨first, rest, hway⟩ := List.exists_cons_of_ne_nil (by simp : outer ++ [value] ≠ [])
  rw [hway] at hleads ⊢
  obtain ⟨tree, htree, hvalue, -⟩ := leads_cons.mp hleads
  exact ⟨tree, htree, first, rest, hvalue, rfl⟩

variable [DecidableEq κ] {key : α → κ}

/-- No path goes through a key that no tree has at its top. -/
theorem filter_pathsIn_eq_nil {trees : List (Tree α)} (hvalued : Valued trees) {k : κ}
    (hne : ∀ tree ∈ trees, tree.value?.map key ≠ some k) (p : α → Bool) (ancestors : List α) (keys : List κ) :
    (pathsIn true p ancestors trees).filter (fun path => (path.map key).dropLast = ancestors.map key ++ k :: keys) =
      [] := by
  rw [List.filter_eq_nil_iff]
  intro path hmem hkeys
  obtain ⟨tree, htree, value, rest, hvalue, rfl⟩ := exists_of_mem_pathsIn hvalued hmem
  rw [decide_eq_true_eq, List.map_append, List.dropLast_append_of_ne_nil (by simp), List.append_cancel_left_eq] at hkeys
  cases rest with
  | nil => cases hkeys
  | cons next rest =>
      obtain ⟨hkey, -⟩ := List.cons.inj hkeys
      exact hne tree htree (by rw [hvalue]; exact congrArg some hkey)

/-- The paths through the key at the top of a tree are those into its children. -/
theorem filter_pathsIn_of_mem {trees : List (Tree α)} (hvalued : Valued trees) (hdistinct : DistinctIn key trees)
    {child : Tree α} (hchild : child ∈ trees) {value : α} (hvalue : child.value? = some value) (p : α → Bool)
    (ancestors : List α) (keys : List κ) :
    (pathsIn true p ancestors trees).filter
        (fun path => (path.map key).dropLast = ancestors.map key ++ key value :: keys) =
      (pathsIn true p (ancestors ++ [value]) child.children).filter
        (fun path => (path.map key).dropLast = ancestors.map key ++ key value :: keys) := by
  induction trees using forest_induction with
  | nil => cases hchild
  | cons top children trees _ ih =>
      obtain ⟨htop, hchildren, htrees⟩ := valued_cons.mp hvalued
      obtain ⟨first, rfl⟩ := Option.isSome_iff_exists.mp htop
      obtain ⟨hfirst, hinner, hothers⟩ := distinctIn_cons.mp hdistinct
      rcases List.mem_cons.mp hchild with rfl | hmem
      · obtain rfl := Option.some.inj hvalue
        have hrest := filter_pathsIn_eq_nil htrees (k := key first) hfirst p ancestors keys
        have hhere : (if p first then [ancestors ++ [first]] else []).filter
            (fun path => (path.map key).dropLast = ancestors.map key ++ key first :: keys) = [] := by
          split <;> simp
        rw [pathsIn_cons_some, List.filter_append, List.filter_append, hrest, hhere, List.append_nil, List.nil_append]
        rfl
      · have hne : key first ≠ key value := by
          intro heq
          exact hfirst child hmem (by rw [hvalue, Option.map_some, Option.map_some, heq])
        have hhead : (pathsIn true p ancestors [.node (some first) children]).filter
            (fun path => (path.map key).dropLast = ancestors.map key ++ key value :: keys) = [] := by
          refine filter_pathsIn_eq_nil (valued_cons.mpr ⟨htop, hchildren, valued_nil⟩) ?_ p ancestors keys
          intro tree htree
          obtain rfl := List.mem_singleton.mp htree
          simpa using hne
        rw [pathsIn_cons, List.filter_append, hhead, List.nil_append]
        exact ih htrees hothers hmem

/-- The paths with nothing in between are those to the values at the top. -/
theorem filter_pathsIn_top {trees : List (Tree α)} (hvalued : Valued trees) (p : α → Bool) (ancestors : List α) :
    (pathsIn true p ancestors trees).filter (fun path => (path.map key).dropLast = ancestors.map key) =
      ((trees.filterMap value?).filter p).map fun value => ancestors ++ [value] := by
  induction trees using forest_induction with
  | nil => rfl
  | cons top children trees _ ih =>
      obtain ⟨htop, hchildren, htrees⟩ := valued_cons.mp hvalued
      obtain ⟨first, rfl⟩ := Option.isSome_iff_exists.mp htop
      have hinner : (pathsIn true p (ancestors ++ [first]) children).filter
          (fun path => (path.map key).dropLast = ancestors.map key) = [] := by
        rw [List.filter_eq_nil_iff]
        intro path hmem hkeys
        obtain ⟨child, -, value, rest, -, rfl⟩ := exists_of_mem_pathsIn hchildren hmem
        have hlength := congrArg List.length (of_decide_eq_true hkeys)
        simp at hlength
      rw [pathsIn_cons_some, List.filter_append, List.filter_append, hinner, ih htrees, List.append_nil,
        List.filterMap_cons_some (value?_node (some first) children)]
      by_cases hp : p first <;> simp [hp]

/-- **The paths to the children of a node**, in order. -/
theorem filter_pathsIn {tree parent : Tree α} {outer : List α} (h : Leads tree outer parent)
    (hvalued : Valued tree.children) (hdistinct : DistinctIn key tree.children) (p : α → Bool) (ancestors : List α) :
    (pathsIn true p ancestors tree.children).filter
        (fun path => (path.map key).dropLast = ancestors.map key ++ outer.map key) =
      ((parent.children.filterMap value?).filter p).map fun value => ancestors ++ (outer ++ [value]) := by
  induction h generalizing ancestors with
  | stay =>
      rw [List.map_nil, List.append_nil]
      exact filter_pathsIn_top hvalued p ancestors
  | @down tree child parent value outer hchild hvalue _ ih =>
      have hinner := ih (hvalued.children_of_mem hchild) (hdistinct.children_of_mem hchild) (ancestors ++ [value])
      rw [List.map_cons, filter_pathsIn_of_mem hvalued hdistinct hchild hvalue]
      simpa using hinner

/-- Of values with different keys, all but one have another key than that one. -/
theorem filter_key_ne {before after : List (Tree α)} {node : Tree α} {value : α}
    (hnodup : ((before ++ node :: after).map fun child => child.value?.map key).Nodup) (hvalue : node.value? = some value) :
    ((before ++ node :: after).filterMap value?).filter (fun other => key other ≠ key value) =
      (before ++ after).filterMap value? := by
  rw [List.map_append, List.map_cons, List.nodup_middle, List.nodup_cons, ← List.map_append] at hnodup
  have hothers : ∀ other ∈ (before ++ after).filterMap value?, key other ≠ key value := by
    intro other hother hkey
    obtain ⟨tree, htree, hvalue'⟩ := List.mem_filterMap.mp hother
    refine hnodup.1 (List.mem_map.mpr ⟨tree, htree, ?_⟩)
    rw [hvalue, hvalue', Option.map_some, Option.map_some, hkey]
  have hkept := List.filter_eq_self.mpr fun other hother => decide_eq_true (hothers other hother)
  rw [List.filterMap_append, List.filter_append] at hkept
  rw [List.filterMap_append, List.filter_append, List.filterMap_cons_some hvalue, List.filter_cons_of_neg (by simp), hkept,
    List.filterMap_append]

/-- **The paths to the siblings of a node**: those that have the keys of its path but for the last one are the paths to
the other children of the node above, in order. -/
theorem siblings_pathsIn {tree parent node : Tree α} {outer : List α} {value : α} {before after : List (Tree α)}
    (hparent : Leads tree outer parent) (hchildren : parent.children = before ++ node :: after)
    (hvalue : node.value? = some value) (hvalued : Valued tree.children) (hdistinct : DistinctIn key tree.children)
    (p : α → Bool) :
    (pathsIn true p [] tree.children).filter
        (fun path => path.map key ≠ outer.map key ++ [key value] && !path.isEmpty &&
          (path.map key).dropLast = outer.map key) =
      (((before ++ after).filterMap value?).filter p).map fun other => outer ++ [other] := by
  have hsame := filter_pathsIn hparent hvalued hdistinct p []
  have hnodup := (hparent.distinctIn_children hdistinct).1
  rw [hchildren] at hnodup
  have hpredicate : (pathsIn true p [] tree.children).filter
        (fun path => path.map key ≠ outer.map key ++ [key value] && !path.isEmpty &&
          (path.map key).dropLast = outer.map key) =
      ((pathsIn true p [] tree.children).filter (fun path => (path.map key).dropLast = outer.map key)).filter
        (fun path => path.map key ≠ outer.map key ++ [key value]) := by
    rw [List.filter_filter]
    refine List.filter_congr fun path hpath => ?_
    obtain ⟨_, _, _, _, _, rfl⟩ := exists_of_mem_pathsIn hvalued hpath
    rw [List.nil_append, List.isEmpty_cons, Bool.not_false, Bool.and_true]
  rw [List.map_nil, List.nil_append] at hsame
  rw [hpredicate, hsame, hchildren, List.filter_map, ← filter_key_ne hnodup hvalue, List.filter_filter,
    List.filter_filter]
  simp only [List.nil_append]
  congr 1
  refine List.filter_congr fun other _ => ?_
  simp [Bool.and_comm]

end XmlDiagnostics.Tree
