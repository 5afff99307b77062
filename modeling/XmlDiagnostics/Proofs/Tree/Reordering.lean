import Mathlib.Data.List.Forall2
import XmlDiagnostics.Proofs.Tree.Folding

/-! # Children in another order

Two trees are `Reordered` if they differ in the order of children alone, at any number of nodes and at any depth. What a
search lists then changes in its order only, and the number of values stays (`perm_paths_of_reordered`).

The induction is on a list of trees, below any values. It keeps the two ways apart in which the list changes: each of its
trees turns into another one, and these are put in another order. A search for everything lists as many paths as there
are values (`length_pathsIn`), so that the numbers of values are those of the paths. -/

namespace XmlDiagnostics.Tree

variable {α : Type}

/-- The children of each node may come in another order: each child turns into another tree in the same manner, and then
these trees are put in any order. -/
inductive Reordered : Tree α → Tree α → Prop
  | node (value : Option α) {children turned children' : List (Tree α)} :
      List.Forall₂ Reordered children turned → turned.Perm children' →
        Reordered (.node value children) (.node value children')

/-- Trees stay as they are if no children change places. -/
theorem forall₂_reordered_self (trees : List (Tree α)) : List.Forall₂ Reordered trees trees := by
  induction trees using forest_induction with
  | nil => exact .nil
  | cons value children trees ihChildren ih => exact .cons (.node value ihChildren (.refl _)) ih

/-- The path to a node itself, if its value is looked for. -/
def ownPath (inclusive : Bool) (p : α → Bool) (ancestors : List α) (value : Option α) : List (List α) :=
  (value.filter p).toList.map fun value => if inclusive then ancestors ++ [value] else ancestors

theorem length_ownPath (inclusive : Bool) (p : α → Bool) (ancestors : List α) (value : Option α) :
    (ownPath inclusive p ancestors value).length = value.toList.countP p := by
  cases value with
  | none => rfl
  | some value => by_cases hp : p value <;> simp [ownPath, Option.filter, hp]

/-- What is listed from a node on: the path to itself and then, below its value, the paths into its children. -/
theorem pathsFrom_node (inclusive : Bool) (p : α → Bool) (ancestors : List α) (value : Option α)
    (children : List (Tree α)) :
    (node value children).pathsFrom inclusive p ancestors =
      ownPath inclusive p ancestors value ++ pathsIn inclusive p (ancestors ++ value.toList) children := by
  cases value with
  | none => simp [pathsFrom, ownPath]
  | some value => by_cases hp : p value <;> simp [pathsFrom, ownPath, Option.filter, hp]

theorem pathsIn_eq_flatMap (inclusive : Bool) (p : α → Bool) (ancestors : List α) (trees : List (Tree α)) :
    pathsIn inclusive p ancestors trees = trees.flatMap (pathsFrom inclusive p ancestors) := by
  induction trees with
  | nil => rfl
  | cons tree trees ih => rw [pathsIn, ih, List.flatMap_cons]

/-! ### Paths in another order -/

/-- Where whole trees change places, so do the paths into them. -/
theorem perm_pathsIn {trees trees' : List (Tree α)} (h : trees.Perm trees') (inclusive : Bool) (p : α → Bool)
    (ancestors : List α) : (pathsIn inclusive p ancestors trees).Perm (pathsIn inclusive p ancestors trees') := by
  rw [pathsIn_eq_flatMap, pathsIn_eq_flatMap]
  exact h.flatMap_right _

/-- Where each tree is reordered, the paths into it are listed in another order. -/
theorem perm_pathsIn_of_reordered {trees turned : List (Tree α)} (h : List.Forall₂ Reordered trees turned)
    (inclusive : Bool) (p : α → Bool) (ancestors : List α) :
    (pathsIn inclusive p ancestors trees).Perm (pathsIn inclusive p ancestors turned) := by
  induction trees using forest_induction generalizing turned ancestors with
  | nil =>
      cases h
      exact .refl _
  | cons value children trees ihChildren ih =>
      obtain _ | ⟨hfirst, hothers⟩ := h
      obtain @⟨_, _, inner, children', hinner, hperm⟩ := hfirst
      -- the children turn into others one by one, which then change places
      have hbelow := (ihChildren hinner (ancestors ++ value.toList)).trans (perm_pathsIn hperm inclusive p _)
      rw [pathsIn, pathsIn, pathsFrom_node, pathsFrom_node]
      exact (hbelow.append_left _).append (ih hothers ancestors)

/-! ### The number of values -/

/-- One path is listed for each value looked for. -/
theorem length_pathsIn (inclusive : Bool) (p : α → Bool) (ancestors : List α) (trees : List (Tree α)) :
    (pathsIn inclusive p ancestors trees).length = (valuesIn trees).countP p := by
  induction trees using forest_induction generalizing ancestors with
  | nil => rfl
  | cons value children trees ihChildren ih =>
      rw [pathsIn, pathsFrom_node, List.length_append, List.length_append, length_ownPath, ihChildren, ih, valuesIn, values,
        List.countP_append, List.countP_append]

theorem size_eq_length_paths (tree : Tree α) : tree.size = (tree.paths true fun _ => true).length := by
  have hpaths := length_pathsIn true (fun _ => true) [] [tree]
  rw [pathsIn, pathsIn, List.append_nil, valuesIn, valuesIn, List.append_nil, List.countP_true] at hpaths
  rw [paths_eq_pathsFrom, hpaths, size, reduce_eq, foldUntil_count, FoldStep.acc, Nat.zero_add]

/-- **The order of children** only matters for the order of what is found: a search of the reordered tree lists the same
paths, each as often, with the values found and without them, and there are as many values. -/
theorem perm_paths_of_reordered {tree tree' : Tree α} (h : Reordered tree tree') :
    (∀ (inclusive : Bool) (p : α → Bool), (tree.paths inclusive p).Perm (tree'.paths inclusive p)) ∧
      tree.size = tree'.size := by
  have hpaths : ∀ (inclusive : Bool) (p : α → Bool), (tree.paths inclusive p).Perm (tree'.paths inclusive p) := by
    intro inclusive p
    have hperm := perm_pathsIn_of_reordered (.cons h .nil) inclusive p []
    rwa [pathsIn, pathsIn, pathsIn, pathsIn, List.append_nil, List.append_nil, ← paths_eq_pathsFrom,
      ← paths_eq_pathsFrom] at hperm
  refine ⟨hpaths, ?_⟩
  rw [size_eq_length_paths, size_eq_length_paths]
  exact (hpaths true _).length_eq

/-- The children change places at the top and below one of them, and the value `1` stands at two places. -/
theorem perm_paths_of_reordered_twice :
    let tree := node none [node (some 1) [leaf 2, node (some 3) [leaf 1]], leaf 4]
    let tree' := node none [leaf 4, node (some 1) [node (some 3) [leaf 1], leaf 2]]
    Reordered tree tree' ∧ (tree.paths true (· = 1)).Perm (tree'.paths true (· = 1)) ∧ tree.size = tree'.size := by
  intro tree tree'
  have hbelow : Reordered (node (some 1) [leaf 2, node (some 3) [leaf 1]])
      (node (some 1) [node (some 3) [leaf 1], leaf 2]) :=
    .node (some 1) (forall₂_reordered_self _) (.swap _ _ _)
  have h : Reordered tree tree' := .node none (.cons hbelow (forall₂_reordered_self _)) (.swap _ _ _)
  obtain ⟨hpaths, hsize⟩ := perm_paths_of_reordered h
  exact ⟨h, hpaths true _, hsize⟩

end XmlDiagnostics.Tree
