import XmlDiagnostics.Tree

/-! # Shapes of trees

Views of a tree that statements about all of its nodes use: the subtrees, the tree of other values in the
same shape, and the values that are met from the top down along the last children. -/

namespace XmlDiagnostics.Tree

variable {α β : Type}

mutual

/-- The tree of the same shape with every value replaced. -/
def map (f : α → β) : Tree α → Tree β
  | node value children => node (value.map f) (mapIn f children)

/-- The trees of the same shapes with every value replaced. -/
def mapIn (f : α → β) : List (Tree α) → List (Tree β)
  | [] => []
  | tree :: trees => tree.map f :: mapIn f trees

end

mutual

/-- The tree and all trees below it. -/
def subtrees : Tree α → List (Tree α)
  | node value children => node value children :: subtreesIn children

/-- The subtrees of a list of trees, one tree after the other. -/
def subtreesIn : List (Tree α) → List (Tree α)
  | [] => []
  | tree :: trees => tree.subtrees ++ subtreesIn trees

end

mutual

/-- The values from the top down, going to the last child each time. -/
def spine : Tree α → List α
  | node value children => value.toList ++ spineIn children

/-- The values from the last tree down. -/
def spineIn : List (Tree α) → List α
  | [] => []
  | tree :: trees => if trees.isEmpty then tree.spine else spineIn trees

end

/-- Every node of the trees has a value. -/
def Valued (trees : List (Tree α)) : Prop := ∀ tree ∈ subtreesIn trees, tree.value?.isSome

theorem spineIn_concat (trees : List (Tree α)) (tree : Tree α) : spineIn (trees ++ [tree]) = tree.spine := by
  induction trees with
  | nil => rfl
  | cons first trees ih =>
      rw [List.cons_append, spineIn, if_neg (by simp)]
      exact ih

theorem valued_nil : Valued ([] : List (Tree α)) := fun tree h => by cases h

theorem valued_cons {value : Option α} {children trees : List (Tree α)} :
    Valued (node value children :: trees) ↔ value.isSome ∧ Valued children ∧ Valued trees := by
  simp only [Valued, subtreesIn, subtrees, List.mem_append, List.mem_cons]
  constructor
  · intro h
    exact ⟨h _ (.inl (.inl rfl)), fun tree ht => h tree (.inl (.inr ht)), fun tree ht => h tree (.inr ht)⟩
  · rintro ⟨hvalue, hchildren, htrees⟩ tree ((rfl | ht) | ht)
    · exact hvalue
    · exact hchildren tree ht
    · exact htrees tree ht

end XmlDiagnostics.Tree
