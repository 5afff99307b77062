/-! # Ordered trees

A tree has a node that may carry a value, and its children in order. The value-less node is the root
of what a walk builds, and it adds nothing to paths or folds wherever it stands. `values` lists the
values in pre-order; paths and folds are about that list. -/

namespace XmlDiagnostics

/-- An ordered tree whose nodes may carry values. -/
inductive Tree (α : Type) where
  | node (value? : Option α) (children : List (Tree α))
deriving Repr, BEq, Inhabited

/-- What one step of a fold decides: to go on with an accumulator or to end with it. -/
inductive FoldStep (β : Type) where
  | next (acc : β)
  | stop (acc : β)
deriving Repr, DecidableEq

/-- The accumulator, whatever the decision. -/
def FoldStep.acc {β : Type} : FoldStep β → β
  | next acc => acc
  | stop acc => acc

namespace Tree

variable {α β : Type}

/-- The node without value and children. -/
def root : Tree α := node none []

/-- A value without children. -/
def leaf (value : α) : Tree α := node (some value) []

/-- The value of the top node. -/
def value? : Tree α → Option α
  | node value _ => value

/-- The subtrees below the top node. -/
def children : Tree α → List (Tree α)
  | node _ children => children

/-- Whether the top node carries no value. -/
def isRoot (tree : Tree α) : Bool := tree.value?.isNone

/-- Whether there is neither a value nor a child. -/
def isEmpty (tree : Tree α) : Bool := tree.isRoot && tree.children.isEmpty

/-- The tree with one more child, after the others. -/
def addChild (tree : Tree α) (child : Tree α) : Tree α := node tree.value? (tree.children ++ [child])

mutual

/-- The values in pre-order. -/
def values : Tree α → List α
  | node value children => value.toList ++ valuesIn children

/-- The values of a list of trees, one tree after the other. -/
def valuesIn : List (Tree α) → List α
  | [] => []
  | tree :: trees => tree.values ++ valuesIn trees

end

/-- Where a search for paths is: below these values, from the top down, and with these paths found so far. -/
structure Search (α : Type) where
  ancestors : Array α := #[]
  found : Array (List α) := #[]

namespace Search

/-- Add the path to a value; with `inclusive` the value ends it. -/
def record (inclusive : Bool) (value : α) (search : Search α) : Search α :=
  { search with
    found := search.found.push (if inclusive then search.ancestors.push value else search.ancestors).toList }

/-- Go on to what is below a value. -/
def enter (value : α) (search : Search α) : Search α := { search with ancestors := search.ancestors.push value }

/-- Go back up to where the last value was entered. -/
def leave (search : Search α) : Search α := { search with ancestors := search.ancestors.pop }

end Search

mutual

/-- Search a tree for the values that satisfy `p`, in pre-order. -/
def searchFrom (inclusive : Bool) (p : α → Bool) (search : Search α) : Tree α → Search α
  | node none children => searchIn inclusive p search children
  | node (some value) children =>
    let here := if p value then search.record inclusive value else search
    (searchIn inclusive p (here.enter value) children).leave

/-- Search a list of trees, one tree after the other. -/
def searchIn (inclusive : Bool) (p : α → Bool) (search : Search α) : List (Tree α) → Search α
  | [] => search
  | tree :: trees => searchIn inclusive p (tree.searchFrom inclusive p search) trees

end

/-- All paths from the top to a value that satisfies `p`, in pre-order of the values found. A path lists the
values from the top down; with `inclusive` the value found ends it. -/
def paths (inclusive : Bool) (p : α → Bool) (tree : Tree α) : List (List α) :=
  (tree.searchFrom inclusive p {}).found.toList

mutual

/-- Fold the values in pre-order until a step stops. -/
def foldNodes (f : β → α → FoldStep β) (acc : β) : Tree α → FoldStep β
  | node none children => foldNodesIn f acc children
  | node (some value) children =>
    match f acc value with
    | .stop acc => .stop acc
    | .next acc => foldNodesIn f acc children

/-- Fold the values of a list of trees until a step stops. -/
def foldNodesIn (f : β → α → FoldStep β) (acc : β) : List (Tree α) → FoldStep β
  | [] => .next acc
  | tree :: trees =>
    match tree.foldNodes f acc with
    | .stop acc => .stop acc
    | .next acc => foldNodesIn f acc trees

end

/-- The accumulator of a pre-order fold that ends at the first step that stops. -/
def reduce (f : β → α → FoldStep β) (acc : β) (tree : Tree α) : β := (tree.foldNodes f acc).acc

/-- The number of values. -/
def size (tree : Tree α) : Nat := tree.reduce (fun count _ => .next (count + 1)) 0

/-- The first value in pre-order that satisfies `p`. -/
def find? (p : α → Bool) (tree : Tree α) : Option α :=
  tree.reduce (fun _ value => if p value then .stop (some value) else .next none) none

end Tree

end XmlDiagnostics
