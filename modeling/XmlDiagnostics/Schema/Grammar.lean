import XmlDiagnostics.Schema.Node

/-! # Grammars

The schemas of a document together make a grammar: a tree that tells which elements may stand inside
which and which attributes they accept. The root has the global elements below it. The children of an
element are all elements that its content model reaches through types, groups and the types they are
derived from; an element that stands inside itself is not followed further there. -/

namespace XmlDiagnostics

namespace Schema

/-- The kinds of components that can be referred to by name. -/
inductive GlobalKind where
  | element
  | type
  | group
  | attributeGroup
deriving DecidableEq, Repr

/-- The kind of the components of a sort. -/
def GlobalKind.kind : GlobalKind → Kind
  | element => .element
  | type => .complexType
  | group => .group
  | attributeGroup => .attributeGroup

/-- A component with the number of the schema that it stands in. -/
structure Definition where
  schema : Nat
  node : Node

/-- What tells a global component from all others. -/
structure Key where
  sort : GlobalKind
  schema : Nat
  name : String
deriving DecidableEq, Repr

/-- The namespace of the schema language. -/
def languageNamespace : String := "http://www.w3.org/2001/XMLSchema"

/-- The namespace that a name stands for in the references of a schema. -/
def namespaceOf (schema : Schema) (name : List Char) : String := (schema.scope.lookup name).getD ""

/-- The global components of a sort in a schema, with their names. -/
def globals (sort : GlobalKind) (number : Nat) (schema : Schema) : List (QName × Definition) :=
  (schema.root.childrenOf sort.kind).filterMap fun n =>
    (n.attribute? "name").map fun name => (⟨schema.targetNamespace, name⟩, ⟨number, n⟩)

/-- The first entry for every name. -/
def firstPerName (seen : List QName) : List (QName × Definition) → List (QName × Definition)
  | [] => []
  | entry :: rest =>
    if entry.1 ∈ seen then firstPerName seen rest else entry :: firstPerName (entry.1 :: seen) rest

end Schema

open Schema

/-- Schemas that are used together. -/
structure Grammar where
  schemas : List Schema

namespace Grammar

/-- The global components of a sort in the order of their names; of several with one name, the first. -/
def definitions (g : Grammar) (sort : GlobalKind) : List (QName × Definition) :=
  (firstPerName [] (g.schemas.zipIdx.flatMap fun (schema, number) => globals sort number schema)).mergeSort
    fun a b => !decide (b.1 < a.1)

/-- The component that a reference in a schema means. A name with a known namespace means the component
in that namespace; if there is none, a component with that local name, of the same schema if possible.
References to the schema language itself mean none. -/
def lookup (g : Grammar) (sort : GlobalKind) (number : Nat) (reference : String) : Option Definition := do
  let schema ← g.schemas[number]?
  let (space, localName) := Document.splitName reference.toList
  let uri := schema.namespaceOf space
  if !space.isEmpty && uri = languageNamespace then none
  else
    let definitions := g.definitions sort
    let name := String.ofList localName
    match definitions.lookup ⟨uri, name⟩ with
    | some definition => some definition
    | none =>
      let candidates := (definitions.filter fun entry => entry.1.localName = name).map Prod.snd
      (candidates.find? fun d => d.schema = number).or candidates.head?

theorem length_erase_lt {α : Type} [DecidableEq α] {l : List α} {a : α} (h : a ∈ l) :
    (l.erase a).length < l.length := by
  rw [List.length_erase_of_mem h]
  have := List.length_pos_of_mem h
  omega

/-! ### Content models -/

/-- What an element accepts: attributes, and the declarations of elements inside it in order. -/
structure Content where
  attributes : StringSet := ∅
  particles : List Definition := []

/-- One step of gathering a content model: a component to look into, or a reference to follow. -/
inductive Task where
  | visit (d : Definition)
  | follow (sort : GlobalKind) (number : Nat) (reference : String)

/-- The steps for the components inside a component. -/
def tasksInside (d : Definition) : List Task := d.node.children.map fun n => .visit ⟨d.schema, n⟩

/-- A weight that every step without reference lessens. -/
def Task.weight : Task → Nat
  | visit d => d.node.weight
  | follow .. => 1

/-- The weights of several steps together. -/
def weights : List Task → Nat
  | [] => 0
  | task :: rest => task.weight + weights rest

theorem Task.weight_pos (task : Task) : 0 < task.weight := by
  cases task with
  | visit d => simp only [Task.weight, Node.weight_eq]; omega
  | follow => exact Nat.one_pos

theorem weights_lt_cons (task : Task) (tasks : List Task) : weights tasks < weights (task :: tasks) := by
  have := task.weight_pos
  simp only [weights]
  omega

theorem weights_append (a b : List Task) : weights (a ++ b) = weights a + weights b := by
  induction a with
  | nil => simp [weights]
  | cons task rest ih => simp [weights, ih, Nat.add_assoc]

theorem weights_tasksInside (d : Definition) : weights (tasksInside d) = Node.weights d.node.children := by
  unfold tasksInside
  generalize d.node.children = l
  induction l with
  | nil => simp [weights, Node.weights]
  | cons n rest ih => simp_all [weights, Node.weights, Task.weight]

/-- What tells a definition of a sort from all others. -/
def keyOf (sort : GlobalKind) (d : Definition) : Key :=
  ⟨sort, d.schema, (d.node.attribute? "name").getD ""⟩

/-- All global components of a grammar that a content model can refer to. -/
def keys (g : Grammar) : List Key :=
  ([.type, .group, .attributeGroup] : List GlobalKind).flatMap fun sort =>
    (g.definitions sort).map fun entry => keyOf sort entry.2

/-- The name that an attribute component gives to the accepted attribute, unless it is prohibited. -/
def attributeName? (n : Node) : Option String :=
  if n.attribute? "use" = some "prohibited" then none
  else
    (n.attribute? "name").or
      ((n.attribute? "ref").map fun reference => String.ofList (localPart reference.toList))

/-- The steps that a component other than an element or an attribute leads to: into its parts, and
along the reference that it makes. -/
def tasksOf (d : Definition) : List Task :=
  match d.node.kind with
  | .container | .complexType => tasksInside d
  | .group =>
    match d.node.attribute? "ref" with
    | some reference => [.follow .group d.schema reference]
    | none => tasksInside d
  | .attributeGroup =>
    match d.node.attribute? "ref" with
    | some reference => [.follow .attributeGroup d.schema reference]
    | none => tasksInside d
  | .derivation =>
    match d.node.attribute? "base" with
    | some base => .follow .type d.schema base :: tasksInside d
    | none => tasksInside d
  | _ => []

theorem weights_tasksOf_lt (d : Definition) : weights (tasksOf d) < d.node.weight := by
  have hinside : weights (tasksInside d) < d.node.weight := by
    rw [weights_tasksInside, Node.weight_eq]; omega
  have hfollow : ∀ sort reference, weights [Task.follow sort d.schema reference] < d.node.weight := by
    intro sort reference
    rw [Node.weight_eq]
    simp only [weights, Task.weight]
    omega
  unfold tasksOf
  split
  · exact hinside
  · exact hinside
  · split
    · exact hfollow _ _
    · exact hinside
  · split
    · exact hfollow _ _
    · exact hinside
  · split
    · have := weights_tasksInside d
      rw [Node.weight_eq]
      simp only [weights, Task.weight] at this ⊢
      omega
    · exact hinside
  · rw [Node.weight_eq]
    simp only [weights]
    omega

/-- Take the steps of a list one after the other. A global component is looked into the first time it is
referred to; `fresh` are those that have not been. -/
def gather (g : Grammar) (fresh : List Key) : List Task → Content
  | [] => {}
  | .follow sort number reference :: rest =>
    match g.lookup sort number reference with
    | none => g.gather fresh rest
    | some d =>
      if _h : keyOf sort d ∈ fresh then g.gather (fresh.erase (keyOf sort d)) (tasksInside d ++ rest)
      else g.gather fresh rest
  | .visit d :: rest =>
    if d.node.kind = .element then
      let content := g.gather fresh rest
      { content with particles := d :: content.particles }
    else if d.node.kind = .attributeUse then
      let content := g.gather fresh rest
      match attributeName? d.node with
      | some name => { content with attributes := content.attributes.insert name }
      | none => content
    else g.gather fresh (tasksOf d ++ rest)
termination_by tasks => (fresh.length, weights tasks)
decreasing_by
  · right; exact weights_lt_cons _ _
  · left; exact length_erase_lt _h
  · right; exact weights_lt_cons _ _
  · right; exact weights_lt_cons _ _
  · right; exact weights_lt_cons _ _
  · right
    have := weights_tasksOf_lt d
    rw [weights_append]
    simp only [weights, Task.weight] at this ⊢
    omega

/-- The content model of an element declaration: that of its named type, then that of the type that it
contains. -/
def content (g : Grammar) (d : Definition) : Content :=
  let named := (d.node.attribute? "type").toList.map fun name => Task.follow .type d.schema name
  let inner := (d.node.childrenOf .complexType).flatMap fun n => tasksInside ⟨d.schema, n⟩
  g.gather g.keys (named ++ inner)

/-! ### Elements -/

/-- A declaration of an element, and whether it is a global one. -/
structure Declaration where
  definition : Definition
  global : Bool

/-- The declaration that a declaration refers to, after at most `n` references. -/
def target? (g : Grammar) : Nat → Declaration → Option Declaration
  | n, d =>
    match d.definition.node.attribute? "ref" with
    | none => some d
    | some reference =>
      match n, g.lookup .element d.definition.schema reference with
      | n + 1, some definition => g.target? n ⟨definition, true⟩
      | _, _ => none

/-- The name of the element that a declaration declares. Global elements, and local ones that are
qualified, belong to the target namespace of their schema. -/
def nameOf? (g : Grammar) (d : Declaration) : Option QName := do
  let name ← d.definition.node.attribute? "name"
  let schema ← g.schemas[d.definition.schema]?
  let qualified :=
    d.global || (d.definition.node.attribute? "form").elim schema.qualified (· = "qualified")
  return ⟨if qualified then schema.targetNamespace else "", name⟩

/-- All names that elements of the grammar can have, each once. -/
def names (g : Grammar) : List QName :=
  (g.schemas.flatMap fun schema =>
    schema.root.subtree.flatMap fun n =>
      match n.attribute? "name" with
      | some name => [⟨schema.targetNamespace, name⟩, ⟨"", name⟩]
      | none => []).eraseDups

/-- The first tree for every name at the top. -/
def firstPerElement (seen : List QName) : List (Tree GrammarElement) → List (Tree GrammarElement)
  | [] => []
  | tree :: rest =>
    match tree.value? with
    | some element =>
      if element.name ∈ seen then firstPerElement seen rest
      else tree :: firstPerElement (element.name :: seen) rest
    | none => tree :: firstPerElement seen rest

/-- The element of a declaration with the elements inside it. `unused` are the names that no element
around it has; an element with another name stands inside itself and is not followed further. -/
def expand (g : Grammar) (unused : List QName) (d : Declaration) : Option (Tree GrammarElement) :=
  match g.target? (g.definitions .element).length d with
  | none => none
  | some d =>
    match g.nameOf? d with
    | none => none
    | some name =>
      let content := g.content d.definition
      let element : GrammarElement := ⟨name, content.attributes⟩
      if _h : name ∈ unused then
        let inside := content.particles.filterMap fun particle => g.expand (unused.erase name) ⟨particle, false⟩
        some (.node (some element) (firstPerElement [] inside))
      else some (.leaf element)
termination_by unused.length
decreasing_by exact length_erase_lt _h

/-- The tree of a grammar: the global elements of every schema, in order, each with what may stand
inside it. -/
def tree (g : Grammar) : Tree GrammarElement :=
  let globals := g.schemas.zipIdx.flatMap fun (schema, number) =>
    (schema.root.childrenOf .element).filterMap fun n => g.expand g.names ⟨⟨number, n⟩, true⟩
  .node none (firstPerElement [] globals)

/-- The grammar of the texts that are schemas; the tables of each text list in an order of their own. -/
def read (texts : List (List Char)) (orders : Nat → TableOrder := fun _ => .text) : Grammar :=
  ⟨texts.zipIdx.filterMap fun (text, number) => (Schema.read text (orders number)).toOption⟩

end Grammar

end XmlDiagnostics
