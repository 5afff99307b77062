import XmlDiagnostics.Document

/-! # Schemas

A schema is read into its components: of each, the kind, the attributes, and the components inside.
Kinds are told by the local part of a tag's name alone. A text whose markup is broken, or whose first
element is no schema, is not a schema.

The namespaces of prefixes are collected from a hashed table of attributes, in the order in which it
lists them. That order is a parameter here. -/

namespace XmlDiagnostics

open Markup

namespace Schema

/-- The kinds of components, as far as they matter for which elements and attributes a grammar
allows. -/
inductive Kind where
  | schema
  | element
  | attributeUse
  | complexType
  | group
  | attributeGroup
  /-- a part of a content model that has no name: a sequence, a choice, or a kind of content -/
  | container
  /-- an extension or restriction of another type -/
  | derivation
  | other
deriving DecidableEq, Repr

/-- The kind that a local name stands for. -/
def Kind.ofName (name : String) : Kind :=
  if name = "schema" then schema
  else if name = "element" then element
  else if name = "attribute" then attributeUse
  else if name = "complexType" then complexType
  else if name = "group" then group
  else if name = "attributeGroup" then attributeGroup
  else if name ∈ ["sequence", "choice", "all", "complexContent", "simpleContent"] then container
  else if name ∈ ["extension", "restriction"] then derivation
  else other

/-- The part of a name after its last colon. -/
def localPart (name : List Char) : List Char :=
  match Text.splitAtLast ':' name with
  | some (_, after) => after
  | none => name

/-- A component of a schema. -/
inductive Node where
  | node (kind : Kind) (attributes : List (String × String)) (children : List Node)
deriving Repr, BEq

namespace Node

/-- The kind of a component. -/
def kind : Node → Kind
  | node kind _ _ => kind

/-- The attributes of a component. -/
def attributes : Node → List (String × String)
  | node _ attributes _ => attributes

/-- The components inside a component. -/
def children : Node → List Node
  | node _ _ children => children

@[simp] theorem kind_node (kind : Kind) (attributes : List (String × String)) (children : List Node) :
    (node kind attributes children).kind = kind := rfl

@[simp] theorem attributes_node (kind : Kind) (attributes : List (String × String)) (children : List Node) :
    (node kind attributes children).attributes = attributes := rfl

@[simp] theorem children_node (kind : Kind) (attributes : List (String × String)) (children : List Node) :
    (node kind attributes children).children = children := rfl

/-- The value of an attribute. -/
def attribute? (n : Node) (key : String) : Option String := n.attributes.lookup key

/-- The components of a kind directly inside a component. -/
def childrenOf (n : Node) (kind : Kind) : List Node := n.children.filter fun child => child.kind = kind

mutual

/-- The component and all components inside it at any depth, in the order of the text. -/
def subtree : Node → List Node
  | node kind attributes children => node kind attributes children :: subtrees children

/-- The components of a list and all components inside them. -/
def subtrees : List Node → List Node
  | [] => []
  | n :: rest => n.subtree ++ subtrees rest

end

mutual

/-- A weight greater than the one of all components inside together. -/
def weight : Node → Nat
  | node _ _ children => 2 + weights children

/-- The weights of a list of components together. -/
def weights : List Node → Nat
  | [] => 0
  | n :: rest => n.weight + weights rest

end

theorem weight_eq (n : Node) : n.weight = 2 + weights n.children := by
  cases n; simp [weight]

end Node

/-! ### Reading a schema -/

/-- Why a text is not a schema. -/
inductive Flaw where
  | markup (flaw : Markup.Flaw)
  | attributes (flaw : AttributeFlaw)
  | noSchemaElement
deriving DecidableEq, Repr

/-- The text of a flaw. -/
def Flaw.message : Flaw → String
  | markup flaw => flaw.message
  | attributes flaw => flaw.message
  | noSchemaElement => "no schema document element"

/-- The component of a tag, without the components inside. -/
def nodeOfTag (tag : Tag) : Except Flaw Node := do
  let attributes ← (tag.attributes).mapError Flaw.attributes
  let kind := Kind.ofName (String.ofList (localPart tag.name))
  return .node kind (attributes.map fun (key, value) => (String.ofList key, String.ofList value)) []

/-- The components read so far: those that are open, innermost first, with the components inside them
backwards, and the first finished one outside of them. -/
structure Builder where
  opened : List Node := []
  finished : Option Node := none

/-- Put a finished component, whose children are in order, where it belongs. -/
def Builder.attach (b : Builder) (n : Node) : Builder :=
  match b.opened with
  | [] => { b with finished := b.finished.or (some n) }
  | .node kind attributes children :: rest =>
    { b with opened := .node kind attributes (n :: children) :: rest }

/-- Take in one token. -/
def Builder.feed (b : Builder) (token : PlacedToken) : Except Flaw Builder :=
  match token.token with
  | .startTag tag => do
    let n ← nodeOfTag tag
    return { b with opened := n :: b.opened }
  | .emptyTag tag => do return b.attach (← nodeOfTag tag)
  | .endTag _ =>
    match b.opened with
    | [] => .ok b
    | .node kind attributes children :: rest =>
      .ok ({ b with opened := rest }.attach (.node kind attributes children.reverse))
  | _ => .ok b

end Schema

namespace Schema

/-! ### Tables -/

/-- An order in which a table of attributes lists its entries. Every table is hashed with a seed of its
own, so it may be any. -/
structure TableOrder where
  list : List (String × String) → List (String × String)
  perm : ∀ entries, (list entries).Perm entries

namespace TableOrder

/-- The order of the text. -/
def text : TableOrder := ⟨fun entries => entries, fun _ => .refl _⟩

/-- The order of the text backwards. -/
def backwards : TableOrder := ⟨List.reverse, List.reverse_perm⟩

end TableOrder

/-- The namespaces that prefixes stand for. -/
structure Prefixes where
  lookup : List Char → Option String

/-- The namespaces that are declared by attributes listed one after the other: a later declaration of a
prefix replaces an earlier one. -/
def Prefixes.collect (attributes : List (String × String)) : Prefixes :=
  let scope := Document.scopeOf (attributes.map fun (key, value) => (key.toList, value.toList))
  ⟨fun space => scope.lookup space⟩

end Schema

/-- A schema: the namespace of its global components, whether local elements belong to that namespace
unless they say otherwise, the namespaces that names stand for in references, and the components. -/
structure Schema where
  targetNamespace : String
  qualified : Bool
  scope : Schema.Prefixes
  root : Schema.Node

namespace Schema

/-- The schema with a given outermost component, whose table of attributes lists them in an order. -/
def ofRoot (root : Node) (order : TableOrder := .text) : Schema where
  targetNamespace := (root.attribute? "targetNamespace").getD ""
  qualified := root.attribute? "elementFormDefault" = some "qualified"
  scope := .collect (order.list root.attributes)
  root := root

/-- Read a schema. -/
def read (text : List Char) (order : TableOrder := .text) : Except Flaw Schema := do
  let tokens := Markup.tokens text
  let b ← tokens.tokens.foldlM Builder.feed {}
  match tokens.flaw, b.finished with
  | some flaw, _ => throw (.markup flaw.flaw)
  | none, some root => if root.kind = .schema then return ofRoot root order else throw .noSchemaElement
  | none, none => throw .noSchemaElement

end Schema

end XmlDiagnostics
