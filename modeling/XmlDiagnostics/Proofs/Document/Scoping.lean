import Mathlib.Data.List.Forall2
import XmlDiagnostics.Proofs.Document.Walk
import XmlDiagnostics.Proofs.Lookup
import XmlDiagnostics.Proofs.Tree.Paths

/-! # Namespaces are scoped lexically

The name of an element is resolved with a scope that the builder carries along. Here the same namespace is
told from the tags alone: of the tag of an element and the tags around it, from the inside out, the
first that declares a namespace for the name gives it (`namespaceWithin`). Nothing else in the text has an
influence on it (`names_lexical`). -/

namespace XmlDiagnostics.Document

open Markup

/-! ### Declarations -/

/-- A key declares a namespace for a name: `xmlns:` with the name behind it, and for the empty name also
`xmlns` alone. -/
def Declares (name key : List Char) : Prop :=
  key = "xmlns:".toList ++ name ∨ (name = [] ∧ key = "xmlns".toList)

instance (name key : List Char) : Decidable (Declares name key) := inferInstanceAs (Decidable (_ ∨ _))

/-- The namespace that a tag declares for a name. The keys of a tag are distinct, so only `xmlns` and
`xmlns:` can both declare one for the same name; then the later one counts. -/
def declaration? (name : List Char) (tag : Tag) : Option String :=
  ((pairsOf tag).reverse.find? fun pair => Declares name pair.1).map fun pair => String.ofList pair.2

/-- The namespace of a name within tags, given innermost first: the fixed one for `xml`, else what the nearest
tag declares that declares something for the name, else none. -/
def namespaceWithin (tags : List Tag) (name : List Char) : String :=
  if name = "xml".toList then xmlNamespace else (tags.findSome? (declaration? name)).getD ""

/-- A name as it is written has two parts: what stands before its first colon, which is empty without a colon,
and the local name. -/
def Parts (written space localName : List Char) : Prop :=
  (written = space ++ ':' :: localName ∧ ':' ∉ space) ∨ (space = [] ∧ written = localName ∧ ':' ∉ localName)

theorem parts_splitName (written : List Char) : Parts written (splitName written).1 (splitName written).2 := by
  unfold splitName
  cases hsplit : Text.splitAtFirst ':' written with
  | none =>
      have hcolon : ':' ∉ written := Text.splitAtFirst_eq_none.mp hsplit
      exact .inr ⟨rfl, rfl, hcolon⟩
  | some parts =>
      obtain ⟨space, localName⟩ := parts
      have hparts := Text.splitAtFirst_eq_some hsplit
      exact .inl hparts

theorem declaredName?_eq_some_iff {name key : List Char} : declaredName? key = some name ↔ Declares name key := by
  unfold declaredName? Declares
  split
  · rename_i hkey
    subst hkey
    simp [eq_comm]
  · rename_i hkey
    split
    · rename_i hmark
      obtain ⟨rest, rfl⟩ := List.isPrefixOf_iff_prefix.mp hmark
      rw [List.drop_left, Option.some.injEq]
      constructor
      · intro h
        exact .inl (by rw [h]; rfl)
      · rintro (h | ⟨-, h⟩)
        · exact List.append_cancel_left h
        · exact absurd h hkey
    · rename_i hmark
      constructor
      · intro h
        cases h
      · rintro (h | ⟨-, h⟩)
        · exact absurd (List.isPrefixOf_iff_prefix.mpr ⟨name, h.symm⟩) hmark
        · exact absurd h hkey

/-! ### Scopes -/

theorem lookup_scopeOf (tag : Tag) (name : List Char) :
    (scopeOf (pairsOf tag)).lookup name = declaration? name tag := by
  unfold scopeOf declaration?
  rw [← List.filterMap_reverse]
  refine (lookup_filterMap (fun pair : List Char × List Char => declaredName? pair.1) (fun pair => String.ofList pair.2)
    name _).trans ?_
  have hsame : (fun pair : List Char × List Char => declaredName? pair.1 == some name) =
      fun pair => decide (Declares name pair.1) := by
    funext pair
    rw [Bool.eq_iff_iff, beq_iff_eq, decide_eq_true_iff, declaredName?_eq_some_iff]
  rw [hsame]

/-- What the scope of tags within each other holds for a name is what the nearest one declares for it. -/
theorem lookup_scopeOfTags (tags : List Tag) (name : List Char) :
    (scopeOfTags tags).lookup name = tags.findSome? (declaration? name) := by
  induction tags with
  | nil => rfl
  | cons tag tags ih =>
      have hscope : scopeOfTags (tag :: tags) = scopeOf (pairsOf tag) ++ scopeOfTags tags := rfl
      rw [hscope, List.lookup_append, lookup_scopeOf, ih, List.findSome?_cons]
      cases declaration? name tag <;> rfl

theorem resolve_scopeOfTags (tags : List Tag) (name : List Char) :
    resolve (scopeOfTags tags) name = namespaceWithin tags name := by
  rw [resolve, namespaceWithin, lookup_scopeOfTags]

/-! ### Elements and the tags around them -/

/-- The elements along a path of a tree are those of the brackets along a path, from the outermost to the innermost:
each has the span of its bracket, and its name is the one of its tag in the namespace that its own tag and those
before it on the path give. -/
inductive NamedBy (place : Nat → Position) : List Element → List Bracket → Prop
  | nil : NamedBy place [] []
  | concat {elements brackets element bracket attributes space localName} : NamedBy place elements brackets →
      element.start = place bracket.opening.start → element.stop = place bracket.closing.stop →
      bracket.tag.attributes = .ok attributes → Parts bracket.tag.name space localName →
      element.name = ⟨namespaceWithin (bracket.tag :: (brackets.map Bracket.tag).reverse) space, String.ofList localName⟩ →
      NamedBy place (elements ++ [element]) (brackets ++ [bracket])

variable {place : Nat → Position}

/-- An element whose scope is that of the tags around it is named by its tag and these. -/
theorem NamedBy.concat_elementOf {elements : List Element} {brackets : List Bracket}
    (h : NamedBy place elements brackets) (bracket : Bracket) {attributes : List (List Char × List Char)}
    (hattributes : bracket.tag.attributes = .ok attributes) :
    NamedBy place
      (elements ++ [elementOf (scopeOfTags (bracket.tag :: (brackets.map Bracket.tag).reverse)) bracket.tag
        (place bracket.opening.start) (place bracket.closing.stop)])
      (brackets ++ [bracket]) := by
  refine h.concat rfl rfl hattributes (parts_splitName bracket.tag.name) ?_
  rw [elementOf, qualifiedName, resolve_scopeOfTags]

/-- The paths into the elements of brackets are named by the paths into the brackets, one after the other. -/
theorem forall₂_namedBy {tokens : List PlacedToken} {trees : List (Tree Bracket)} (h : Bracketed tokens trees)
    (hattributes : ∀ token ∈ tokens, ∀ tag, token.token.tag? = some tag → ∃ attributes, tag.attributes = .ok attributes)
    {elements : List Element} {brackets : List Bracket} (hpath : NamedBy place elements brackets) :
    List.Forall₂ (NamedBy place)
      (Tree.pathsIn true (fun _ => true) elements (elementTrees place (scopeOfTags (brackets.map Bracket.tag).reverse) trees))
      (Tree.pathsIn true (fun _ => true) brackets trees) := by
  induction h generalizing elements brackets with
  | nil => exact .nil
  | other _ _ ih => exact ih (fun token hmem => hattributes token (List.mem_cons_of_mem _ hmem)) hpath
  | @empty tag token tokens trees ht _ ih =>
      obtain ⟨attributes, hok⟩ := hattributes token List.mem_cons_self tag (by rw [ht]; rfl)
      have hhere := hpath.concat_elementOf ⟨tag, token, token⟩ hok
      have hrest := ih (fun token hmem => hattributes token (List.mem_cons_of_mem _ hmem)) hpath
      simp only [elementTrees, elementTree, Tree.pathsIn, Tree.pathsFrom, if_true, List.cons_append,
        List.nil_append]
      exact .cons hhere hrest
  | @pair tag opening inner children closing tokens trees ho hc _ _ ihInner ih =>
      obtain ⟨attributes, hok⟩ := hattributes opening (by simp) tag (by rw [ho]; rfl)
      have hhere := hpath.concat_elementOf ⟨tag, opening, closing⟩ hok
      have hinner := ihInner (fun token hmem => hattributes token (by simp [hmem])) hhere
      have hrest := ih (fun token hmem => hattributes token (by simp [hmem])) hpath
      rw [List.map_append, List.reverse_append] at hinner
      simp only [elementTrees, elementTree, Tree.pathsIn, Tree.pathsFrom, if_true, List.cons_append]
      exact .cons hhere (List.rel_append hinner hrest)

/-- The attributes of accepted tags are not broken. -/
theorem exists_attributes_of_mem_acceptedFrom {before tokens : List PlacedToken} {token : PlacedToken}
    (hmem : token ∈ acceptedFrom before tokens) {tag : Tag} (htag : token.token.tag? = some tag) :
    ∃ attributes, tag.attributes = .ok attributes := by
  induction tokens generalizing before with
  | nil => cases hmem
  | cons first tokens ih =>
      unfold acceptedFrom at hmem
      cases hrefusal : refusal? before first with
      | some flaw =>
          rw [hrefusal] at hmem
          cases hmem
      | none =>
          rw [hrefusal] at hmem
          rcases List.mem_cons.mp hmem with rfl | hmem
          · rw [Builder.refusal?_of_tag htag] at hrefusal
            split at hrefusal
            · cases hrefusal
            · cases hattributes : tag.attributes with
              | error flaw => simp [hattributes] at hrefusal
              | ok attributes => exact ⟨attributes, rfl⟩
          · exact ih hmem

theorem exists_attributes_of_mem_completed {text : List Char} {token : PlacedToken} (hmem : token ∈ completed text)
    {tag : Tag} (htag : token.token.tag? = some tag) : ∃ attributes, tag.attributes = .ok attributes := by
  rw [completed, completedAt, List.mem_append] at hmem
  rcases hmem with hmem | hmem
  · exact exists_attributes_of_mem_acceptedFrom hmem htag
  · obtain ⟨opening, -, rfl⟩ := List.mem_map.mp hmem
    cases htag

/-- **Namespaces are scoped lexically.** The tags of a text, completed where reading ends, make trees of brackets, and
the paths to the elements of the document are, one after the other, named by the paths to these brackets. So
the namespace of an element is the one that the nearest of its own tag and the tags around it declares for what
stands before the colon in its name, the fixed one for `xml`, and none if none of them declares it. Tags of
closed elements and tags inside the element do not come into it. -/
theorem names_lexical (text : List Char) :
    ∃ trees, Bracketed (completed text) trees ∧
      List.Forall₂ (NamedBy (Text.positionAt text)) ((Document.read text).tree.paths true fun _ => true)
        ((Tree.node none trees).paths true fun _ => true) := by
  obtain ⟨trees, htrees, htree⟩ := exists_bracketed_read text
  refine ⟨trees, htrees, ?_⟩
  rw [htree, Tree.paths_eq_pathsFrom, Tree.paths_eq_pathsFrom, Tree.pathsFrom, Tree.pathsFrom]
  exact forall₂_namedBy htrees (fun token hmem tag htag => exists_attributes_of_mem_completed hmem htag) .nil

/-- The inner declarations end with their elements, and the last element is again in the outermost namespace. -/
example :
    (Document.read "<a xmlns='u' xmlns:p='v'><p:b xmlns:p='w'><p:c/></p:b><p:d/><q:e xml:f=''/></a>".toList).tree.values.map
        (fun element => element.name.display) =
      ["\x7bu\x7da", "\x7bw\x7db", "\x7bw\x7dc", "\x7bv\x7dd", "e"] := by
  decide +kernel

end XmlDiagnostics.Document
