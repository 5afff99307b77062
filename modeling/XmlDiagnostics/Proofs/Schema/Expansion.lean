import Mathlib.Data.List.Dedup
import Mathlib.Data.List.Perm.Subperm
import Mathlib.Logic.Relation
import XmlDiagnostics.Proofs.Schema.Equations
import XmlDiagnostics.Proofs.Schema.Definitions
import XmlDiagnostics.Proofs.Schema.Gathering
import XmlDiagnostics.Proofs.Schema.Siblings

/-! # Building the tree of a grammar

`Ends` follows the references from declaration to declaration, `Expands` makes trees of declarations with the elements
inside them, and `Builds` makes the tree of a grammar; nothing but the names of the elements around and
the visited components bounds them. Unless references of global elements go in a circle, they come to an end
with the tree that a grammar has (`builds_iff`), and a path of it has no name twice but possibly
the last (`Expands.cut`, `Grammar.builds_cut`). -/

namespace XmlDiagnostics

open Schema

variable {g : Grammar}

/-! ### References between declarations -/

/-- A declaration of an element with its place, and whether it is a global one. -/
structure Declared (g : Grammar) where
  occurrence : Occurrence g
  global : Bool

/-- The declaration without its place. -/
def Declared.declaration (d : Declared g) : Grammar.Declaration := ⟨d.occurrence.definition, d.global⟩

/-- The reference that a declaration makes instead of declaring an element. -/
def Declared.reference? (d : Declared g) : Option String := d.occurrence.node.attribute? "ref"

/-- Whether a declaration of an element refers to another one, which then is global. -/
def RefersTo (o o' : Occurrence g) : Prop :=
  ∃ reference, o.node.attribute? "ref" = some reference ∧ g.Means .element o.number reference o'

/-- Where the references from a declaration end: at a declaration without reference, or nowhere. -/
inductive Ends : Declared g → Option (Declared g) → Prop
  | here {d} : d.reference? = none → Ends d (some d)
  | dangling {d reference} :
      d.reference? = some reference → g.lookup .element d.occurrence.number reference = none → Ends d none
  | refer {d reference o result} :
      d.reference? = some reference → g.Means .element d.occurrence.number reference o → Ends ⟨o, true⟩ result →
        Ends d result

theorem Ends.unique {d : Declared g} {result result' : Option (Declared g)} (h : Ends d result) (h' : Ends d result') :
    result = result' := by
  induction h with
  | here hnone =>
      cases h' with
      | here => rfl
      | dangling hsome => cases hnone.symm.trans hsome
      | refer hsome => cases hnone.symm.trans hsome
  | dangling hsome hlookup =>
      cases h' with
      | here hnone => cases hnone.symm.trans hsome
      | dangling => rfl
      | refer hsome' hmeans =>
          obtain rfl := Option.some.inj (hsome.symm.trans hsome')
          cases hlookup.symm.trans hmeans.lookup_eq
  | refer hsome hmeans _ ih =>
      cases h' with
      | here hnone => cases hnone.symm.trans hsome
      | dangling hsome' hlookup =>
          obtain rfl := Option.some.inj (hsome.symm.trans hsome')
          cases hlookup.symm.trans hmeans.lookup_eq
      | refer hsome' hmeans' hends =>
          obtain rfl := Option.some.inj (hsome.symm.trans hsome')
          obtain rfl := hmeans.unique hmeans'
          exact ih hends

/-- Global elements that make no references form no circle. -/
theorem not_transGen_refersTo_self
    (h : ∀ o : Occurrence g, o.IsGlobal .element → o.node.attribute? "ref" = none) (o : Occurrence g) :
    ¬ Relation.TransGen RefersTo o o := by
  intro hcircle
  obtain ⟨_, -, reference, -, hmeans⟩ := Relation.TransGen.tail'_iff.mp hcircle
  obtain ⟨_, ⟨reference', href, -⟩, -⟩ := Relation.TransGen.head'_iff.mp hcircle
  cases (h o hmeans.isGlobal).symm.trans href

/-- Global components of one sort are no more than there are definitions. -/
theorem Occurrence.length_le_of_isGlobal {sort : GlobalKind} {seen : List (Occurrence g)} (hnodup : seen.Nodup)
    (hglobal : ∀ o ∈ seen, o.IsGlobal sort) : seen.length ≤ (g.definitions sort).length := by
  have hkeys : (seen.map fun o => Grammar.keyOf sort o.definition).Nodup :=
    hnodup.map_on fun o ho o' ho' hkey => (hglobal o ho).eq_of_keyOf_eq (hglobal o' ho') hkey
  have hsubset : (seen.map fun o => Grammar.keyOf sort o.definition) ⊆
      (g.definitions sort).map fun entry => Grammar.keyOf sort entry.2 := by
    intro key hkey
    obtain ⟨o, ho, rfl⟩ := List.mem_map.mp hkey
    obtain ⟨name, hindexed⟩ := (hglobal o ho).indexed
    exact List.mem_map.mpr ⟨_, hindexed, rfl⟩
  have hlength := (List.subperm_of_subset hkeys hsubset).length_le
  rwa [List.length_map, List.length_map] at hlength

/-- Without circles, following references ends, and with enough steps where a grammar looks for the end. The
declarations `seen` on the way are all different, so there are steps left as long as there is a reference. -/
theorem exists_ends_of_seen (hacyclic : ∀ o : Occurrence g, ¬ Relation.TransGen RefersTo o o) (n : Nat)
    (d : Declared g) (seen : List (Occurrence g)) (hnodup : seen.Nodup) (hglobal : ∀ o ∈ seen, o.IsGlobal .element)
    (hway : ∀ o ∈ seen, Relation.ReflTransGen RefersTo o d.occurrence)
    (henough : (g.definitions .element).length ≤ n + seen.length) :
    ∃ result, Ends d result ∧ g.target? n d.declaration = result.map Declared.declaration := by
  cases href : d.reference? with
  | none => exact ⟨some d, .here href, Grammar.target?_of_no_reference (d := d.declaration) href n⟩
  | some reference =>
      cases hlookup : g.lookup .element d.occurrence.number reference with
      | none => exact ⟨none, .dangling href hlookup, Grammar.target?_of_lost (d := d.declaration) href hlookup n⟩
      | some definition =>
          obtain ⟨o, rfl, hmeans⟩ := Grammar.exists_means hlookup
          have hrefers : RefersTo d.occurrence o := ⟨reference, href, hmeans⟩
          have hnew : o ∉ seen := fun hmem => hacyclic o (.tail' (hway o hmem) hrefers)
          have hglobal' : ∀ o' ∈ o :: seen, o'.IsGlobal .element := by
            intro o' ho'
            rcases List.mem_cons.mp ho' with rfl | ho'
            · exact hmeans.isGlobal
            · exact hglobal o' ho'
          have hway' : ∀ o' ∈ o :: seen, Relation.ReflTransGen RefersTo o' o := by
            intro o' ho'
            rcases List.mem_cons.mp ho' with rfl | ho'
            · exact .refl
            · exact (hway o' ho').tail hrefers
          have hnodup' := List.nodup_cons.mpr ⟨hnew, hnodup⟩
          have hlength := Occurrence.length_le_of_isGlobal hnodup' hglobal'
          rw [List.length_cons] at hlength
          obtain ⟨m, rfl⟩ : ∃ m, n = m + 1 := ⟨n - 1, by omega⟩
          obtain ⟨result, hends, htarget⟩ := exists_ends_of_seen hacyclic m ⟨o, true⟩ (o :: seen) hnodup' hglobal' hway'
            (by rw [List.length_cons]; omega)
          exact ⟨result, .refer href hmeans hends, (Grammar.target?_succ (d := d.declaration) href hlookup m).trans htarget⟩

theorem exists_ends (hacyclic : ∀ o : Occurrence g, ¬ Relation.TransGen RefersTo o o) (d : Declared g) :
    ∃ result, Ends d result ∧
      g.target? (g.definitions .element).length d.declaration = result.map Declared.declaration :=
  exists_ends_of_seen hacyclic _ d [] List.nodup_nil (fun _ h => by cases h) (fun _ h => by cases h)
    (Nat.le_refl _)

/-! ### Elements with the elements inside -/

/-- The element that a declaration declares, when some components make its content. -/
def elementOf (name : QName) (found : List (Occurrence g)) : GrammarElement :=
  ⟨name, (Occurrence.content found).attributes⟩

/-- The local declarations of elements among some components. -/
def localDeclared (found : List (Occurrence g)) : List (Declared g) := (Occurrence.elements found).map (⟨·, false⟩)

/-- The trees of declarations, in order, when elements with the names in `around` stand around them: a declaration
whose references end nowhere, or without name, has none, and an element that stands inside itself is a leaf. -/
inductive Expands (g : Grammar) : List QName → List (Declared g) → List (Tree GrammarElement) → Prop
  | done {around} : Expands g around [] []
  | lost {around d rest trees} : Ends d none → Expands g around rest trees → Expands g around (d :: rest) trees
  | nameless {around d d' rest trees} :
      Ends d (some d') → g.nameOf? d'.declaration = none → Expands g around rest trees →
        Expands g around (d :: rest) trees
  | repeated {around d d' name found rest trees} :
      Ends d (some d') → g.nameOf? d'.declaration = some name → Gathers g [] d'.occurrence.contentErrands found →
        name ∈ around → Expands g around rest trees →
          Expands g around (d :: rest) (.leaf (elementOf name found) :: trees)
  | new {around d d' name found inside rest trees} :
      Ends d (some d') → g.nameOf? d'.declaration = some name → Gathers g [] d'.occurrence.contentErrands found →
        name ∉ around → Expands g (name :: around) (localDeclared found) inside → Expands g around rest trees →
          Expands g around (d :: rest)
            (.node (some (elementOf name found)) (Grammar.firstPerElement [] inside) :: trees)

theorem Expands.unique {around : List QName} {ds : List (Declared g)} {trees trees' : List (Tree GrammarElement)}
    (h : Expands g around ds trees) (h' : Expands g around ds trees') : trees = trees' := by
  induction h generalizing trees' with
  | done =>
      cases h'
      rfl
  | lost hends _ ih =>
      cases h' with
      | lost _ hrest => exact ih hrest
      | nameless hends' => cases hends.unique hends'
      | repeated hends' => cases hends.unique hends'
      | new hends' => cases hends.unique hends'
  | nameless hends hname _ ih =>
      cases h' with
      | lost hends' => cases hends.unique hends'
      | nameless _ _ hrest => exact ih hrest
      | repeated hends' hname' =>
          cases hends.unique hends'
          cases hname.symm.trans hname'
      | new hends' hname' =>
          cases hends.unique hends'
          cases hname.symm.trans hname'
  | repeated hends hname hfound haround _ ih =>
      cases h' with
      | lost hends' => cases hends.unique hends'
      | nameless hends' hname' =>
          cases hends.unique hends'
          cases hname.symm.trans hname'
      | repeated hends' hname' hfound' _ hrest =>
          cases hends.unique hends'
          cases hname.symm.trans hname'
          rw [hfound.unique hfound', ih hrest]
      | new hends' hname' _ haround' =>
          cases hends.unique hends'
          cases hname.symm.trans hname'
          exact absurd haround haround'
  | new hends hname hfound haround _ _ ihinside ih =>
      cases h' with
      | lost hends' => cases hends.unique hends'
      | nameless hends' hname' =>
          cases hends.unique hends'
          cases hname.symm.trans hname'
      | repeated hends' hname' _ haround' =>
          cases hends.unique hends'
          cases hname.symm.trans hname'
          exact absurd haround' haround
      | new hends' hname' hfound' _ hinside hrest =>
          cases hends.unique hends'
          cases hname.symm.trans hname'
          obtain rfl := hfound.unique hfound'
          rw [ihinside hinside, ih hrest]

/-! ### Names -/

theorem Schema.Node.subtree_subset {n child : Node} (h : child ∈ n.children) : child.subtree ⊆ n.subtree := by
  have hsubtrees : ∀ l : List Node, child ∈ l → child.subtree ⊆ Node.subtrees l := by
    intro l hl
    induction l with
    | nil => cases hl
    | cons first rest ih =>
        rw [Node.subtrees]
        rcases List.mem_cons.mp hl with rfl | hl
        · exact List.subset_append_left _ _
        · exact List.Subset.trans (ih hl) (List.subset_append_right _ _)
  cases n with
  | node kind attributes children =>
      rw [Node.subtree]
      exact List.Subset.trans (hsubtrees children h) (List.subset_cons_self _ _)

theorem Schema.Node.mem_subtree_self (n : Node) : n ∈ n.subtree := by
  cases n
  exact List.mem_cons_self

theorem Schema.Node.mem_subtree_of_at? {n n' : Node} {path : List Nat} (h : n.at? path = some n') : n' ∈ n.subtree := by
  induction path generalizing n with
  | nil =>
      obtain rfl := Option.some.inj h
      exact n.mem_subtree_self
  | cons i path ih =>
      obtain ⟨child, hchild, hat⟩ := Option.bind_eq_some_iff.mp h
      exact Node.subtree_subset (List.mem_of_getElem? hchild) (ih hat)

/-- The names of elements are among the names of a grammar. -/
theorem Grammar.mem_names_of_nameOf? {d : Declared g} {name : QName} (h : g.nameOf? d.declaration = some name) :
    name ∈ g.names := by
  obtain ⟨localName, hname, h⟩ := Option.bind_eq_some_iff.mp h
  obtain ⟨schema, hschema, h⟩ := Option.bind_eq_some_iff.mp h
  obtain ⟨schema', hschema', hat⟩ := Option.bind_eq_some_iff.mp d.occurrence.node_eq
  obtain rfl : schema = schema' := Option.some.inj (hschema.symm.trans hschema')
  have hlocal : d.occurrence.node.attribute? "name" = some localName := hname
  rw [names, List.mem_eraseDups, List.mem_flatMap]
  refine ⟨schema, List.mem_of_getElem? hschema, List.mem_flatMap.mpr ⟨_, Node.mem_subtree_of_at? hat, ?_⟩⟩
  obtain rfl := Option.some.inj h
  simp only [hlocal]
  split <;> simp

theorem Grammar.nodup_names : g.names.Nodup := nodup_eraseDups _

/-- The names that no element around has. -/
def Grammar.unused (g : Grammar) (around : List QName) : List QName := g.names.filter fun name => name ∉ around

theorem Grammar.unused_nil : g.unused [] = g.names := by
  simp [unused]

theorem Grammar.erase_unused (around : List QName) (name : QName) :
    (g.unused around).erase name = g.unused (name :: around) :=
  erase_filter_not_mem nodup_names around name

/-! ### Trees of declarations -/

/-- The tree that a grammar makes of a declaration when elements with the names in `around` stand around it. -/
def Declared.tree? (around : List QName) (d : Declared g) : Option (Tree GrammarElement) :=
  g.expand (g.unused around) d.declaration

namespace Declared

open Grammar

variable {around : List QName} {d d' : Declared g} {name : QName} {found : List (Occurrence g)}

theorem tree?_of_lost (htarget : g.target? (g.definitions .element).length d.declaration = none) :
    d.tree? around = none :=
  expand_of_lost htarget

theorem tree?_of_nameless
    (htarget : g.target? (g.definitions .element).length d.declaration = some d'.declaration)
    (hname : g.nameOf? d'.declaration = none) : d.tree? around = none :=
  expand_of_nameless htarget hname

theorem tree?_of_repeated
    (htarget : g.target? (g.definitions .element).length d.declaration = some d'.declaration)
    (hname : g.nameOf? d'.declaration = some name) (hfound : Gathers g [] d'.occurrence.contentErrands found)
    (haround : name ∈ around) : d.tree? around = some (.leaf (elementOf name found)) := by
  have hused : name ∉ g.unused around := by simp [unused, haround]
  have hcontent : g.content d'.declaration.definition = Occurrence.content found := hfound.content_eq
  rw [tree?, expand_of_used htarget hname hused, hcontent]
  rfl

theorem tree?_of_new
    (htarget : g.target? (g.definitions .element).length d.declaration = some d'.declaration)
    (hname : g.nameOf? d'.declaration = some name) (hfound : Gathers g [] d'.occurrence.contentErrands found)
    (haround : name ∉ around) :
    d.tree? around =
      some (.node (some (elementOf name found))
        (firstPerElement [] ((localDeclared found).filterMap (tree? (name :: around))))) := by
  have hunused : name ∈ g.unused around := by simp [unused, haround, mem_names_of_nameOf? hname]
  have hcontent : g.content d'.declaration.definition = Occurrence.content found := hfound.content_eq
  rw [tree?, expand_of_unused htarget hname hunused, hcontent, erase_unused, localDeclared, List.filterMap_map,
    Occurrence.content, List.filterMap_map]
  rfl

end Declared

/-- Without circles of references, every list of declarations has trees: an element with elements inside uses up a
name. They are the trees that the grammar makes. -/
theorem expands_tree? (hacyclic : ∀ o : Occurrence g, ¬ Relation.TransGen RefersTo o o) (around : List QName) :
    ∀ ds : List (Declared g), Expands g around ds (ds.filterMap (Declared.tree? around))
  | [] => .done
  | d :: ds => by
      have hrest := expands_tree? hacyclic around ds
      obtain ⟨result, hends, htarget⟩ := exists_ends hacyclic d
      cases result with
      | none =>
          rw [List.filterMap_cons_none (Declared.tree?_of_lost htarget)]
          exact .lost hends hrest
      | some d' =>
          cases hname : g.nameOf? d'.declaration with
          | none =>
              rw [List.filterMap_cons_none (Declared.tree?_of_nameless htarget hname)]
              exact .nameless hends hname hrest
          | some name =>
              obtain ⟨found, hfound⟩ := exists_gathers [] d'.occurrence.contentErrands
              by_cases haround : name ∈ around
              · rw [List.filterMap_cons_some (Declared.tree?_of_repeated htarget hname hfound haround)]
                exact .repeated hends hname hfound haround hrest
              · have hless : (g.unused (name :: around)).length < (g.unused around).length := by
                  have hunused : name ∈ g.unused around := by
                    simp [Grammar.unused, haround, Grammar.mem_names_of_nameOf? hname]
                  rw [← Grammar.erase_unused]
                  exact Grammar.length_erase_lt hunused
                have hinside := expands_tree? hacyclic (name :: around) (localDeclared found)
                rw [List.filterMap_cons_some (Declared.tree?_of_new htarget hname hfound haround)]
                exact .new hends hname hfound haround hinside hrest
termination_by ds => ((g.unused around).length, ds.length)

/-! ### The tree of a grammar -/

theorem Grammar.node?_nil (g : Grammar) (i : Fin g.schemas.length) : g.node? i [] = some g.schemas[i].root := by
  simp [Grammar.node?, Node.at?]

/-- The outermost components of the schemas. -/
def Grammar.roots (g : Grammar) : List (Occurrence g) :=
  (List.finRange g.schemas.length).map fun i => ⟨i.val, [], g.schemas[i].root, g.node?_nil i⟩

/-- The declarations of elements at the top of the schemas. -/
def Grammar.declared (g : Grammar) : List (Declared g) :=
  g.roots.flatMap fun root => (Occurrence.elements root.inside).map (⟨·, true⟩)

/-- Building a grammar ends with a tree. -/
def Builds (g : Grammar) (tree : Tree GrammarElement) : Prop :=
  ∃ trees, Expands g [] g.declared trees ∧ tree = .node none (Grammar.firstPerElement [] trees)

theorem Grammar.map_definition_roots (g : Grammar) :
    g.roots.map Occurrence.definition =
      g.schemas.zipIdx.map fun (schema, number) => (⟨number, schema.root⟩ : Definition) := by
  refine List.ext_getElem (by simp [roots]) fun i hi hi' => ?_
  simp [roots, Occurrence.definition]

/-- The tree of a grammar consists of the trees of the declarations at the top. -/
theorem Grammar.tree_eq (g : Grammar) :
    g.tree = .node none (firstPerElement [] (g.declared.filterMap (Declared.tree? []))) := by
  have hroot : ∀ root : Occurrence g,
      ((Occurrence.elements root.inside).map fun o => (⟨o, true⟩ : Declared g)).filterMap (Declared.tree? []) =
        (root.node.childrenOf .element).filterMap fun n => g.expand g.names ⟨⟨root.number, n⟩, true⟩ := by
    intro root
    have helements := root.map_definition_filter_inside .element
    have htree : Declared.tree? [] ∘ (fun o : Occurrence g => (⟨o, true⟩ : Declared g)) =
        (fun d : Definition => g.expand g.names ⟨d, true⟩) ∘ Occurrence.definition := by
      funext o
      rw [Function.comp_apply, Declared.tree?, unused_nil]
      rfl
    rw [List.filterMap_map, htree, ← List.filterMap_map, Occurrence.elements, helements, List.filterMap_map]
    rfl
  have hdeclared : g.declared.filterMap (Declared.tree? []) =
      g.schemas.zipIdx.flatMap fun (schema, number) =>
        (schema.root.childrenOf .element).filterMap fun n => g.expand g.names ⟨⟨number, n⟩, true⟩ := by
    have hroots := congrArg (List.flatMap fun d : Definition =>
      (d.node.childrenOf .element).filterMap fun n => g.expand g.names ⟨⟨d.schema, n⟩, true⟩) g.map_definition_roots
    rw [List.flatMap_map, List.flatMap_map] at hroots
    rw [declared, List.filterMap_flatMap]
    simp only [hroot]
    exact hroots
  rw [hdeclared]
  rfl

/-- Without circles of references between global elements, building a grammar ends, and with its tree. -/
theorem builds_iff (hacyclic : ∀ o : Occurrence g, ¬ Relation.TransGen RefersTo o o) {tree : Tree GrammarElement} :
    Builds g tree ↔ tree = g.tree := by
  have hexpands := expands_tree? hacyclic [] g.declared
  constructor
  · rintro ⟨trees, htrees, rfl⟩
    rw [htrees.unique hexpands, Grammar.tree_eq]
  · rintro rfl
    exact ⟨_, hexpands, g.tree_eq⟩

/-! ### Paths -/

/-- Whether no way down into trees repeats a name, of the way or of `around`, but possibly at its end, at a node
without children. -/
def Cut (around : List QName) (trees : List (Tree GrammarElement)) : Prop :=
  ∀ outer last node, Tree.Leads (.node none trees) (outer ++ [last]) node →
    (outer.map GrammarElement.name).Nodup ∧ (∀ name ∈ outer.map GrammarElement.name, name ∉ around) ∧
      (last.name ∈ around ∨ last.name ∈ outer.map GrammarElement.name → node.children = [])

namespace Cut

variable {around : List QName} {trees : List (Tree GrammarElement)}

theorem nil : Cut around [] := by
  rintro outer last node hleads
  obtain ⟨parent, hparent, hnode, -⟩ := Tree.leads_concat.mp hleads
  cases hparent with
  | stay => cases hnode
  | down hchild => cases hchild

theorem firstPerElement (h : Cut around trees) : Cut around (Grammar.firstPerElement [] trees) :=
  fun outer last node hleads =>
    h outer last node (Tree.leads_concat_of_subset (Grammar.firstPerElement_sublist [] trees).subset hleads)

/-- A leaf repeats names at most at its own end. -/
theorem leaf_cons (element : GrammarElement) (h : Cut around trees) : Cut around (.leaf element :: trees) := by
  intro outer last node hleads
  rcases Tree.leads_concat_of_cons.mp hleads with ⟨first, rest, hway, -, hrest⟩ | hleads
  · cases hrest with
    | down hchild => cases hchild
    | stay =>
        obtain ⟨rfl, -⟩ := (List.append_eq_singleton_iff.mp hway).resolve_right (by simp)
        exact ⟨List.nodup_nil, by simp, fun _ => rfl⟩
  · exact h outer last node hleads

/-- A new name may stand above trees that do not repeat it. -/
theorem node_cons {element : GrammarElement} {children : List (Tree GrammarElement)} (hnew : element.name ∉ around)
    (hchildren : Cut (element.name :: around) children) (h : Cut around trees) :
    Cut around (.node (some element) children :: trees) := by
  intro outer last node hleads
  rcases Tree.leads_concat_of_cons.mp hleads with ⟨first, rest, hway, hvalue, hrest⟩ | hleads
  · obtain rfl : element = first := Option.some.inj hvalue
    cases outer with
    | nil =>
        obtain ⟨rfl, rfl⟩ := List.cons.inj hway
        refine ⟨List.nodup_nil, by simp, fun hrepeated => ?_⟩
        rcases hrepeated with hmem | hmem
        · exact absurd hmem hnew
        · cases hmem
    | cons first outer =>
        obtain ⟨rfl, rfl⟩ := List.cons.inj hway
        obtain ⟨hnodup, hdistinct, hend⟩ := hchildren outer last node (Tree.leads_concat_of_children.mpr hrest)
        refine ⟨?_, ?_, fun hrepeated => hend ?_⟩
        · rw [List.map_cons, List.nodup_cons]
          exact ⟨fun hmem => hdistinct _ hmem List.mem_cons_self, hnodup⟩
        · intro name hname
          rcases List.mem_cons.mp hname with rfl | hname
          · exact hnew
          · exact fun hmem => hdistinct name hname (List.mem_cons_of_mem _ hmem)
        · rcases hrepeated with hmem | hmem
          · exact .inl (List.mem_cons_of_mem _ hmem)
          · rcases List.mem_cons.mp hmem with hsame | hmem
            · exact .inl (hsame ▸ List.mem_cons_self)
            · exact .inr hmem
  · exact h outer last node hleads

end Cut

theorem Expands.cut {around : List QName} {ds : List (Declared g)} {trees : List (Tree GrammarElement)}
    (h : Expands g around ds trees) : Cut around trees := by
  induction h with
  | done => exact .nil
  | lost _ _ ih => exact ih
  | nameless _ _ _ ih => exact ih
  | repeated _ _ _ _ _ ih => exact ih.leaf_cons _
  | new _ _ _ hnew _ _ ihinside ih => exact .node_cons hnew ihinside.firstPerElement ih

/-- Unless references of global elements go in a circle, whatever types, groups and elements do, building a grammar
ends with one tree, where every name above the end of a path stands there once, an element that stands inside
itself has no children, and a path has at most one node more than there are names of elements. -/
theorem Grammar.builds_cut (hacyclic : ∀ o : Occurrence g, ¬ Relation.TransGen RefersTo o o) :
    (∀ tree, Builds g tree ↔ tree = g.tree) ∧
      ∀ outer last node, Tree.Leads g.tree (outer ++ [last]) node →
        (outer.map GrammarElement.name).Nodup ∧
        (last.name ∈ outer.map GrammarElement.name → node.children = []) ∧
        (outer ++ [last]).length ≤ (g.tree.values.map GrammarElement.name).dedup.length + 1 := by
  have hbuilds : ∀ tree, Builds g tree ↔ tree = g.tree := fun tree => builds_iff hacyclic
  refine ⟨hbuilds, fun outer last node hleads => ?_⟩
  obtain ⟨trees, htrees, htree⟩ := (hbuilds g.tree).mpr rfl
  obtain ⟨hnodup, -, hend⟩ := htrees.cut.firstPerElement outer last node (htree ▸ hleads)
  refine ⟨hnodup, fun hmem => hend (.inr hmem), ?_⟩
  have hsubset : outer.map GrammarElement.name ⊆ (g.tree.values.map GrammarElement.name).dedup := by
    intro name hname
    obtain ⟨element, helement, rfl⟩ := List.mem_map.mp hname
    exact List.mem_dedup.mpr (List.mem_map_of_mem (hleads.mem_values element (List.mem_append_left _ helement)))
  have hlength := (List.subperm_of_subset hnodup hsubset).length_le
  rw [List.length_map] at hlength
  rw [List.length_append, List.length_singleton]
  omega

namespace NestedParts

/-! The elements of a schema: parts consist of parts. -/

def inside : Node := .node .element [("ref", "part")] []
def outside : Node := .node .element [("name", "part")] [.node .complexType [] [.node .container [] [inside]]]

end NestedParts

open NestedParts

/-- A part consists of parts: the declaration inside refers to the one outside. -/
def nestedParts : Grammar := ⟨[.ofRoot (.node .schema [] [outside])]⟩

theorem Grammar.tree_nestedParts :
    nestedParts.tree = .node none [.node (some ⟨⟨"", "part"⟩, ∅⟩) [.leaf ⟨⟨"", "part"⟩, ∅⟩]] := by
  let d : Declaration := ⟨⟨0, outside⟩, true⟩
  have hname : nestedParts.nameOf? d = some ⟨"", "part"⟩ := rfl
  have hcontent : nestedParts.content d.definition = ⟨∅, [⟨0, inside⟩]⟩ := by
    simp [d, content, gather, tasksOf, tasksInside, outside, inside, Node.childrenOf, Node.attribute?, List.lookup_cons]
  have houtside : ∀ n, nestedParts.target? n d = some d := target?_of_no_reference rfl
  have hinside : nestedParts.target? (nestedParts.definitions .element).length ⟨⟨0, inside⟩, false⟩ = some d := by
    have hlength : (nestedParts.definitions .element).length = 1 := by decide +kernel
    have hlookup : nestedParts.lookup .element 0 "part" = some d.definition :=
      lookup_of_definition? rfl (by decide) rfl
    rw [hlength, target?_succ rfl hlookup]
    exact houtside 0
  have hnames : nestedParts.names = [⟨"", "part"⟩] := by decide +kernel
  have hleaf : nestedParts.expand [] ⟨⟨0, inside⟩, false⟩ = some (.leaf ⟨⟨"", "part"⟩, ∅⟩) := by
    rw [expand_of_used hinside hname List.not_mem_nil, hcontent]
  refine tree_eq_of_expand (n := d.definition) rfl ?_
  rw [hnames, expand_of_unused (houtside _) hname (List.mem_singleton_self _), hcontent, List.erase_cons_head]
  simp only [List.filterMap_cons, hleaf]
  rw [List.filterMap_nil, firstPerElement_singleton]

/-- The part inside stands below the one outside and is not followed further. -/
theorem Grammar.builds_cut_nestedParts :
    (∀ o : Occurrence nestedParts, ¬ Relation.TransGen RefersTo o o) ∧
    nestedParts.tree.values.map GrammarElement.name = [⟨"", "part"⟩, ⟨"", "part"⟩] ∧
    (∀ tree, Builds nestedParts tree ↔ tree = nestedParts.tree) ∧
      ∀ outer last node, Tree.Leads nestedParts.tree (outer ++ [last]) node →
        (outer.map GrammarElement.name).Nodup ∧
        (last.name ∈ outer.map GrammarElement.name → node.children = []) ∧
        (outer ++ [last]).length ≤ (nestedParts.tree.values.map GrammarElement.name).dedup.length + 1 := by
  have hacyclic : ∀ o : Occurrence nestedParts, ¬ Relation.TransGen RefersTo o o := by
    refine not_transGen_refersTo_self fun o hglobal => ?_
    obtain ⟨name, hindexed⟩ := hglobal.indexed
    have href : ∀ entry ∈ nestedParts.definitions .element, entry.2.node.attribute? "ref" = none := by decide +kernel
    exact href _ hindexed
  have hnames : nestedParts.tree.values.map GrammarElement.name = [⟨"", "part"⟩, ⟨"", "part"⟩] := by
    rw [Grammar.tree_nestedParts]
    rfl
  exact ⟨hacyclic, hnames, Grammar.builds_cut hacyclic⟩

end XmlDiagnostics
