import XmlDiagnostics.Proofs.Schema.Definitions
import XmlDiagnostics.Proofs.Schema.Renumbering
import XmlDiagnostics.Proofs.Schema.Tables

/-! # The order of schemas

Of the trees at the top of a grammar, each is the one of a particular declaration: the first of its name, in
the schema with its namespace, that makes no reference (`exists_first_of_mem_children_tree`). Where no two schemas
have one target namespace, this does not depend on their order, and so only the order of these trees does
(`perm_children_tree`). That holds as far as the schemas are the same ones each time: one that declares the empty prefix
twice may be read in two ways, and then even the same texts have different trees (`tree_depends_on_tables`). -/

namespace XmlDiagnostics

open Schema

/-- What is found first among more is found first among less, if it is there. -/
theorem find?_eq_some_of_imp {α : Type} {p q : α → Bool} {l : List α} {a : α} (h : l.find? p = some a)
    (ha : q a = true) (himp : ∀ b ∈ l, q b = true → p b = true) : l.find? q = some a := by
  obtain ⟨-, before, after, hl, hbefore⟩ := List.find?_eq_some_iff_append.mp h
  refine List.find?_eq_some_iff_append.mpr ⟨ha, before, after, hl, fun b hb => ?_⟩
  have hnot : ¬ p b = true := by simpa using hbefore b hb
  simpa using fun hq => hnot (himp b (hl ▸ List.mem_append_left _ hb) hq)

namespace Grammar

/-! ### The first tree of each name -/

/-- Whether a tree has an element with a name at its top. -/
def IsNamed (name : QName) (tree : Tree GrammarElement) : Bool := tree.value?.any fun element => element.name = name

theorem find?_of_mem_firstPerElement {seen : List QName} {trees : List (Tree GrammarElement)}
    {tree : Tree GrammarElement} {element : GrammarElement} (hmem : tree ∈ firstPerElement seen trees)
    (hvalue : tree.value? = some element) :
    element.name ∉ seen ∧ trees.find? (IsNamed element.name) = some tree := by
  fun_induction firstPerElement seen trees with
  | case1 => cases hmem
  | case2 seen first rest element' hvalue' hseen ih =>
      obtain ⟨hnew, hfind⟩ := ih hmem
      have hother : IsNamed element.name first = false := by
        rw [IsNamed, hvalue', Option.any_some, decide_eq_false_iff_not]
        intro hsame
        exact hnew (hsame ▸ hseen)
      exact ⟨hnew, by rw [List.find?_cons, hother, hfind]⟩
  | case3 seen first rest element' hvalue' hseen ih =>
      rcases List.mem_cons.mp hmem with rfl | hmem
      · obtain rfl := Option.some.inj (hvalue.symm.trans hvalue')
        exact ⟨hseen, List.find?_cons_of_pos (by rw [IsNamed, hvalue]; simp)⟩
      · obtain ⟨hnew, hfind⟩ := ih hmem
        have hother : IsNamed element.name first = false := by
          rw [IsNamed, hvalue', Option.any_some, decide_eq_false_iff_not]
          intro hsame
          exact hnew (hsame ▸ List.mem_cons_self)
        exact ⟨fun h => hnew (List.mem_cons_of_mem _ h), by rw [List.find?_cons, hother, hfind]⟩
  | case4 seen first rest hnone ih =>
      rcases List.mem_cons.mp hmem with rfl | hmem
      · cases hvalue.symm.trans hnone
      · obtain ⟨hnew, hfind⟩ := ih hmem
        have hother : IsNamed element.name first = false := by rw [IsNamed, hnone, Option.any_none]
        exact ⟨hnew, by rw [List.find?_cons, hother, hfind]⟩

theorem exists_mem_firstPerElement {seen : List QName} {trees : List (Tree GrammarElement)}
    {tree : Tree GrammarElement} {element : GrammarElement} (hmem : tree ∈ trees)
    (hvalue : tree.value? = some element) (hseen : element.name ∉ seen) :
    ∃ tree' ∈ firstPerElement seen trees, IsNamed element.name tree' = true := by
  fun_induction firstPerElement seen trees with
  | case1 => cases hmem
  | case2 seen first rest element' hvalue' hseen' ih =>
      rcases List.mem_cons.mp hmem with rfl | hmem
      · obtain rfl := Option.some.inj (hvalue.symm.trans hvalue')
        exact absurd hseen' hseen
      · exact ih hmem hseen
  | case3 seen first rest element' hvalue' hseen' ih =>
      by_cases hsame : element'.name = element.name
      · exact ⟨first, List.mem_cons_self, by rw [IsNamed, hvalue']; simp [hsame]⟩
      · rcases List.mem_cons.mp hmem with rfl | hmem
        · obtain rfl := Option.some.inj (hvalue.symm.trans hvalue')
          exact absurd rfl hsame
        · obtain ⟨tree', htree', hnamed⟩ := ih hmem fun h => (List.mem_cons.mp h).elim (fun h => hsame h.symm) hseen
          exact ⟨tree', List.mem_cons_of_mem _ htree', hnamed⟩
  | case4 seen first rest hnone ih =>
      rcases List.mem_cons.mp hmem with rfl | hmem
      · cases hvalue.symm.trans hnone
      · obtain ⟨tree', htree', hnamed⟩ := ih hmem hseen
        exact ⟨tree', List.mem_cons_of_mem _ htree', hnamed⟩

/-! ### Declarations at the top -/

variable {g : Grammar}

/-- References end at a declaration that makes none: where they begin, or at a definition. -/
theorem target?_cases {n : Nat} {d d' : Declaration} (h : g.target? n d = some d') :
    d'.definition.node.attribute? "ref" = none ∧
      (d' = d ∨ d'.global = true ∧ ∃ name, (name, d'.definition) ∈ g.definitions .element) := by
  induction n generalizing d with
  | zero =>
      cases href : d.definition.node.attribute? "ref" with
      | none =>
          obtain rfl := Option.some.inj ((target?_of_no_reference href 0).symm.trans h)
          exact ⟨href, .inl rfl⟩
      | some reference => cases (target?_zero href).symm.trans h
  | succ n ih =>
      cases href : d.definition.node.attribute? "ref" with
      | none =>
          obtain rfl := Option.some.inj ((target?_of_no_reference href (n + 1)).symm.trans h)
          exact ⟨href, .inl rfl⟩
      | some reference =>
          cases hlookup : g.lookup .element d.definition.schema reference with
          | none => cases (target?_of_lost href hlookup (n + 1)).symm.trans h
          | some definition =>
              rw [target?_succ href hlookup] at h
              obtain ⟨href', rfl | hdefined⟩ := ih h
              · exact ⟨href', .inr ⟨rfl, mem_definitions_of_lookup hlookup⟩⟩
              · exact ⟨href', .inr hdefined⟩

theorem expand_of_target? {d d' : Declaration} (h : g.target? (g.definitions .element).length d = some d')
    (unused : List QName) : g.expand unused d = g.expand unused d' := by
  rw [expand, expand, h, target?_of_no_reference (target?_cases h).1]

theorem exists_expand_of_target? {d d' : Declaration} {name : QName}
    (h : g.target? (g.definitions .element).length d = some d') (hname : g.nameOf? d' = some name)
    (unused : List QName) : ∃ tree, g.expand unused d = some tree ∧ IsNamed name tree = true := by
  by_cases hmem : name ∈ unused
  · exact ⟨_, expand_of_unused h hname hmem, by simp [IsNamed]⟩
  · exact ⟨_, expand_of_used h hname hmem, by simp [IsNamed, Tree.leaf]⟩

theorem exists_target?_of_expand {d : Declaration} {unused : List QName} {tree : Tree GrammarElement}
    {element : GrammarElement} (h : g.expand unused d = some tree) (hvalue : tree.value? = some element) :
    ∃ d', g.target? (g.definitions .element).length d = some d' ∧ g.nameOf? d' = some element.name := by
  unfold expand at h
  split at h
  · cases h
  · rename_i d' htarget
    split at h
    · cases h
    · rename_i name hname
      split at h
      · obtain rfl := Option.some.inj h
        obtain rfl := Option.some.inj hvalue
        exact ⟨d', htarget, hname⟩
      · obtain rfl := Option.some.inj h
        obtain rfl := Option.some.inj hvalue
        exact ⟨d', htarget, hname⟩

/-- A global declaration is named in the target namespace of its schema. -/
theorem nameOf?_global {definition : Definition} {name : QName} :
    g.nameOf? ⟨definition, true⟩ = some name ↔
      ∃ schema, g.schemas[definition.schema]? = some schema ∧ name.namespaceUri = schema.targetNamespace ∧
        definition.node.attribute? "name" = some name.localName := by
  constructor
  · intro h
    obtain ⟨localName, hlocal, h⟩ := Option.bind_eq_some_iff.mp h
    obtain ⟨schema, hschema, h⟩ := Option.bind_eq_some_iff.mp h
    obtain rfl := Option.some.inj h
    exact ⟨schema, hschema, rfl, hlocal⟩
  · rintro ⟨schema, hschema, hspace, hlocal⟩
    cases name
    obtain rfl : _ = schema.targetNamespace := hspace
    simp only [nameOf?, hlocal, hschema]
    rfl

/-- Whether a component declares a name and makes no reference instead. -/
def Declares (localName : String) (n : Node) : Bool :=
  n.attribute? "name" == some localName && (n.attribute? "ref").isNone

/-- The first declaration of a name in a schema, with the tree of it. -/
structure FirstTree (g : Grammar) (name : QName) (tree : Tree GrammarElement) (number : Nat) (schema : Schema)
    (n : Node) : Prop where
  schema_eq : g.schemas[number]? = some schema
  namespace_eq : name.namespaceUri = schema.targetNamespace
  find_eq : (schema.root.childrenOf .element).find? (Declares name.localName) = some n
  expand_eq : g.expand g.names ⟨⟨number, n⟩, true⟩ = some tree

/-- A tree at the top is the one of the first declaration of its name, wherever references to it stand. -/
theorem exists_first_of_mem_children_tree {tree : Tree GrammarElement} (h : tree ∈ g.tree.children) :
    ∃ element number schema n, tree.value? = some element ∧ FirstTree g element.name tree number schema n := by
  obtain ⟨element, hvalue⟩ : ∃ element, tree.value? = some element := by
    obtain ⟨d, hexpand⟩ := exists_expand_of_mem_children_tree h
    exact Option.isSome_iff_exists.mp (isSome_value?_expand g hexpand)
  obtain ⟨-, hfind⟩ := find?_of_mem_firstPerElement h hvalue
  rw [List.find?_flatMap] at hfind
  obtain ⟨⟨schema, number⟩, hmem, hfind⟩ := List.exists_of_findSome?_eq_some hfind
  have hschema : g.schemas[number]? = some schema := List.mk_mem_zipIdx_iff_getElem?.mp hmem
  rw [List.find?_filterMap] at hfind
  obtain ⟨n, hfirst, hexpand⟩ := Option.bind_eq_some_iff.mp hfind
  obtain ⟨⟨definition, global⟩, htarget, hname⟩ := exists_target?_of_expand hexpand hvalue
  obtain ⟨href, hcases⟩ := target?_cases htarget
  refine ⟨element, ?_⟩
  rcases hcases with hsame | ⟨rfl, name', hdefined⟩
  · -- the declaration stands there itself, and an earlier one of its name would have been taken
    obtain ⟨rfl, rfl⟩ := Declaration.mk.inj hsame
    obtain ⟨schema', hschema', hspace, hlocal⟩ := nameOf?_global.mp hname
    obtain rfl := Option.some.inj (hschema.symm.trans hschema')
    refine ⟨number, schema, n, hvalue, hschema, hspace, ?_, hexpand⟩
    refine find?_eq_some_of_imp hfirst (by simp [Declares, hlocal, href]) fun n' _ hdeclares => ?_
    obtain ⟨hlocal', href'⟩ := Bool.and_eq_true_iff.mp hdeclares
    have hname' : g.nameOf? ⟨⟨number, n'⟩, true⟩ = some element.name :=
      nameOf?_global.mpr ⟨schema, hschema, hspace, eq_of_beq hlocal'⟩
    obtain ⟨tree', hexpand', hnamed⟩ :=
      exists_expand_of_target? (target?_of_no_reference (Option.isNone_iff_eq_none.mp href') _) hname' g.names
    rw [hexpand', Option.any_some, hnamed]
  · -- a reference leads to the first component of its name
    obtain ⟨schema', hschema', hspace, hdefinition⟩ := find?_of_mem_definitions hdefined
    obtain ⟨schema'', hschema'', hspace'', hlocal⟩ := nameOf?_global.mp hname
    obtain rfl := Option.some.inj (hschema'.symm.trans hschema'')
    have hsame : name'.localName = element.name.localName :=
      Option.some.inj ((attribute?_of_mem_definitions hdefined).symm.trans hlocal)
    rw [hsame] at hdefinition
    refine ⟨definition.schema, schema', definition.node, hvalue, hschema', hspace'', ?_, ?_⟩
    · refine find?_eq_some_of_imp hdefinition (by simp [Declares, hlocal, href]) fun n' _ hdeclares => ?_
      exact (Bool.and_eq_true_iff.mp hdeclares).1
    · rw [← hexpand]
      exact (expand_of_target? htarget g.names).symm

theorem FirstTree.exists_mem {name : QName} {tree : Tree GrammarElement} {number : Nat} {schema : Schema} {n : Node}
    {element : GrammarElement} (h : FirstTree g name tree number schema n) (hvalue : tree.value? = some element) :
    ∃ tree' ∈ g.tree.children, IsNamed element.name tree' = true := by
  refine exists_mem_firstPerElement (List.mem_flatMap.mpr
    ⟨(schema, number), List.mk_mem_zipIdx_iff_getElem?.mpr h.schema_eq, ?_⟩) hvalue List.not_mem_nil
  exact List.mem_filterMap.mpr ⟨n, List.mem_of_find?_eq_some h.find_eq, h.expand_eq⟩

end Grammar

namespace Renumbering

variable {g g' : Grammar} (r : Renumbering g g') (h : g.DistinctTargets) (h' : g'.DistinctTargets)

include h h' in
theorem firstTree {name : QName} {tree : Tree GrammarElement} {number : Nat} {schema : Schema} {n : Node}
    (hfirst : Grammar.FirstTree g name tree number schema n) :
    Grammar.FirstTree g' name tree (r.number number) schema n := by
  obtain ⟨hschema, hspace, hfind, hexpand⟩ := hfirst
  exact ⟨(r.schema_eq number).trans hschema, hspace, hfind, (r.expand_eq h h' r.names_perm _).trans hexpand⟩

include r h h' in
theorem children_tree_subset : g.tree.children ⊆ g'.tree.children := by
  intro tree hmem
  obtain ⟨element, number, schema, n, hvalue, hfirst⟩ := Grammar.exists_first_of_mem_children_tree hmem
  obtain ⟨tree', hmem', hnamed⟩ := (r.firstTree h h' hfirst).exists_mem hvalue
  obtain ⟨element', number', schema', n', hvalue', hfirst'⟩ := Grammar.exists_first_of_mem_children_tree hmem'
  rw [Grammar.IsNamed, hvalue', Option.any_some, decide_eq_true_eq] at hnamed
  rw [hnamed] at hfirst'
  -- the name tells the namespace, this the schema, and there the declaration is the first with the local name
  have hsame := hfirst.namespace_eq.symm.trans hfirst'.namespace_eq
  have hschema := (r.firstTree h h' hfirst).schema_eq
  obtain rfl := h'.eq_of_targetNamespace_eq hschema hfirst'.schema_eq hsame
  obtain rfl := Option.some.inj (hschema.symm.trans hfirst'.schema_eq)
  obtain rfl := Option.some.inj (hfirst.find_eq.symm.trans hfirst'.find_eq)
  obtain rfl := Option.some.inj ((r.firstTree h h' hfirst).expand_eq.symm.trans hfirst'.expand_eq)
  exact hmem'

end Renumbering

namespace Grammar

/-- **The order of schemas does not matter** if their target namespaces are different: the trees at the top are the same but
for their order. -/
theorem perm_children_tree_of_perm {g g' : Grammar} (hperm : g.schemas.Perm g'.schemas) (hdistinct : g.DistinctTargets) :
    g.tree.children.Perm g'.tree.children := by
  obtain ⟨σ, hσ⟩ := exists_getElem?_eq_of_perm hperm
  let r : Renumbering g g' := ⟨σ, hσ⟩
  have hdistinct' : g'.DistinctTargets := (hperm.map Schema.targetNamespace).nodup_iff.mp hdistinct
  have hnodup (g : Grammar) : g.tree.children.Nodup := (distinctIn_children_tree g).1.of_map
  refine (List.perm_ext_iff_of_nodup (hnodup g) (hnodup g')).mpr fun tree => ?_
  exact ⟨fun h => r.children_tree_subset hdistinct hdistinct' h, fun h => r.symm.children_tree_subset hdistinct' hdistinct h⟩

theorem not_transGen_refersTo_self_of_perm {g g' : Grammar} (hperm : g.schemas.Perm g'.schemas)
    (hdistinct : g.DistinctTargets) (hacyclic : ∀ o : Occurrence g, ¬ Relation.TransGen RefersTo o o) :
    ∀ o : Occurrence g', ¬ Relation.TransGen RefersTo o o := by
  obtain ⟨σ, hσ⟩ := exists_getElem?_eq_of_perm hperm
  let r : Renumbering g g' := ⟨σ, hσ⟩
  exact r.not_transGen_refersTo_self hdistinct ((hperm.map Schema.targetNamespace).nodup_iff.mp hdistinct) hacyclic

/-- **Schemas in any order, tables in any order.** Unless references of global elements go in a circle, building the
grammar of schemas with different target namespaces, none of which declares the empty prefix twice, ends, in whatever
order they come and their tables list, and the trees at the top are the same but for their order. Texts that are no
schemas may be among them. -/
theorem perm_children_tree {texts texts' : List (List Char)} (hperm : texts.Perm texts')
    (honce : ∀ schema ∈ (Grammar.read texts).schemas, ¬ schema.root.DeclaresTwice)
    (hdistinct : (Grammar.read texts).DistinctTargets)
    (hacyclic : ∀ o : Occurrence (Grammar.read texts), ¬ Relation.TransGen RefersTo o o)
    (orders orders' : Nat → TableOrder) :
    ∃ trees trees', trees.Perm trees' ∧
      (Grammar.read texts orders).tree = .node none trees ∧
      (∀ tree, Builds (Grammar.read texts orders) tree ↔ tree = .node none trees) ∧
      (Grammar.read texts' orders').tree = .node none trees' ∧
      (∀ tree, Builds (Grammar.read texts' orders') tree ↔ tree = .node none trees') := by
  have hschemas : (Grammar.read texts).schemas.Perm (Grammar.read texts').schemas := by
    rw [schemas_read, schemas_read]
    exact hperm.filterMap _
  have honce' : ∀ schema ∈ (Grammar.read texts').schemas, ¬ schema.root.DeclaresTwice :=
    fun schema hmem => honce schema (hschemas.mem_iff.mpr hmem)
  rw [read_eq_of_not_declaresTwice honce, read_eq_of_not_declaresTwice honce']
  have hacyclic' := not_transGen_refersTo_self_of_perm hschemas hdistinct hacyclic
  exact ⟨_, _, perm_children_tree_of_perm hschemas hdistinct, rfl, fun _ => builds_iff hacyclic, rfl,
    fun _ => builds_iff hacyclic'⟩

/-- An order has the type of lines that another schema defines. -/
def orderSchema : List Char :=
  "<schema targetNamespace='o' xmlns:p='p'><element name='order' type='p:Line'/></schema>".toList

/-- Lines go back to orders by a name without namespace, which is known by its local part alone. -/
def partSchema : List Char :=
  ("<schema targetNamespace='p'><complexType name='Line'><element ref='order'/></complexType>" ++
    "<element name='part'/></schema>").toList

theorem perm_children_tree_orders :
    let texts := [orderSchema, partSchema]
    let texts' := [partSchema, orderSchema]
    let orders : Nat → TableOrder := fun _ => .text
    let orders' : Nat → TableOrder := fun _ => .backwards
    texts.Perm texts' ∧ (Grammar.read texts).schemas.map Schema.targetNamespace = ["o", "p"] ∧
    (∀ schema ∈ (Grammar.read texts).schemas, ¬ schema.root.DeclaresTwice) ∧
    (Grammar.read texts).DistinctTargets ∧
    (∀ o : Occurrence (Grammar.read texts), ¬ Relation.TransGen RefersTo o o) ∧
    ∃ trees trees', trees.Perm trees' ∧
      (Grammar.read texts orders).tree = .node none trees ∧
      (∀ tree, Builds (Grammar.read texts orders) tree ↔ tree = .node none trees) ∧
      (Grammar.read texts' orders').tree = .node none trees' ∧
      (∀ tree, Builds (Grammar.read texts' orders') tree ↔ tree = .node none trees') := by
  intro texts texts' orders orders'
  have hperm : texts.Perm texts' := List.Perm.swap _ _ _
  have hread : (Grammar.read texts).schemas.map Schema.targetNamespace = ["o", "p"] ∧
      (∀ schema ∈ (Grammar.read texts).schemas, "xmlns" ∉ schema.root.attributes.map Prod.fst) ∧
      ∀ schema ∈ (Grammar.read texts).schemas, ∀ n ∈ schema.root.childrenOf .element, n.attribute? "ref" = none := by
    decide +kernel
  obtain ⟨htargets, hkeys, href⟩ := hread
  have honce : ∀ schema ∈ (Grammar.read texts).schemas, ¬ schema.root.DeclaresTwice :=
    fun schema hmem ⟨_, _, huri, _⟩ => hkeys schema hmem (List.mem_map_of_mem huri)
  have hdistinct : (Grammar.read texts).DistinctTargets := by
    rw [DistinctTargets, htargets]
    decide
  have hacyclic : ∀ o : Occurrence (Grammar.read texts), ¬ Relation.TransGen RefersTo o o := by
    refine not_transGen_refersTo_self fun o hglobal => ?_
    obtain ⟨name, hindexed⟩ := hglobal.indexed
    obtain ⟨schema, hschema, -, hfind⟩ := find?_of_mem_definitions hindexed
    exact href schema (List.mem_of_getElem? hschema) _ (List.mem_of_find?_eq_some hfind)
  exact ⟨hperm, htargets, honce, hdistinct, hacyclic, perm_children_tree hperm honce hdistinct hacyclic orders orders'⟩

/-- The type of the order is one of `u` or of `v`. -/
def ambiguousSchema : List Char :=
  "<schema targetNamespace='o' xmlns='u' xmlns:='v'><element name='order' type='Line'/></schema>".toList

/-- Lines with a price. -/
def lineSchema (target price : String) : List Char :=
  ("<schema targetNamespace='" ++ target ++ "'><complexType name='Line'><attribute name='" ++ price ++
    "'/></complexType></schema>").toList

/-- The type of lines with a price. -/
def lineType (price : String) : Node := .node .complexType [("name", "Line")] [.node .attributeUse [("name", price)] []]

/-- What is read from these schemas, with the declarations as the table of the first one lists them. -/
def ambiguousGrammar (scope : Document.Scope) : Grammar :=
  ⟨[⟨"o", false, ⟨fun space => scope.lookup space⟩,
      .node .schema [("targetNamespace", "o"), ("xmlns", "u"), ("xmlns:", "v")]
        [.node .element [("name", "order"), ("type", "Line")] []]⟩,
    ⟨"u", false, ⟨fun _ => none⟩, .node .schema [("targetNamespace", "u")] [lineType "net"]⟩,
    ⟨"v", false, ⟨fun _ => none⟩, .node .schema [("targetNamespace", "v")] [lineType "gross"]⟩]⟩

/-- The order has the price of the lines that its type means. -/
theorem tree_ambiguousGrammar {scope : Document.Scope} {line : Occurrence (ambiguousGrammar scope)} {price : String}
    (hmeans : (ambiguousGrammar scope).Means .type 0 "Line" line) (hline : line.node = lineType price) :
    (ambiguousGrammar scope).tree = .node none [.leaf ⟨⟨"o", "order"⟩, .ofList [price]⟩] := by
  let g := ambiguousGrammar scope
  let d : Declaration := ⟨⟨0, .node .element [("name", "order"), ("type", "Line")] []⟩, true⟩
  have hfresh : keyOf .type line.definition ∈ g.keys := hmeans.isGlobal.keyOf_mem_keys (by decide)
  have hcontent : g.content d.definition = ⟨.ofList [price], []⟩ := by
    show g.gather g.keys [.follow .type 0 "Line"] = _
    rw [gather_follow_of_fresh hmeans.lookup_eq hfresh, tasksInside, show line.definition.node = lineType price from hline]
    show g.gather _ [.visit ⟨_, .node .attributeUse [("name", price)] []⟩] = _
    rw [gather, gather]
    rfl
  have htarget : ∀ n, g.target? n d = some d := target?_of_no_reference rfl
  have hname : g.nameOf? d = some ⟨"o", "order"⟩ := rfl
  refine tree_eq_of_expand (n := d.definition) rfl ?_
  rw [expand_of_empty (htarget _) hname (congrArg Content.particles hcontent), hcontent]

set_option maxRecDepth 8192 in
/-- Whether the order has net or gross lines depends on which of the two declarations comes last in a table. -/
theorem tree_depends_on_tables :
    let texts := [ambiguousSchema, lineSchema "u" "net", lineSchema "v" "gross"]
    let g := Grammar.read texts fun _ => .text
    let g' := Grammar.read texts fun _ => .backwards
    g.schemas.map Schema.targetNamespace = ["o", "u", "v"] ∧
      g.DistinctTargets ∧ (∀ o : Occurrence g, ¬ Relation.TransGen RefersTo o o) ∧
      g.tree.children.map Tree.value? = [some ⟨⟨"o", "order"⟩, .ofList ["gross"]⟩] ∧
      g'.tree.children.map Tree.value? = [some ⟨⟨"o", "order"⟩, .ofList ["net"]⟩] ∧
      ¬ g.tree.children.Perm g'.tree.children := by
  intro texts g g'
  have hread : g = ambiguousGrammar [([], "v"), ([], "u")] := rfl
  have hread' : g' = ambiguousGrammar [([], "u"), ([], "v")] := rfl
  have htargets : g.schemas.map Schema.targetNamespace = ["o", "u", "v"] := by decide +kernel
  have hdistinct : g.DistinctTargets := by
    rw [DistinctTargets, htargets]
    decide
  have hacyclic : ∀ o : Occurrence g, ¬ Relation.TransGen RefersTo o o := by
    refine not_transGen_refersTo_self fun o hglobal => ?_
    obtain ⟨name, hindexed⟩ := hglobal.indexed
    have href : ∀ entry ∈ g.definitions .element, entry.2.node.attribute? "ref" = none := by decide +kernel
    exact href _ hindexed
  have hgross : g.tree.children.map Tree.value? = [some ⟨⟨"o", "order"⟩, .ofList ["gross"]⟩] := by
    have hmeans : (ambiguousGrammar [([], "v"), ([], "u")]).Means .type 0 "Line" ⟨2, [0], lineType "gross", rfl⟩ :=
      ⟨lookup_of_definition? rfl (by decide) rfl, ⟨⟨"v", "Line"⟩, mem_definitions_iff_definition?.mpr rfl⟩, 0, rfl, rfl⟩
    rw [hread, tree_ambiguousGrammar hmeans rfl]
    rfl
  have hnet : g'.tree.children.map Tree.value? = [some ⟨⟨"o", "order"⟩, .ofList ["net"]⟩] := by
    have hmeans : (ambiguousGrammar [([], "u"), ([], "v")]).Means .type 0 "Line" ⟨1, [0], lineType "net", rfl⟩ :=
      ⟨lookup_of_definition? rfl (by decide) rfl, ⟨⟨"u", "Line"⟩, mem_definitions_iff_definition?.mpr rfl⟩, 0, rfl, rfl⟩
    rw [hread', tree_ambiguousGrammar hmeans rfl]
    rfl
  refine ⟨htargets, hdistinct, hacyclic, hgross, hnet, fun hperm => ?_⟩
  have hsame := hperm.map Tree.value?
  rw [hgross, hnet, List.singleton_perm_singleton] at hsame
  exact absurd hsame (by decide)

end Grammar

end XmlDiagnostics
