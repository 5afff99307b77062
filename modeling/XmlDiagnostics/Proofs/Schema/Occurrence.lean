import XmlDiagnostics.Proofs.Lookup
import XmlDiagnostics.Schema.Grammar

/-! # Where components occur

Two components of a schema can be equal and yet stand in different places. An `Occurrence` is a component with its
place: the number of its schema and the numbers of the children on the way down from the root. A look-up in a grammar
means one occurrence (`exists_means`, `Means.unique`), the first of its sort and name in its schema, and
so the key of a definition tells it from all others (`IsGlobal.eq_of_keyOf_eq`). -/

namespace XmlDiagnostics

open Schema

/-! ### Occurrences -/

/-- The component that one gets to from a component by going to children with the given numbers. -/
def Schema.Node.at? (n : Node) : List Nat → Option Node
  | [] => some n
  | i :: path => n.children[i]?.bind fun child => child.at? path

theorem Schema.Node.at?_append (n : Node) (path path' : List Nat) :
    n.at? (path ++ path') = (n.at? path).bind fun n => n.at? path' := by
  induction path generalizing n with
  | nil => rfl
  | cons i path ih =>
      rw [List.cons_append, Node.at?, Node.at?, Option.bind_assoc]
      exact congrArg _ (funext fun child => ih child)

/-- The component of a grammar at a place. -/
def Grammar.node? (g : Grammar) (number : Nat) (path : List Nat) : Option Node :=
  g.schemas[number]?.bind fun schema => schema.root.at? path

/-- A component with its place in a grammar. -/
structure Occurrence (g : Grammar) where
  number : Nat
  path : List Nat
  node : Node
  node_eq : g.node? number path = some node

namespace Occurrence

variable {g : Grammar}

/-- The place determines the occurrence. -/
theorem ext {o o' : Occurrence g} (hnumber : o.number = o'.number) (hpath : o.path = o'.path) : o = o' := by
  obtain ⟨number, path, node, hnode⟩ := o
  obtain ⟨number', path', node', hnode'⟩ := o'
  obtain rfl : number = number' := hnumber
  obtain rfl : path = path' := hpath
  obtain rfl := Option.some.inj (hnode.symm.trans hnode')
  rfl

/-- The component with the number of its schema, as grammars handle it. -/
def definition (o : Occurrence g) : Definition := ⟨o.number, o.node⟩

@[simp] theorem definition_node (o : Occurrence g) : o.definition.node = o.node := rfl

theorem node?_child (o : Occurrence g) (i : Nat) : g.node? o.number (o.path ++ [i]) = o.node.children[i]? := by
  have hpath : ∀ schema : Schema,
      schema.root.at? (o.path ++ [i]) = (schema.root.at? o.path).bind fun n => n.children[i]? := by
    intro schema
    rw [Node.at?_append]
    refine congrArg _ (funext fun n => ?_)
    rw [Node.at?]
    cases n.children[i]? <;> rfl
  have hnode := o.node_eq
  unfold Grammar.node? at hnode ⊢
  obtain ⟨schema, hschema, hroot⟩ := Option.bind_eq_some_iff.mp hnode
  rw [hschema, Option.bind_some, hpath, hroot, Option.bind_some]

/-- The occurrences of the children. -/
def inside (o : Occurrence g) : List (Occurrence g) :=
  (List.finRange o.node.children.length).map fun i =>
    ⟨o.number, o.path ++ [i.val], o.node.children[i], by rw [node?_child]; exact List.getElem?_eq_getElem i.isLt⟩

theorem mem_inside {o child : Occurrence g} :
    child ∈ o.inside ↔ child.number = o.number ∧ ∃ i, child.path = o.path ++ [i] := by
  constructor
  · intro h
    obtain ⟨i, -, rfl⟩ := List.mem_map.mp h
    exact ⟨rfl, i.val, rfl⟩
  · rintro ⟨hnumber, i, hpath⟩
    have hchild : o.node.children[i]? = some child.node := by
      rw [← o.node?_child, ← hnumber, ← hpath]
      exact child.node_eq
    obtain ⟨hlt, -⟩ := List.getElem?_eq_some_iff.mp hchild
    refine List.mem_map.mpr ⟨⟨i, hlt⟩, List.mem_finRange _, ext hnumber.symm hpath.symm⟩

theorem nodup_inside (o : Occurrence g) : o.inside.Nodup := by
  refine List.Nodup.map (fun i j h => ?_) (List.nodup_finRange _)
  have hpath := congrArg path h
  exact Fin.ext (by simpa using hpath)

/-- The occurrences of the children are the children, with the number of the schema. -/
theorem map_definition_inside (o : Occurrence g) :
    o.inside.map definition = o.node.children.map fun n => (⟨o.number, n⟩ : Definition) := by
  rw [inside, List.map_map]
  refine List.ext_getElem (by simp) fun i hi hi' => ?_
  simp [definition]

end Occurrence

/-! ### Definitions -/

theorem Schema.GlobalKind.eq_of_kind_eq {sort sort' : GlobalKind} (h : sort.kind = sort'.kind) : sort = sort' := by
  cases sort <;> cases sort' <;> first | rfl | cases h

theorem Schema.lookup_of_mem_firstPerName {seen : List QName} {entries : List (QName × Definition)}
    {entry : QName × Definition} (h : entry ∈ firstPerName seen entries) :
    entry.1 ∉ seen ∧ entries.lookup entry.1 = some entry.2 := by
  fun_induction firstPerName seen entries with
  | case1 => cases h
  | case2 seen first rest hmem ih =>
      obtain ⟨hseen, hlookup⟩ := ih h
      have hne : (entry.1 == first.1) = false := beq_false_of_ne fun heq => hseen (heq ▸ hmem)
      exact ⟨hseen, by rw [List.lookup_cons, hne, hlookup]⟩
  | case3 seen first rest hmem ih =>
      rcases List.mem_cons.mp h with rfl | h
      · exact ⟨hmem, by rw [List.lookup_cons, beq_self_eq_true]⟩
      · obtain ⟨hseen, hlookup⟩ := ih h
        have hne : (entry.1 == first.1) = false := beq_false_of_ne fun heq => hseen (heq ▸ List.mem_cons_self)
        exact ⟨fun hmem => hseen (List.mem_cons_of_mem _ hmem), by rw [List.lookup_cons, hne, hlookup]⟩

theorem Schema.nodup_firstPerName (seen : List QName) (entries : List (QName × Definition)) :
    ((firstPerName seen entries).map Prod.fst).Nodup := by
  fun_induction firstPerName seen entries with
  | case1 => exact List.nodup_nil
  | case2 seen first rest hmem ih => exact ih
  | case3 seen first rest hmem ih =>
      rw [List.map_cons, List.nodup_cons]
      refine ⟨fun hname => ?_, ih⟩
      obtain ⟨entry, hentry, heq⟩ := List.mem_map.mp hname
      exact (lookup_of_mem_firstPerName hentry).1 (heq ▸ List.mem_cons_self)

theorem Schema.lookup_globals (sort : GlobalKind) (number : Nat) (schema : Schema) (name : QName) :
    (globals sort number schema).lookup name =
      ((schema.root.childrenOf sort.kind).find? fun n =>
        (n.attribute? "name").map (⟨schema.targetNamespace, ·⟩) == some name).map (⟨number, ·⟩) := by
  have hlookup := lookup_filterMap (fun n : Node => (n.attribute? "name").map (QName.mk schema.targetNamespace))
    (Definition.mk number) name (schema.root.childrenOf sort.kind)
  simp only [Option.map_map] at hlookup
  exact hlookup

namespace Grammar

theorem nodup_names_definitions (g : Grammar) (sort : GlobalKind) : ((g.definitions sort).map Prod.fst).Nodup := by
  rw [definitions]
  exact ((List.mergeSort_perm _ _).map Prod.fst).nodup_iff.mpr (nodup_firstPerName _ _)

/-- The number of the child of the outermost component that a key means: the first of the sort and name. -/
def position? (g : Grammar) (key : Key) : Option Nat :=
  g.schemas[key.schema]?.bind fun schema =>
    schema.root.children.findIdx? fun n => decide (n.kind = key.sort.kind) && n.attribute? "name" == some key.name

variable {g : Grammar} {sort : GlobalKind} {name : QName} {d : Definition}

/-- A definition is the first component of its sort and name in its schema. -/
theorem find?_of_mem_definitions (h : (name, d) ∈ g.definitions sort) :
    ∃ schema, g.schemas[d.schema]? = some schema ∧ name.namespaceUri = schema.targetNamespace ∧
      (schema.root.childrenOf sort.kind).find? (fun n => n.attribute? "name" == some name.localName) = some d.node := by
  rw [definitions, List.mem_mergeSort] at h
  obtain ⟨-, hlookup⟩ := lookup_of_mem_firstPerName h
  rw [lookup_flatMap, List.findSome?_eq_some_iff] at hlookup
  obtain ⟨before, ⟨schema, number⟩, after, hzip, hfound, -⟩ := hlookup
  rw [lookup_globals] at hfound
  obtain ⟨n, hfind, rfl⟩ := Option.map_eq_some_iff.mp hfound
  have hschema : g.schemas[number]? = some schema := by
    rw [← List.mk_mem_zipIdx_iff_getElem?, hzip]
    exact List.mem_append_right _ List.mem_cons_self
  have hname := List.find?_some hfind
  obtain ⟨localName, -, rfl⟩ := Option.map_eq_some_iff.mp (eq_of_beq hname)
  refine ⟨schema, hschema, rfl, ?_⟩
  rw [← hfind]
  refine congrArg (fun p => List.find? p (schema.root.childrenOf sort.kind)) (funext fun n' => ?_)
  cases n'.attribute? "name" <;> simp

theorem attribute?_of_mem_definitions (h : (name, d) ∈ g.definitions sort) :
    d.node.attribute? "name" = some name.localName := by
  obtain ⟨schema, -, -, hfind⟩ := find?_of_mem_definitions h
  have hname := List.find?_some hfind
  exact eq_of_beq hname

theorem kind_of_mem_definitions (h : (name, d) ∈ g.definitions sort) : d.node.kind = sort.kind := by
  obtain ⟨schema, -, -, hfind⟩ := find?_of_mem_definitions h
  exact of_decide_eq_true (List.mem_filter.mp (List.mem_of_find?_eq_some hfind)).2

theorem keyOf_of_mem_definitions (h : (name, d) ∈ g.definitions sort) :
    keyOf sort d = ⟨sort, d.schema, name.localName⟩ := by
  rw [keyOf, attribute?_of_mem_definitions h, Option.getD_some]

/-- No two global components have the same key. -/
theorem nodup_keys (g : Grammar) : g.keys.Nodup := by
  rw [keys, List.nodup_flatMap]
  constructor
  · intro sort _
    refine ((nodup_names_definitions g sort).of_map _).map_on ?_
    rintro ⟨name, d⟩ h ⟨name', d'⟩ h' heq
    rw [keyOf_of_mem_definitions h, keyOf_of_mem_definitions h'] at heq
    injection heq with _ hnumber hlocal
    obtain ⟨schema, hschema, hspace, -⟩ := find?_of_mem_definitions h
    obtain ⟨schema', hschema', hspace', -⟩ := find?_of_mem_definitions h'
    rw [hnumber, hschema'] at hschema
    obtain rfl := Option.some.inj hschema
    have hname : name = name' := by
      cases name
      cases name'
      exact congrArg₂ QName.mk (hspace.trans hspace'.symm) hlocal
    exact List.inj_on_of_nodup_map (nodup_names_definitions g sort) h h' hname
  · have hsorts : ([.type, .group, .attributeGroup] : List GlobalKind).Pairwise (· ≠ ·) := by decide
    refine hsorts.imp fun {sort sort'} hne key hkey hkey' => ?_
    obtain ⟨entry, -, rfl⟩ := List.mem_map.mp hkey
    obtain ⟨entry', -, heq⟩ := List.mem_map.mp hkey'
    exact hne (congrArg Key.sort heq).symm

/-- What a look-up finds is among the definitions. -/
theorem mem_definitions_of_lookup {number : Nat} {reference : String} (h : g.lookup sort number reference = some d) :
    ∃ name, (name, d) ∈ g.definitions sort := by
  obtain ⟨schema, -, hfound⟩ := Option.bind_eq_some_iff.mp h
  simp only at hfound
  split at hfound
  · cases hfound
  · split at hfound
    · rename_i hlookup
      obtain rfl := Option.some.inj hfound
      exact ⟨_, mem_of_lookup_eq_some hlookup⟩
    · have hmem : d ∈ ((g.definitions sort).filter fun entry =>
          decide (entry.1.localName = String.ofList (Document.splitName reference.toList).2)).map Prod.snd := by
        rcases Option.or_eq_some_iff.mp hfound with hfind | ⟨-, hhead⟩
        · exact List.mem_of_find?_eq_some hfind
        · exact List.mem_of_head? hhead
      obtain ⟨⟨name, d⟩, hentry, rfl⟩ := List.mem_map.mp hmem
      exact ⟨name, (List.mem_filter.mp hentry).1⟩

end Grammar

/-! ### Global occurrences -/

namespace Occurrence

variable {g : Grammar}

/-- The occurrence of a definition: the first component of its sort and name in its schema. -/
structure IsGlobal (sort : GlobalKind) (o : Occurrence g) : Prop where
  indexed : ∃ name, (name, o.definition) ∈ g.definitions sort
  first : ∃ i, g.position? (Grammar.keyOf sort o.definition) = some i ∧ o.path = [i]

/-- The key tells a global occurrence from all others. -/
theorem IsGlobal.eq_of_keyOf_eq {sort sort' : GlobalKind} {o o' : Occurrence g} (h : o.IsGlobal sort)
    (h' : o'.IsGlobal sort') (hkey : Grammar.keyOf sort o.definition = Grammar.keyOf sort' o'.definition) : o = o' := by
  obtain ⟨i, hi, hpath⟩ := h.first
  obtain ⟨i', hi', hpath'⟩ := h'.first
  rw [hkey, hi'] at hi
  obtain rfl := Option.some.inj hi
  exact ext (congrArg Key.schema hkey) (hpath.trans hpath'.symm)

theorem IsGlobal.keyOf_mem_keys {sort : GlobalKind} {o : Occurrence g} (h : o.IsGlobal sort) (hsort : sort ≠ .element) :
    Grammar.keyOf sort o.definition ∈ g.keys := by
  obtain ⟨name, hindexed⟩ := h.indexed
  refine List.mem_flatMap.mpr ⟨sort, ?_, List.mem_map.mpr ⟨_, hindexed, rfl⟩⟩
  cases sort <;> simp at hsort ⊢

theorem IsGlobal.kind_eq {sort : GlobalKind} {o : Occurrence g} (h : o.IsGlobal sort) : o.node.kind = sort.kind := by
  obtain ⟨name, hindexed⟩ := h.indexed
  exact Grammar.kind_of_mem_definitions hindexed

theorem IsGlobal.sort_eq {sort sort' : GlobalKind} {o : Occurrence g} (h : o.IsGlobal sort) (h' : o.IsGlobal sort') :
    sort = sort' := by
  exact GlobalKind.eq_of_kind_eq (h.kind_eq.symm.trans h'.kind_eq)

theorem IsGlobal.path_length {sort : GlobalKind} {o : Occurrence g} (h : o.IsGlobal sort) : o.path.length = 1 := by
  obtain ⟨i, -, hpath⟩ := h.first
  rw [hpath, List.length_singleton]

/-- Every definition occurs. -/
theorem exists_isGlobal {sort : GlobalKind} {name : QName} {d : Definition} (h : (name, d) ∈ g.definitions sort) :
    ∃ o : Occurrence g, o.definition = d ∧ o.IsGlobal sort := by
  obtain ⟨schema, hschema, -, hfind⟩ := Grammar.find?_of_mem_definitions h
  rw [Node.childrenOf, List.find?_filter, List.find?_eq_some_iff_getElem] at hfind
  obtain ⟨hfound, i, hlt, hi, hbefore⟩ := hfind
  have hnode : g.node? d.schema [i] = some d.node := by
    rw [Grammar.node?, hschema, Option.bind_some, Node.at?, List.getElem?_eq_getElem hlt, hi]
    rfl
  refine ⟨⟨d.schema, [i], d.node, hnode⟩, rfl, ⟨name, h⟩, i, ?_, rfl⟩
  have hkey : Grammar.keyOf sort d = ⟨sort, d.schema, name.localName⟩ := Grammar.keyOf_of_mem_definitions h
  change g.position? (Grammar.keyOf sort d) = some i
  rw [hkey, Grammar.position?, hschema, Option.bind_some, List.findIdx?_eq_some_iff_getElem]
  refine ⟨hlt, ?_, fun j hj => ?_⟩
  · rw [hi]
    simpa using hfound
  · simpa [or_iff_not_imp_left] using hbefore j hj

end Occurrence

/-! ### Meanings of references -/

namespace Grammar

variable {g : Grammar}

/-- A reference in a schema means an occurrence: the one of the definition that a look-up finds. -/
structure Means (g : Grammar) (sort : GlobalKind) (number : Nat) (reference : String) (o : Occurrence g) : Prop where
  lookup_eq : g.lookup sort number reference = some o.definition
  isGlobal : o.IsGlobal sort

theorem exists_means {sort : GlobalKind} {number : Nat} {reference : String} {d : Definition}
    (h : g.lookup sort number reference = some d) :
    ∃ o : Occurrence g, o.definition = d ∧ g.Means sort number reference o := by
  obtain ⟨name, hmem⟩ := mem_definitions_of_lookup h
  obtain ⟨o, rfl, hglobal⟩ := Occurrence.exists_isGlobal hmem
  exact ⟨o, rfl, h, hglobal⟩

theorem Means.unique {sort : GlobalKind} {number : Nat} {reference : String} {o o' : Occurrence g}
    (h : g.Means sort number reference o) (h' : g.Means sort number reference o') : o = o' := by
  have hsame := Option.some.inj (h.lookup_eq.symm.trans h'.lookup_eq)
  exact h.isGlobal.eq_of_keyOf_eq h'.isGlobal (by rw [hsame])

end Grammar

end XmlDiagnostics
