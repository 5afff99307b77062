import XmlDiagnostics.Proofs.Schema.Occurrence

/-! # Definitions of names

A name is defined by the first component of its sort in the schemas for its namespace (`Grammar.definition?`,
`lookup_definitions`). A reference means the definition of its name, or else a component with its local name, taken from
any namespace (`lookup_of_splitName`). -/

namespace XmlDiagnostics

open Schema

/-- The first component of a sort with a name, if the schema is one for the namespace of the name. -/
def Schema.definition? (schema : Schema) (sort : GlobalKind) (name : QName) : Option Node :=
  if schema.targetNamespace = name.namespaceUri then
    (schema.root.childrenOf sort.kind).find? fun n => n.attribute? "name" = some name.localName
  else none

namespace Grammar

variable {g : Grammar} {sort : GlobalKind} {number : Nat} {reference : String}

/-- The definition of a name: the one in the first schema that defines it. -/
def definition? (g : Grammar) (sort : GlobalKind) (name : QName) : Option Definition :=
  g.schemas.zipIdx.findSome? fun (schema, number) => (schema.definition? sort name).map (⟨number, ·⟩)

theorem lookup_globals_eq (sort : GlobalKind) (number : Nat) (schema : Schema) (name : QName) :
    (globals sort number schema).lookup name = (schema.definition? sort name).map (⟨number, ·⟩) := by
  rw [lookup_globals, Schema.definition?]
  obtain ⟨uri, localName⟩ := name
  by_cases huri : schema.targetNamespace = uri
  · rw [if_pos huri, huri]
    refine congrArg (fun p => (List.find? p (schema.root.childrenOf sort.kind)).map _) (funext fun n => ?_)
    rw [Bool.eq_iff_iff]
    cases n.attribute? "name" <;> simp
  · rw [if_neg huri, List.find?_eq_none.mpr]
    intro n _
    cases n.attribute? "name" <;> simp [huri]

theorem lookup_firstPerName (seen : List QName) (entries : List (QName × Definition)) (name : QName) :
    (firstPerName seen entries).lookup name = if name ∈ seen then none else entries.lookup name := by
  fun_induction firstPerName seen entries with
  | case1 => simp
  | case2 seen first rest hmem ih =>
      obtain ⟨key, d⟩ := first
      rw [ih]
      by_cases hname : name = key
      · rw [hname, if_pos hmem, if_pos hmem]
      · rw [List.lookup_cons, beq_false_of_ne hname]
  | case3 seen first rest hmem ih =>
      obtain ⟨key, d⟩ := first
      rw [List.lookup_cons, List.lookup_cons, ih]
      by_cases hname : name = key
      · rw [hname, beq_self_eq_true, if_neg hmem]
      · rw [beq_false_of_ne hname]
        simp [hname]

/-- Looking up a name finds its definition. -/
theorem lookup_definitions (g : Grammar) (sort : GlobalKind) (name : QName) :
    (g.definitions sort).lookup name = g.definition? sort name := by
  have hperm := lookup_of_perm (List.mergeSort_perm _ fun a b => !decide (b.1 < a.1)).symm
    (nodup_firstPerName [] (g.schemas.zipIdx.flatMap fun (schema, number) => globals sort number schema)) name
  rw [definitions, ← hperm, lookup_firstPerName, if_neg List.not_mem_nil, lookup_flatMap]
  simp only [lookup_globals_eq]
  rfl

theorem mem_definitions_iff_definition? {name : QName} {d : Definition} :
    (name, d) ∈ g.definitions sort ↔ g.definition? sort name = some d := by
  rw [← lookup_definitions, lookup_eq_some_iff_mem (nodup_names_definitions g sort)]

/-! ### What references mean -/

/-- What is taken for a local name: a component of the schema that refers to it if possible. -/
def namesake? (g : Grammar) (sort : GlobalKind) (number : Nat) (localName : String) : Option Definition :=
  let candidates := ((g.definitions sort).filter fun entry => entry.1.localName = localName).map Prod.snd
  (candidates.find? fun d => d.schema = number).or candidates.head?

/-- What is taken for a local name defines it in some namespace. -/
theorem exists_of_namesake?_eq_some {localName : String} {d : Definition}
    (h : g.namesake? sort number localName = some d) : ∃ uri, g.definition? sort ⟨uri, localName⟩ = some d := by
  have hmem : d ∈ ((g.definitions sort).filter fun entry => entry.1.localName = localName).map Prod.snd := by
    rcases Option.or_eq_some_iff.mp h with hfind | ⟨-, hhead⟩
    · exact List.mem_of_find?_eq_some hfind
    · exact List.mem_of_head? hhead
  obtain ⟨⟨⟨uri, other⟩, d⟩, hfiltered, rfl⟩ := List.mem_map.mp hmem
  obtain ⟨hentry, hlocal⟩ := List.mem_filter.mp hfiltered
  obtain rfl : other = localName := of_decide_eq_true hlocal
  exact ⟨uri, mem_definitions_iff_definition?.mp hentry⟩

/-- Something is taken for a local name if any namespace has it. -/
theorem namesake?_eq_none_iff {localName : String} :
    g.namesake? sort number localName = none ↔ ∀ uri, g.definition? sort ⟨uri, localName⟩ = none := by
  constructor
  · intro h uri
    obtain ⟨-, hhead⟩ := Option.or_eq_none_iff.mp h
    refine Option.eq_none_iff_forall_ne_some.mpr fun d hd => ?_
    have hentry : ((⟨uri, localName⟩ : QName), d) ∈
        (g.definitions sort).filter fun entry => entry.1.localName = localName :=
      List.mem_filter.mpr ⟨mem_definitions_iff_definition?.mpr hd, decide_eq_true rfl⟩
    have hmem := List.mem_map_of_mem (f := Prod.snd) hentry
    rw [List.head?_eq_none_iff.mp hhead] at hmem
    cases hmem
  · intro h
    refine Option.eq_none_iff_forall_ne_some.mpr fun d hd => ?_
    obtain ⟨uri, hdefined⟩ := exists_of_namesake?_eq_some hd
    cases (h uri).symm.trans hdefined

/-- What a reference means: the definition of its name, or else what is taken for its local name. -/
theorem lookup_of_splitName {schema : Schema} (hschema : g.schemas[number]? = some schema) {space localName : List Char}
    (hsplit : Document.splitName reference.toList = (space, localName)) (sort : GlobalKind) :
    g.lookup sort number reference =
      if space ≠ [] ∧ schema.namespaceOf space = languageNamespace then none
      else (g.definition? sort ⟨schema.namespaceOf space, String.ofList localName⟩).or
        (g.namesake? sort number (String.ofList localName)) := by
  rw [lookup, hschema]
  simp only [Option.bind_eq_bind, Option.bind_some, hsplit, lookup_definitions]
  refine if_congr (by simp) rfl ?_
  cases g.definition? sort ⟨schema.namespaceOf space, String.ofList localName⟩ <;> rfl

/-- A name without a prefix means its definition. -/
theorem lookup_of_definition? {schema : Schema} (hschema : g.schemas[number]? = some schema)
    (hcolon : ':' ∉ reference.toList) {d : Definition}
    (hdefined : g.definition? sort ⟨schema.namespaceOf [], reference⟩ = some d) :
    g.lookup sort number reference = some d := by
  rw [lookup_of_splitName hschema (Document.splitName_of_no_colon hcolon), String.ofList_toList, hdefined,
    if_neg fun h => h.1 rfl, Option.some_or]

end Grammar

end XmlDiagnostics
