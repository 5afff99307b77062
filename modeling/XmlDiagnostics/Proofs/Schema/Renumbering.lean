import Mathlib.Data.Prod.Lex
import Mathlib.Data.String.Basic
import Mathlib.Logic.Equiv.Basic
import XmlDiagnostics.Proofs.Schema.Expansion

/-! # Renumbering schemas

Schemas in another order have other numbers, and with them their components have other keys. If no two schemas have
one target namespace, that is all that changes: the definitions of a grammar are those of the other in the same order
(`definitions_eq`), and look-ups, content models and the trees of declarations are the same but for the
numbers (`lookup_eq`, `gather_eq`, `expand_eq`). -/

namespace XmlDiagnostics

open Schema

/-! ### The order of names -/

theorem QName.lt_iff_toLex {a b : QName} :
    a < b ↔ toLex (a.namespaceUri, a.localName) < toLex (b.namespaceUri, b.localName) :=
  (Prod.Lex.toLex_lt_toLex (x := (a.namespaceUri, a.localName)) (y := (b.namespaceUri, b.localName))).symm

theorem QName.not_lt_trans {a b c : QName} (hab : ¬ b < a) (hbc : ¬ c < b) : ¬ c < a := by
  rw [lt_iff_toLex, not_lt] at *
  exact hab.trans hbc

theorem QName.not_lt_or_not_lt (a b : QName) : ¬ b < a ∨ ¬ a < b := by
  rw [lt_iff_toLex, lt_iff_toLex, not_lt, not_lt]
  exact le_total _ _

theorem QName.eq_of_not_lt {a b : QName} (hab : ¬ b < a) (hba : ¬ a < b) : a = b := by
  rw [lt_iff_toLex, not_lt] at hab hba
  have hsame := Prod.mk.inj (toLex.injective (le_antisymm hab hba))
  cases a
  cases b
  exact congrArg₂ QName.mk hsame.1 hsame.2

/-! ### Definitions -/

namespace Grammar

variable {g : Grammar} {sort : GlobalKind} {name : QName} {d : Definition}

/-- Whether no two schemas have the same target namespace. -/
def DistinctTargets (g : Grammar) : Prop := (g.schemas.map Schema.targetNamespace).Nodup

/-- The target namespace tells the number of a schema. -/
theorem DistinctTargets.eq_of_targetNamespace_eq (h : g.DistinctTargets) {i j : Nat} {schema schema' : Schema}
    (hi : g.schemas[i]? = some schema) (hj : g.schemas[j]? = some schema')
    (hsame : schema.targetNamespace = schema'.targetNamespace) : i = j := by
  have hi' : (g.schemas.map Schema.targetNamespace)[i]? = some schema.targetNamespace := by
    rw [List.getElem?_map, hi, Option.map_some]
  have hj' : (g.schemas.map Schema.targetNamespace)[j]? = some schema.targetNamespace := by
    rw [List.getElem?_map, hj, Option.map_some, hsame]
  obtain ⟨hlt, -⟩ := List.getElem?_eq_some_iff.mp hi'
  exact (List.getElem?_inj hlt h).mp (hi'.trans hj'.symm)

theorem pairwise_definitions (g : Grammar) (sort : GlobalKind) :
    (g.definitions sort).Pairwise fun a b => ¬ b.1 < a.1 := by
  have hsorted := @List.pairwise_mergeSort (QName × Definition) (fun a b => !decide (b.1 < a.1))
    (fun a b c hab hbc => by simpa using QName.not_lt_trans (by simpa using hab) (by simpa using hbc))
    (fun a b => by simpa using QName.not_lt_or_not_lt a.1 b.1)
  exact (hsorted _).imp fun h => by simpa using h

theorem exists_mem_firstPerName {seen : List QName} {entries : List (QName × Definition)} {entry : QName × Definition}
    (hmem : entry ∈ entries) (hseen : entry.1 ∉ seen) : ∃ d, (entry.1, d) ∈ firstPerName seen entries := by
  fun_induction firstPerName seen entries with
  | case1 => cases hmem
  | case2 seen first rest hfirst ih =>
      rcases List.mem_cons.mp hmem with rfl | hmem
      · exact absurd hfirst hseen
      · exact ih hmem hseen
  | case3 seen first rest hfirst ih =>
      by_cases hsame : entry.1 = first.1
      · exact ⟨first.2, by rw [hsame]; exact List.mem_cons_self⟩
      · have hrest : entry ∈ rest := (List.mem_cons.mp hmem).resolve_left fun h => hsame (congrArg Prod.fst h)
        obtain ⟨d, hd⟩ := ih hrest fun h => (List.mem_cons.mp h).elim hsame hseen
        exact ⟨d, List.mem_cons_of_mem _ hd⟩

theorem exists_mem_definitions {schema : Schema} {number : Nat} (hschema : g.schemas[number]? = some schema)
    (hglobal : (name, d) ∈ globals sort number schema) : ∃ d', (name, d') ∈ g.definitions sort := by
  simp only [definitions, List.mem_mergeSort]
  refine @exists_mem_firstPerName [] _ (name, d) ?_ List.not_mem_nil
  exact List.mem_flatMap.mpr ⟨(schema, number), List.mk_mem_zipIdx_iff_getElem?.mpr hschema, hglobal⟩

/-- With different target namespaces, the definitions are the first components of each name in each schema. -/
theorem mem_definitions_iff (h : g.DistinctTargets) :
    (name, d) ∈ g.definitions sort ↔
      ∃ schema, g.schemas[d.schema]? = some schema ∧ name.namespaceUri = schema.targetNamespace ∧
        (schema.root.childrenOf sort.kind).find? (fun n => n.attribute? "name" == some name.localName) =
          some d.node := by
  refine ⟨find?_of_mem_definitions, fun ⟨schema, hschema, hspace, hfind⟩ => ?_⟩
  have hname : d.node.attribute? "name" = some name.localName := by simpa using List.find?_some hfind
  have hglobal : (name, d) ∈ globals sort d.schema schema := by
    refine List.mem_filterMap.mpr ⟨d.node, List.mem_of_find?_eq_some hfind, ?_⟩
    rw [hname, Option.map_some, ← hspace]
  obtain ⟨d', hindexed⟩ := exists_mem_definitions hschema hglobal
  obtain ⟨schema', hschema', hspace', hfind'⟩ := find?_of_mem_definitions hindexed
  have hnumber := h.eq_of_targetNamespace_eq hschema hschema' (hspace.symm.trans hspace')
  rw [← hnumber, hschema] at hschema'
  obtain rfl := Option.some.inj hschema'
  have hnode := Option.some.inj (hfind.symm.trans hfind')
  have hsame : d = d' := by
    cases d
    cases d'
    exact congrArg₂ Definition.mk hnumber hnode
  rwa [hsame]

end Grammar

/-! ### Renumbering -/

/-- New numbers for the schemas of a grammar by which they become those of another. -/
structure Renumbering (g g' : Grammar) where
  number : Equiv.Perm Nat
  schema_eq : ∀ i, g'.schemas[number i]? = g.schemas[i]?

/-- The places in two orders of a list correspond to each other. -/
theorem exists_getElem?_eq_of_perm {α : Type} {l l' : List α} (h : l.Perm l') :
    ∃ σ : Equiv.Perm Nat, ∀ i, l'[σ i]? = l[i]? := by
  induction h with
  | nil => exact ⟨Equiv.refl _, fun _ => rfl⟩
  | cons a _ ih =>
      obtain ⟨σ, hσ⟩ := ih
      let shift (f : Nat → Nat) : Nat → Nat := fun i => i.casesOn 0 fun j => f j + 1
      refine ⟨⟨shift σ, shift σ.symm, fun i => ?_, fun i => ?_⟩, fun i => ?_⟩
      · cases i <;> simp [shift]
      · cases i <;> simp [shift]
      · cases i <;> simp [shift, hσ]
  | swap a b l =>
      refine ⟨Equiv.swap 0 1, fun i => ?_⟩
      match i with
      | 0 => simp
      | 1 => simp
      | i + 2 => rw [Equiv.swap_apply_of_ne_of_ne (by simp) (by simp)]; rfl
  | trans _ _ ih ih' =>
      obtain ⟨σ, hσ⟩ := ih
      obtain ⟨τ, hτ⟩ := ih'
      exact ⟨σ.trans τ, fun i => (hτ (σ i)).trans (hσ i)⟩

namespace Renumbering

variable {g g' : Grammar} (r : Renumbering g g')

/-- The numbers back. -/
def symm : Renumbering g' g where
  number := r.number.symm
  schema_eq i := by rw [← r.schema_eq, Equiv.apply_symm_apply]

/-- The definition with the new number. -/
def definition (d : Definition) : Definition := ⟨r.number d.schema, d.node⟩

/-- The key with the new number. -/
def key (k : Key) : Key := ⟨k.sort, r.number k.schema, k.name⟩

/-- The step with the new number. -/
def task : Grammar.Task → Grammar.Task
  | .visit d => .visit (r.definition d)
  | .follow sort number reference => .follow sort (r.number number) reference

/-- The content model with the new numbers. -/
def content (c : Grammar.Content) : Grammar.Content := ⟨c.attributes, c.particles.map r.definition⟩

/-- The declaration with the new number. -/
def declaration (d : Grammar.Declaration) : Grammar.Declaration := ⟨r.definition d.definition, d.global⟩

theorem definition_injective : Function.Injective r.definition := by
  rintro ⟨number, n⟩ ⟨number', n'⟩ h
  obtain ⟨hnumber, hnode⟩ := Definition.mk.inj h
  exact congrArg₂ Definition.mk (r.number.injective hnumber) hnode

theorem key_injective : Function.Injective r.key := by
  rintro ⟨sort, number, name⟩ ⟨sort', number', name'⟩ h
  obtain ⟨rfl, hnumber, rfl⟩ := Key.mk.inj h
  exact congrArg (Key.mk sort · name) (r.number.injective hnumber)

theorem tasksInside_definition (d : Definition) :
    Grammar.tasksInside (r.definition d) = (Grammar.tasksInside d).map r.task := by
  rw [Grammar.tasksInside, Grammar.tasksInside, List.map_map]
  rfl

theorem tasksOf_definition (d : Definition) : Grammar.tasksOf (r.definition d) = (Grammar.tasksOf d).map r.task := by
  have hinside := r.tasksInside_definition d
  have hnode : (r.definition d).node = d.node := rfl
  rw [Grammar.tasksOf, Grammar.tasksOf, hinside, hnode]
  cases d.node.kind with
  | group => cases d.node.attribute? "ref" <;> rfl
  | attributeGroup => cases d.node.attribute? "ref" <;> rfl
  | derivation => cases d.node.attribute? "base" <;> rfl
  | _ => rfl

/-! ### Look-ups -/

section

variable (h : g.DistinctTargets) (h' : g'.DistinctTargets)

include h h' in
theorem mem_definitions_iff {sort : GlobalKind} {name : QName} {d : Definition} :
    (name, r.definition d) ∈ g'.definitions sort ↔ (name, d) ∈ g.definitions sort := by
  rw [Grammar.mem_definitions_iff h, Grammar.mem_definitions_iff h', definition, r.schema_eq]

include h h' in
/-- The definitions are the same, in the same order. -/
theorem definitions_eq (sort : GlobalKind) :
    g'.definitions sort = (g.definitions sort).map fun entry => (entry.1, r.definition entry.2) := by
  have hnodup := (Grammar.nodup_names_definitions g sort).of_map
  have hnodup' := (Grammar.nodup_names_definitions g' sort).of_map
  have hinjective : Function.Injective fun entry : QName × Definition => (entry.1, r.definition entry.2) :=
    fun _ _ heq => Prod.ext (Prod.mk.inj heq).1 (r.definition_injective (Prod.mk.inj heq).2)
  have hperm : (g'.definitions sort).Perm ((g.definitions sort).map fun entry => (entry.1, r.definition entry.2)) := by
    rw [List.perm_ext_iff_of_nodup hnodup' (hnodup.map hinjective)]
    rintro ⟨name, d'⟩
    rw [List.mem_map]
    constructor
    · intro hmem
      obtain ⟨d, rfl⟩ : ∃ d, r.definition d = d' :=
        ⟨⟨r.number.symm d'.schema, d'.node⟩, by rw [definition, Equiv.apply_symm_apply]⟩
      exact ⟨(name, d), (r.mem_definitions_iff h h').mp hmem, rfl⟩
    · rintro ⟨⟨name, d⟩, hmem, heq⟩
      obtain ⟨rfl, rfl⟩ := Prod.mk.inj heq
      exact (r.mem_definitions_iff h h').mpr hmem
  refine hperm.eq_of_pairwise (fun a b ha hb hab hba => ?_) (Grammar.pairwise_definitions g' sort)
    (List.pairwise_map.mpr (Grammar.pairwise_definitions g sort))
  have hname := QName.eq_of_not_lt hab hba
  exact List.inj_on_of_nodup_map (Grammar.nodup_names_definitions g' sort) ha (hperm.mem_iff.mpr hb) hname

include h h' in
theorem lookup_eq (sort : GlobalKind) (number : Nat) (reference : String) :
    g'.lookup sort (r.number number) reference = (g.lookup sort number reference).map r.definition := by
  unfold Grammar.lookup
  rw [r.schema_eq, r.definitions_eq h h']
  cases g.schemas[number]? with
  | none => rfl
  | some schema =>
      have hcandidates (name : String) :
          (((g.definitions sort).map fun entry => (entry.1, r.definition entry.2)).filter
              fun entry => entry.1.localName = name).map Prod.snd =
            (((g.definitions sort).filter fun entry => entry.1.localName = name).map Prod.snd).map r.definition := by
        rw [List.filter_map, List.map_map, List.map_map]
        rfl
      have hown : (fun d => decide (d.schema = r.number number)) ∘ r.definition = fun d => decide (d.schema = number) := by
        funext d
        simp [definition]
      simp only [Option.bind_eq_bind, Option.bind_some, lookup_map, hcandidates, List.find?_map, hown, List.head?_map]
      split
      · rfl
      · cases (g.definitions sort).lookup _ with
        | none => exact Option.map_or.symm
        | some d => rfl

/-! ### Content models -/

include h h' in
theorem keys_eq : g'.keys = g.keys.map r.key := by
  rw [Grammar.keys, Grammar.keys, List.map_flatMap]
  refine congrArg (List.flatMap · _) (funext fun sort => ?_)
  rw [r.definitions_eq h h', List.map_map, List.map_map]
  rfl

include h h' in
/-- Gathering takes the same steps. -/
theorem gather_eq (fresh : List Key) (tasks : List Grammar.Task) :
    g'.gather (fresh.map r.key) (tasks.map r.task) = r.content (g.gather fresh tasks) := by
  fun_induction Grammar.gather g fresh tasks with
  | case1 fresh => rw [List.map_nil, Grammar.gather]; rfl
  | case2 fresh sort number reference rest hlookup ih =>
      have hnone : g'.lookup sort (r.number number) reference = none := by rw [r.lookup_eq h h', hlookup]; rfl
      rw [List.map_cons, task, Grammar.gather_follow_of_lost hnone, ih]
  | case3 fresh sort number reference rest d hlookup hfresh ih =>
      have hsome : g'.lookup sort (r.number number) reference = some (r.definition d) := by
        rw [r.lookup_eq h h', hlookup]
        rfl
      have hmem : Grammar.keyOf sort (r.definition d) ∈ fresh.map r.key := List.mem_map_of_mem hfresh
      rw [List.map_append, ← tasksInside_definition, List.map_erase r.key_injective] at ih
      rw [List.map_cons, task, Grammar.gather_follow_of_fresh hsome hmem]
      exact ih
  | case4 fresh sort number reference rest d hlookup hfresh ih =>
      have hsome : g'.lookup sort (r.number number) reference = some (r.definition d) := by
        rw [r.lookup_eq h h', hlookup]
        rfl
      have hmem : Grammar.keyOf sort (r.definition d) ∉ fresh.map r.key := fun hmem =>
        hfresh ((List.mem_map_of_injective r.key_injective).mp hmem)
      rw [List.map_cons, task, Grammar.gather_follow_of_visited hsome hmem, ih]
  | case5 fresh d rest helement content ih =>
      have helement' : (r.definition d).node.kind = .element := helement
      rw [List.map_cons, task, Grammar.gather, if_pos helement', ih]
      rfl
  | case6 fresh d rest helement hattribute content name hname ih =>
      have helement' : ¬ (r.definition d).node.kind = .element := helement
      have hattribute' : (r.definition d).node.kind = .attributeUse := hattribute
      have hname' : Grammar.attributeName? (r.definition d).node = some name := hname
      rw [List.map_cons, task, Grammar.gather, if_neg helement', if_pos hattribute', ih]
      simp only [hname']
      rfl
  | case7 fresh d rest helement hattribute content hname ih =>
      have helement' : ¬ (r.definition d).node.kind = .element := helement
      have hattribute' : (r.definition d).node.kind = .attributeUse := hattribute
      have hname' : Grammar.attributeName? (r.definition d).node = none := hname
      rw [List.map_cons, task, Grammar.gather, if_neg helement', if_pos hattribute', ih]
      simp only [hname']
      rfl
  | case8 fresh d rest helement hattribute ih =>
      have helement' : ¬ (r.definition d).node.kind = .element := helement
      have hattribute' : ¬ (r.definition d).node.kind = .attributeUse := hattribute
      rw [List.map_append, ← tasksOf_definition] at ih
      rw [List.map_cons, task, Grammar.gather, if_neg helement', if_neg hattribute', ih]

include h h' in
theorem content_eq (d : Definition) : g'.content (r.definition d) = r.content (g.content d) := by
  rw [Grammar.content, Grammar.content, r.keys_eq h h', ← r.gather_eq h h', List.map_append, List.map_map,
    List.map_flatMap]
  simp only [← tasksInside_definition]
  rfl

/-! ### Declarations -/

include h h' in
theorem target?_eq (n : Nat) (d : Grammar.Declaration) :
    g'.target? n (r.declaration d) = (g.target? n d).map r.declaration := by
  induction n generalizing d with
  | zero =>
      cases href : d.definition.node.attribute? "ref" with
      | none =>
          rw [Grammar.target?_of_no_reference href, Grammar.target?_of_no_reference (d := r.declaration d) href]
          rfl
      | some reference =>
          rw [Grammar.target?_zero href, Grammar.target?_zero (d := r.declaration d) href]
          rfl
  | succ n ih =>
      cases href : d.definition.node.attribute? "ref" with
      | none =>
          rw [Grammar.target?_of_no_reference href, Grammar.target?_of_no_reference (d := r.declaration d) href]
          rfl
      | some reference =>
          have hlookup := r.lookup_eq h h' .element d.definition.schema reference
          cases hfound : g.lookup .element d.definition.schema reference with
          | none =>
              rw [hfound] at hlookup
              rw [Grammar.target?_of_lost href hfound, Grammar.target?_of_lost (d := r.declaration d) href hlookup]
              rfl
          | some definition =>
              rw [hfound] at hlookup
              rw [Grammar.target?_succ href hfound, Grammar.target?_succ (d := r.declaration d) href hlookup]
              exact ih ⟨definition, true⟩

theorem nameOf?_eq (d : Grammar.Declaration) : g'.nameOf? (r.declaration d) = g.nameOf? d := by
  have hschema : g'.schemas[(r.declaration d).definition.schema]? = g.schemas[d.definition.schema]? := r.schema_eq _
  rw [Grammar.nameOf?, Grammar.nameOf?, hschema]
  rfl

include r in
theorem mem_schemas {schema : Schema} : schema ∈ g'.schemas ↔ schema ∈ g.schemas := by
  rw [List.mem_iff_getElem?, List.mem_iff_getElem?]
  constructor
  · rintro ⟨i, hi⟩
    exact ⟨r.symm.number i, (r.symm.schema_eq i).trans hi⟩
  · rintro ⟨i, hi⟩
    exact ⟨r.number i, (r.schema_eq i).trans hi⟩

include r in
theorem names_perm : g.names.Perm g'.names := by
  rw [List.perm_ext_iff_of_nodup Grammar.nodup_names Grammar.nodup_names]
  intro name
  rw [Grammar.names, Grammar.names, List.mem_eraseDups, List.mem_eraseDups, List.mem_flatMap, List.mem_flatMap]
  simp only [r.mem_schemas]

include h h' in
/-- The tree of a declaration is the same. -/
theorem expand_eq {unused unused' : List QName} (hunused : unused.Perm unused') (d : Grammar.Declaration) :
    g'.expand unused' (r.declaration d) = g.expand unused d := by
  have htargets : ∀ d, g'.target? (g'.definitions .element).length (r.declaration d) =
      (g.target? (g.definitions .element).length d).map r.declaration := by
    rw [r.definitions_eq h h', List.length_map]
    exact r.target?_eq h h' _
  have hnames : ∀ d, g'.nameOf? (r.declaration d) = g.nameOf? d := r.nameOf?_eq
  fun_induction Grammar.expand g unused d generalizing unused' with
  | case1 unused d htarget => exact Grammar.expand_of_lost (by rw [htargets, htarget, Option.map_none])
  | case2 unused d d' htarget hname =>
      exact Grammar.expand_of_nameless (by rw [htargets, htarget, Option.map_some]) (by rw [hnames, hname])
  | case3 unused d d' htarget name hname content element hmem inside =>
      rename_i ih
      have hcontent : g'.content (r.declaration d').definition = r.content (g.content d'.definition) :=
        r.content_eq h h' _
      have hinside : (fun particle => g'.expand (unused'.erase name) ⟨particle, false⟩) ∘ r.definition =
          fun particle => g.expand (unused.erase name) ⟨particle, false⟩ := by
        funext particle
        exact ih particle (hunused.erase name)
      rw [Grammar.expand_of_unused (by rw [htargets, htarget, Option.map_some]) (by rw [hnames, hname])
        (hunused.mem_iff.mp hmem), hcontent, Renumbering.content, List.filterMap_map, hinside]
  | case4 unused d d' htarget name hname content element =>
      rename_i hmem
      have hcontent : g'.content (r.declaration d').definition = r.content (g.content d'.definition) :=
        r.content_eq h h' _
      have hmem' : name ∉ unused' := fun h => hmem (hunused.mem_iff.mpr h)
      rw [Grammar.expand_of_used (by rw [htargets, htarget, Option.map_some]) (by rw [hnames, hname]) hmem', hcontent]
      rfl

end

/-! ### Occurrences -/

/-- The occurrence with the new number. -/
def occurrence (o : Occurrence g) : Occurrence g' :=
  ⟨r.number o.number, o.path, o.node, by rw [Grammar.node?, r.schema_eq]; exact o.node_eq⟩

theorem position?_eq (k : Key) : g'.position? (r.key k) = g.position? k := by
  rw [Grammar.position?, key, r.schema_eq]
  rfl

variable (h : g.DistinctTargets) (h' : g'.DistinctTargets)

include h h' in
theorem isGlobal_occurrence {sort : GlobalKind} {o : Occurrence g} (hglobal : o.IsGlobal sort) :
    (r.occurrence o).IsGlobal sort := by
  obtain ⟨⟨name, hindexed⟩, i, hposition, hpath⟩ := hglobal
  exact ⟨⟨name, (r.mem_definitions_iff h h').mpr hindexed⟩, i, (r.position?_eq _).trans hposition, hpath⟩

include h h' in
theorem refersTo_occurrence {o o' : Occurrence g} (hrefers : RefersTo o o') :
    RefersTo (r.occurrence o) (r.occurrence o') := by
  obtain ⟨reference, href, hmeans⟩ := hrefers
  refine ⟨reference, href, ⟨?_, r.isGlobal_occurrence h h' hmeans.isGlobal⟩⟩
  have hlookup := r.lookup_eq h h' .element o.number reference
  rw [hmeans.lookup_eq] at hlookup
  exact hlookup

include r h h' in
/-- A circle of references has a circle in the other grammar. -/
theorem not_transGen_refersTo_self (hacyclic : ∀ o : Occurrence g, ¬ Relation.TransGen RefersTo o o)
    (o : Occurrence g') : ¬ Relation.TransGen RefersTo o o :=
  fun hcircle => hacyclic (r.symm.occurrence o)
    (Relation.TransGen.lift r.symm.occurrence (fun _ _ => r.symm.refersTo_occurrence h' h) o o hcircle)

end Renumbering

end XmlDiagnostics
