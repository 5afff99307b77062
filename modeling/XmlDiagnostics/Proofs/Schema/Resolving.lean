import XmlDiagnostics.Proofs.Schema.Equations
import XmlDiagnostics.Proofs.Schema.Definitions
import XmlDiagnostics.Proofs.Schema.Renumbering

/-! # What references mean

A reference with a prefix should mean the definition of the name in the namespace that the prefix is declared for. It
does (`Grammar.prefixed_reference`) unless this is the namespace of the schema language, or nothing defines the
name: then any component with the local name is taken, whatever namespace it belongs to
(`Grammar.taken_from_other_namespace`). A reference that means nothing adds nothing to the content of
elements (`Grammar.Idle`). -/

namespace XmlDiagnostics

open Schema

namespace Grammar

variable {g : Grammar} {sort : GlobalKind} {number : Nat} {reference : String}

/-! ### References with a prefix -/

/-- What a reference with a declared prefix means. -/
theorem lookup_prefixed {schema : Schema} (hschema : g.schemas[number]? = some schema) {space : List Char}
    (hspace : space ≠ []) (hcolon : ':' ∉ space) {uri : String} (hdeclared : schema.scope.lookup space = some uri)
    (sort : GlobalKind) (localName : List Char) :
    g.lookup sort number (String.ofList (space ++ ':' :: localName)) =
      if uri = languageNamespace then none
      else (g.definition? sort ⟨uri, String.ofList localName⟩).or
        (g.namesake? sort number (String.ofList localName)) := by
  have hsplit : Document.splitName (String.ofList (space ++ ':' :: localName)).toList = (space, localName) := by
    rw [String.toList_ofList, Document.splitName_append hcolon]
  have huri : schema.namespaceOf space = uri := by rw [namespaceOf, hdeclared, Option.getD_some]
  rw [lookup_of_splitName hschema hsplit, huri]
  simp [hspace]

/-! ### References that mean nothing -/

/-- Steps that come to the same, come to the same after others. -/
theorem gather_append_congr {tasks tasks' : List Task} (h : ∀ fresh, g.gather fresh tasks = g.gather fresh tasks')
    (fresh : List Key) (before : List Task) : g.gather fresh (before ++ tasks) = g.gather fresh (before ++ tasks') := by
  fun_induction Grammar.gather g fresh before with
  | case1 fresh => exact h fresh
  | case2 fresh sort number reference rest hlookup ih =>
      rw [List.cons_append, List.cons_append, gather, gather, hlookup]
      exact ih
  | case3 fresh sort number reference rest d hlookup hfresh ih =>
      rw [List.append_assoc, List.append_assoc] at ih
      rw [List.cons_append, List.cons_append, gather, gather, hlookup]
      simp only [hfresh, dite_true]
      exact ih
  | case4 fresh sort number reference rest d hlookup hfresh ih =>
      rw [List.cons_append, List.cons_append, gather, gather, hlookup]
      simp only [hfresh, dite_false]
      exact ih
  | case5 fresh d rest helement content ih =>
      rw [List.cons_append, List.cons_append, gather, gather, if_pos helement, if_pos helement, ih]
  | case6 fresh d rest helement hattribute content name hname ih =>
      rw [List.cons_append, List.cons_append, gather, gather, if_neg helement, if_neg helement, if_pos hattribute,
        if_pos hattribute, ih]
  | case7 fresh d rest helement hattribute content hname ih =>
      rw [List.cons_append, List.cons_append, gather, gather, if_neg helement, if_neg helement, if_pos hattribute,
        if_pos hattribute, ih]
  | case8 fresh d rest helement hattribute ih =>
      rw [List.append_assoc, List.append_assoc] at ih
      rw [List.cons_append, List.cons_append, gather, gather, if_neg helement, if_neg helement, if_neg hattribute,
        if_neg hattribute, ih]

/-- Whether a reference adds nothing to any element: content models are gathered as if it were not there, and a
declaration that makes it instead of declaring an element has no tree. -/
structure Idle (g : Grammar) (sort : GlobalKind) (number : Nat) (reference : String) : Prop where
  gather_eq : ∀ fresh before after,
    g.gather fresh (before ++ .follow sort number reference :: after) = g.gather fresh (before ++ after)
  expand_eq : sort = .element → ∀ unused n global, n.attribute? "ref" = some reference →
    g.expand unused ⟨⟨number, n⟩, global⟩ = none

theorem idle_of_lookup_eq_none (h : g.lookup sort number reference = none) : g.Idle sort number reference where
  gather_eq fresh before after := by
    exact gather_append_congr (fun fresh => gather_follow_of_lost h) fresh before
  expand_eq := by
    rintro rfl unused n global href
    exact expand_of_lost (target?_of_lost href h _)

/-! ### Where references mean what they should -/

/-- **References with a prefix.** A reference whose prefix is declared for a namespace means the definition of its name
there, or nothing if there is none, just if the name is defined or its local name is defined nowhere; in the namespace
of the schema language, just if the name is not defined. What a reference means always has the local name, in another
namespace only if the name is not defined, and what means nothing adds nothing. -/
theorem prefixed_reference {schema : Schema} (hschema : g.schemas[number]? = some schema) {space : List Char}
    (hspace : space ≠ []) (hcolon : ':' ∉ space) {uri : String} (hdeclared : schema.scope.lookup space = some uri)
    (sort : GlobalKind) (localName : List Char) :
    let reference := String.ofList (space ++ ':' :: localName)
    let name : QName := ⟨uri, String.ofList localName⟩
    (g.lookup sort number reference = g.definition? sort name ↔
      if uri = languageNamespace then g.definition? sort name = none
      else (g.definition? sort name).isSome ∨ ∀ other, g.definition? sort (name.inNamespace other) = none) ∧
    (∀ d, g.lookup sort number reference = some d → ∃ other, g.definition? sort (name.inNamespace other) = some d ∧
      (other = uri ∨ g.definition? sort name = none)) ∧
    (g.lookup sort number reference = none → g.Idle sort number reference) := by
  intro reference name
  have hlookup : g.lookup sort number reference = if uri = languageNamespace then none
      else (g.definition? sort name).or (g.namesake? sort number name.localName) :=
    lookup_prefixed hschema hspace hcolon hdeclared sort localName
  refine ⟨?_, fun d hd => ?_, idle_of_lookup_eq_none⟩
  · rw [hlookup]
    by_cases huri : uri = languageNamespace
    · rw [if_pos huri, if_pos huri]
      exact eq_comm
    · rw [if_neg huri, if_neg huri]
      cases hdefined : g.definition? sort name with
      | none =>
          simp only [Option.none_or, Option.isSome_none, Bool.false_eq_true, false_or]
          exact namesake?_eq_none_iff
      | some d => simp
  · rw [hlookup] at hd
    by_cases huri : uri = languageNamespace
    · rw [if_pos huri] at hd
      cases hd
    · rw [if_neg huri] at hd
      rcases Option.or_eq_some_iff.mp hd with hdefined | ⟨hundefined, htaken⟩
      · exact ⟨uri, hdefined, .inl rfl⟩
      · obtain ⟨other, hother⟩ := exists_of_namesake?_eq_some htaken
        exact ⟨other, hother, .inr hundefined⟩

/-- The total of an invoice has amounts of another namespace; there are amounts of invoices, too. -/
def invoice : Schema :=
  .ofRoot (.node .schema [("targetNamespace", "invoice"), ("xmlns:m", "money")]
    [.node .element [("name", "total"), ("type", "m:Amount")] [],
      .node .complexType [("name", "Amount")] [.node .attributeUse [("name", "rounded")] []]])

/-- Amounts of money. -/
def money : Schema :=
  .ofRoot (.node .schema [("targetNamespace", "money")]
    [.node .complexType [("name", "Amount")] [.node .attributeUse [("name", "currency")] []]])

/-- The total has the amounts of money, not those of invoices. -/
theorem prefixed_reference_total :
    let g : Grammar := ⟨[invoice, money]⟩
    let reference := String.ofList (['m'] ++ ':' :: "Amount".toList)
    let name : QName := ⟨"money", String.ofList "Amount".toList⟩
    g.schemas[0]? = some invoice ∧ ['m'] ≠ [] ∧ ':' ∉ ['m'] ∧ invoice.scope.lookup ['m'] = some "money" ∧
      (g.lookup .type 0 reference).map Definition.schema = some 1 ∧
      (g.lookup .type 0 reference = g.definition? .type name ↔
        if "money" = languageNamespace then g.definition? .type name = none
        else (g.definition? .type name).isSome ∨ ∀ other, g.definition? .type (name.inNamespace other) = none) ∧
      (∀ d, g.lookup .type 0 reference = some d → ∃ other, g.definition? .type (name.inNamespace other) = some d ∧
        (other = "money" ∨ g.definition? .type name = none)) ∧
      (g.lookup .type 0 reference = none → g.Idle .type 0 reference) := by
  intro g reference name
  have hschema : g.schemas[0]? = some invoice := rfl
  have hdeclared : invoice.scope.lookup ['m'] = some "money" := by decide +kernel
  have hmoney : (g.definition? .type name).map Definition.schema = some 1 := by decide +kernel
  have hdefined : (g.definition? .type name).isSome := by
    rw [← Option.isSome_map, hmoney]
    rfl
  obtain ⟨hmeans, hrest⟩ := prefixed_reference hschema (by decide) (by decide) hdeclared .type "Amount".toList
  have hsame := hmeans.mpr (by rw [if_neg (by decide)]; exact .inl hdefined)
  exact ⟨hschema, by decide, by decide, hdeclared, (congrArg _ hsame).trans hmoney, hmeans, hrest⟩

/-- The text of a schema for invoices. -/
def invoiceText : List Char :=
  ("<schema targetNamespace='invoice' xmlns:m='money'><element name='total' type='m:Amount'/>" ++
    "<complexType name='Amount'><attribute name='rounded'/></complexType></schema>").toList

/-- Where nothing defines the amounts of money, the total has those of invoices. -/
theorem taken_from_other_namespace :
    let g := Grammar.read [invoiceText]
    (g.schemas.map fun schema => schema.scope.lookup ['m']) = [some "money"] ∧
      (g.definition? .type ⟨"money", "Amount"⟩).isNone ∧
      (g.lookup .type 0 "m:Amount").map (fun d => d.node.children.map fun n => n.attribute? "name") =
        some [some "rounded"] := by
  decide +kernel

end Grammar

end XmlDiagnostics
