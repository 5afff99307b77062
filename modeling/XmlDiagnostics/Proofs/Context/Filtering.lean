import XmlDiagnostics.Context.Basic
import XmlDiagnostics.Proofs.Except
import XmlDiagnostics.Proofs.NamespaceScan.Declared

/-! # Which schemas are kept

With the filter on, a context keeps the schemas that are for a namespace which the scan of the document finds
(`mem_readSchemas_iff`). The scan finds the namespace of an element where a plain declaration of it stands
anywhere in the document, and then no schema for it is dropped (`declared_of_element`). It misses a declaration with a
line break in front of its equals sign (`not_declared_of_broken_line`). -/

namespace XmlDiagnostics

open Markup Text Document NamespaceScan

theorem StringSet.contains_iff {set : StringSet} {s : String} : set.contains s = true ↔ s ∈ set :=
  List.contains_iff_mem

/-! ### Reading schemas -/

namespace ContextSetup

variable {setup : ContextSetup} {files : Files} {namespaces : StringSet}

/-- Whether the text of a schema stays. -/
def Keeps (setup : ContextSetup) (namespaces : StringSet) (text : List Char) : Prop :=
  setup.config.schema.filterByNamespace = true → provides namespaces text = true

theorem readSchemas_cons_eq_ok {url : Url} {rest : List Url} {schemas : List (Url × List Char)}
    (h : setup.readSchemas files namespaces (url :: rest) = .ok schemas) :
    ∃ encoding text others, setup.readText files url = .ok (encoding, text) ∧
      setup.readSchemas files namespaces rest = .ok others ∧
      ((setup.Keeps namespaces text ∧ schemas = (url, text) :: others) ∨
        (¬setup.Keeps namespaces text ∧ schemas = others)) := by
  rw [readSchemas] at h
  obtain ⟨⟨encoding, text⟩, hread, h⟩ := bind_eq_ok.mp h
  obtain ⟨others, hothers, h⟩ := bind_eq_ok.mp h
  refine ⟨encoding, text, others, hread, hothers, ?_⟩
  split at h
  · rename_i hdropped
    obtain ⟨hfilter, hprovides⟩ := Bool.and_eq_true_iff.mp hdropped
    refine .inr ⟨fun hkeeps => ?_, (Except.ok.inj h).symm⟩
    rw [hkeeps hfilter] at hprovides
    cases hprovides
  · rename_i hkept
    refine .inl ⟨fun hfilter => ?_, (Except.ok.inj h).symm⟩
    rw [hfilter, Bool.true_and, Bool.not_eq_true, Bool.not_eq_false'] at hkept
    exact hkept

/-- **The filter.** The schemas read are those asked for that stay. -/
theorem mem_readSchemas_iff {urls : List Url} {schemas : List (Url × List Char)}
    (h : setup.readSchemas files namespaces urls = .ok schemas) (url : Url) (text : List Char) :
    (url, text) ∈ schemas ↔
      url ∈ urls ∧ (∃ encoding, setup.readText files url = .ok (encoding, text)) ∧ setup.Keeps namespaces text := by
  induction urls generalizing schemas with
  | nil =>
      obtain rfl : [] = schemas := Except.ok.inj h
      simp
  | cons first rest ih =>
      obtain ⟨encoding, read, others, hread, hothers, ⟨hkeeps, rfl⟩ | ⟨hkeeps, rfl⟩⟩ := readSchemas_cons_eq_ok h
      all_goals
        have htext {encoding' : Encoding} (heq : setup.readText files first = .ok (encoding', text)) : text = read := by
          rw [hread] at heq
          exact (congrArg Prod.snd (Except.ok.inj heq)).symm
      · rw [List.mem_cons, List.mem_cons, ih hothers, Prod.mk.injEq]
        constructor
        · rintro (⟨rfl, rfl⟩ | ⟨hmem, hrest⟩)
          · exact ⟨.inl rfl, ⟨encoding, hread⟩, hkeeps⟩
          · exact ⟨.inr hmem, hrest⟩
        · rintro ⟨rfl | hmem, ⟨encoding', heq⟩, hkeeps'⟩
          · exact .inl ⟨rfl, htext heq⟩
          · exact .inr ⟨hmem, ⟨encoding', heq⟩, hkeeps'⟩
      · rw [List.mem_cons, ih hothers]
        constructor
        · rintro ⟨hmem, hrest⟩
          exact ⟨.inr hmem, hrest⟩
        · rintro ⟨rfl | hmem, ⟨encoding', heq⟩, hkeeps'⟩
          · exact absurd (htext heq ▸ hkeeps') hkeeps
          · exact ⟨hmem, ⟨encoding', heq⟩, hkeeps'⟩

end ContextSetup

/-! ### Namespaces in use -/

/-- **The scan and the namespaces of elements.** The namespace of an element, other than none and that of the name `xml`, is
declared by an attribute of a tag. If it is the value of a plain declaration, the scan finds it and no schema for it is dropped. -/
theorem declared_of_element {text : List Char} {element : Element} (hmem : element ∈ (Document.read text).tree.values)
    (hnone : element.name.namespaceUri ≠ "") (hxml : element.name.namespaceUri ≠ xmlNamespace) :
    (∃ (p : PlacedAttribute text) (name : List Char), Declares name p.raw.key ∧
      element.name.namespaceUri = String.ofList p.value) ∧
    ∀ p : PlacedAttribute text, IsPlain p → element.name.namespaceUri = String.ofList p.value →
      element.name.namespaceUri ∈ declared ((splitLines text).map String.ofList) ∧
      ∀ (setup : ContextSetup) (files : Files) (urls : List Url) (schemas : List (Url × List Char)),
        setup.readSchemas files (declared ((splitLines text).map String.ofList)) urls = .ok schemas →
          ∀ url ∈ urls, ∀ encoding schema, setup.readText files url = .ok (encoding, schema) →
            target? schema = some element.name.namespaceUri → (url, schema) ∈ schemas := by
  refine ⟨exists_declaration hmem hnone hxml, fun p hplain hvalue => ?_⟩
  have hdeclared : element.name.namespaceUri ∈ declared ((splitLines text).map String.ofList) := by
    rw [hvalue]
    exact declared_of_isPlain hplain
  refine ⟨hdeclared, fun setup files urls schemas hschemas url hurl encoding schema hread htarget => ?_⟩
  rw [ContextSetup.mem_readSchemas_iff hschemas]
  refine ⟨hurl, ⟨encoding, hread⟩, fun _ => ?_⟩
  rw [provides, htarget]
  exact StringSet.contains_iff.mpr hdeclared

/-- The declaration of the inner element stands on the second line, and the schema for its namespace is kept. -/
theorem declared_of_element_inner :
    let text := "<a>\n<p:b xmlns:p='u'/></a>".toList
    let url : Url := ⟨"file", .path none ["s.xsd"], none, none⟩
    let schema := "<schema targetNamespace='u'/>".toList
    let setup : ContextSetup := { url, schemaUrls := [url] }
    let files : Files := ⟨[(["s.xsd"], schema.map fun c => UInt8.ofNat c.toNat)]⟩
    ∃ element ∈ (Document.read text).tree.values, element.name = ⟨"u", "b"⟩ ∧
      "u" ∈ declared ((splitLines text).map String.ofList) ∧
      ∃ schemas, setup.readSchemas files (declared ((splitLines text).map String.ofList)) [url] = .ok schemas ∧
        (url, schema) ∈ schemas := by
  intro text url schema setup files
  obtain ⟨element, hmem, hname⟩ : ∃ element ∈ (Document.read text).tree.values, element.name = ⟨"u", "b"⟩ := by
    decide +kernel
  have huri : element.name.namespaceUri = "u" := by rw [hname]
  obtain ⟨p, hplain, hvalue⟩ : ∃ p : PlacedAttribute text, IsPlain p ∧ "u" = String.ofList p.value := by
    let place : AttributeAt text ⟨"xmlns:p".toList, 4, ['u']⟩ :=
      { before := "<a>\n<p:b ".toList, beforeSign := [], afterSign := [], mark := '\'', after := "/></a>".toList
        text_eq := by decide
        all_isSeparator_beforeSign := rfl
        all_isSeparator_afterSign := rfl
        isMark_mark := rfl
        mark_not_mem_value := by decide
        not_isSeparator_head_key := ⟨'x', "mlns:p".toList, by decide, rfl⟩ }
    let p : PlacedAttribute text :=
      { token := ⟨.emptyTag ⟨"p:b xmlns:p='u'".toList⟩, 4, 22⟩, tag := ⟨"p:b xmlns:p='u'".toList⟩
        raw := _, value := ['u'], place
        mem_tokens := by decide +kernel
        tag_eq := rfl
        mem_written := ⟨[(⟨"xmlns:p".toList, 4, ['u']⟩, ['u'])], by rfl, List.mem_cons_self⟩
        unescape_eq := by rfl
        delimited := ⟨"<a>\n<p:b".toList, ' ', by decide, .inl rfl⟩
        start_eq := ⟨[], by decide, by decide⟩ }
    have hplain : IsPlain p :=
      { key := ⟨":p".toList, .inr ⟨['p'], rfl, List.cons_ne_nil _ _, List.forall_mem_singleton.mpr (by decide)⟩, by decide⟩
        not_isLineEnd := List.forall_mem_singleton.mpr rfl
        not_isMark := List.forall_mem_singleton.mpr rfl
        not_mem := by decide
        closed := not_endsInValue (by decide) }
    exact ⟨p, hplain, rfl⟩
  have hread : setup.readText files url = .ok (.utf8, schema) := by decide +kernel
  have htarget : target? schema = some "u" := by decide +kernel
  obtain ⟨-, hfound⟩ := declared_of_element hmem (by rw [huri]; decide) (by rw [huri]; decide)
  obtain ⟨hdeclared, hkept⟩ := hfound p hplain (huri.trans hvalue)
  rw [huri] at hdeclared hkept
  refine ⟨element, hmem, hname, hdeclared, ?_⟩
  obtain ⟨schemas, hschemas⟩ : ∃ schemas, setup.readSchemas files (declared ((splitLines text).map String.ofList)) [url] =
      .ok schemas := ⟨[(url, schema)], by decide +kernel⟩
  exact ⟨schemas, hschemas, hkept setup files [url] schemas hschemas url List.mem_cons_self _ schema hread htarget⟩

/-- A line break in front of the equals sign hides a declaration from the scan. -/
theorem not_declared_of_broken_line :
    let text := "<a xmlns\n='u'/>".toList
    (Document.read text).valid = true ∧
      (Document.read text).tree.values.map (fun element => element.name) = [⟨"u", "a"⟩] ∧
      "u" ∉ declared ((splitLines text).map String.ofList) := by
  decide +kernel

end XmlDiagnostics
