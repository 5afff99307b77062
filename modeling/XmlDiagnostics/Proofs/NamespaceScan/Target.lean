import XmlDiagnostics.Proofs.Lookup
import XmlDiagnostics.Proofs.NamespaceScan.Assigned
import XmlDiagnostics.Proofs.Schema.Outermost

/-! # The namespace that a schema is for

The filter and the grammar have two readings of what a schema is for. `target?` takes the first place in the raw text that
reads as an assignment to `targetNamespace`, wherever it stands (`target?_of_firstTarget`). The grammar takes the
attribute with this key on the outermost component, that is, on the first tag. `target?_of_read` tells how far they
agree: the attribute is such a place, so what differs is another place before it, a quotation mark in the
value, or an entity. -/

namespace XmlDiagnostics.NamespaceScan

open Pattern Automaton Markup Text

/-! ### The scan -/

/-- The key that a schema says what it is for with. -/
def targetKey : List Char := "targetNamespace".toList

/-- Behind some text stands an assignment to the key. -/
def TargetAt (text before : List Char) (a : Assignment) : Prop :=
  ∃ rest, text = before ++ (targetKey ++ a.print) ++ rest

/-- The first place at which an assignment to the key stands. -/
def FirstTarget (text before : List Char) (a : Assignment) : Prop :=
  TargetAt text before a ∧ ∀ before' a', TargetAt text before' a' → before.length ≤ before'.length

theorem TargetAt.prefix_drop {text before : List Char} {a : Assignment} (h : TargetAt text before a) :
    before.length < text.length ∧ targetKey <+: text.drop before.length := by
  obtain ⟨rest, rfl⟩ := h
  have hkey : 0 < targetKey.length := by decide
  constructor
  · simp only [List.length_append]
    omega
  · rw [List.append_assoc, List.drop_left, List.append_assoc]
    exact List.prefix_append _ _

theorem targetPattern_eq : targetPattern = seq (literal targetKey) (valuePattern 1) := rfl

theorem isSteady_targetPattern : targetPattern.isSteady = true := by decide

theorem takes_targetPattern (a : Assignment) (rest : List Char) :
    Takes targetPattern (targetKey ++ a.print) rest fun index =>
      [(1, ⟨index + targetKey.length + a.head.length, index + targetKey.length + a.head.length + a.value.length⟩)] := by
  have hkey := (skips_literal targetKey (a.print ++ rest)).takes
  have hall := hkey.seq (takes_valuePattern a rest)
  exact hall.congr fun index => List.append_nil _

/-- What the pattern can take is an assignment to the key. -/
theorem targetAt_of_fits {text taken : List Char} {k : Nat} (htaken : taken <+: text.drop k)
    (h : targetPattern.Fits taken) : ∃ a, TargetAt text (text.take k) a := by
  rw [targetPattern_eq, fits_seq_iff] at h
  obtain ⟨key, value, rfl, hkey, hvalue⟩ := h
  obtain ⟨a, rfl⟩ := exists_assignment_of_fits hvalue
  obtain ⟨rest, hrest⟩ := htaken
  rw [fits_literal_iff] at hkey
  subst hkey
  refine ⟨a, rest, ?_⟩
  rw [List.append_assoc, hrest, List.take_append_drop]

/-- **The first assignment** is found. -/
theorem target?_of_firstTarget {text before : List Char} {a : Assignment} (h : FirstTarget text before a) :
    target? text = some (String.ofList a.value) := by
  obtain ⟨⟨rest, htext⟩, hfirst⟩ := h
  have hdead : Dead targetPattern (startOf text) before.length := by
    apply dead_of_not_fits
    intro k hk taken htaken hfits
    obtain ⟨a', ha'⟩ := targetAt_of_fits htaken hfits
    have := hfirst _ _ ha'
    rw [List.length_take] at this
    omega
  have hfind := find?_of_takes isSteady_targetPattern (htext ▸ hdead) (takes_targetPattern a rest)
  rw [← htext] at hfind
  unfold target?
  simp only [hfind, Option.bind_eq_bind, Option.bind_some]
  rw [groupText?_assignment a htext]
  rfl

/-- Without an assignment nothing is found. -/
theorem target?_eq_none {text : List Char} (h : ∀ before a, ¬TargetAt text before a) : target? text = none := by
  have hfind : targetPattern.find? text = none := by
    apply find?_eq_none isSteady_targetPattern
    intro n hn
    refine dead_of_not_fits (n := n + 1) ?_ n (Nat.lt_succ_self n)
    intro k hk taken htaken hfits
    obtain ⟨a, ha⟩ := targetAt_of_fits htaken hfits
    exact h _ a ha
  unfold target?
  rw [hfind]
  rfl

theorem target?_eq_none_iff {text : List Char} : target? text = none ↔ ∀ before a, ¬TargetAt text before a := by
  constructor
  · intro h before a hat
    obtain ⟨before', a', hfirst⟩ := exists_first hat
    rw [target?_of_firstTarget hfirst] at h
    cases h
  · exact target?_eq_none

/-! ### The scan and the schema -/

/-- **The attribute and the scan.** Without the attribute on its outermost component, the scan of a schema finds nothing just if
nothing in the text reads as an assignment to the key. With it, the first tag has the attribute at a place that reads as
such an assignment, so something is found; if it is the first such place, what is found is what stands in the
written value up to a quotation mark of either kind. This is the value itself if no quotation mark and no
entity is in it. -/
theorem target?_of_read {text : List Char} {order : Schema.TableOrder} {schema : Schema}
    (h : Schema.read text order = .ok schema) :
    (schema.root.attribute? "targetNamespace" = none →
      (target? text = none ↔ ∀ before a, ¬TargetAt text before a)) ∧
    ∀ t, schema.root.attribute? "targetNamespace" = some t → ∃ p : PlacedAttribute text,
      (∃ former latter, (tokens text).tokens = former ++ p.token :: latter ∧ ∀ other ∈ former, other.token.tag? = none) ∧
      p.raw.key = targetKey ∧ t = String.ofList p.value ∧
      (∃ a, TargetAt text p.place.before a ∧ a.value = beforeMark p.raw.value) ∧ target? text ≠ none ∧
      ((∀ before a, TargetAt text before a → p.place.before.length ≤ before.length) →
        target? text = some (String.ofList (beforeMark p.raw.value))) ∧
      ('&' ∉ p.raw.value → (∀ c ∈ p.raw.value, isMark c = false) → beforeMark p.raw.value = p.value) := by
  refine ⟨fun _ => target?_eq_none_iff, ?_⟩
  intro t ht
  obtain ⟨former, token, latter, tag, pairs, htokens, hformer, htag, hpairs, hroot⟩ := Schema.exists_firstTag_of_read h
  have hmem : token ∈ (tokens text).tokens := by
    rw [htokens]
    simp
  have hpair := mem_of_lookup_eq_some ht
  rw [hroot] at hpair
  obtain ⟨⟨key, value⟩, hkey, heq⟩ := List.mem_map.mp hpair
  obtain ⟨hname, rfl⟩ := Prod.mk.inj heq
  have htarget : key = targetKey := String.toList_ofList.symm.trans (congrArg String.toList hname)
  obtain ⟨p, rfl, hraw, rfl⟩ := exists_placedAttribute_of_attributes hmem htag hpairs hkey
  obtain ⟨a, rest, htext, -, hvalue⟩ := exists_assignment_of_attributeAt p.place
  have hat : TargetAt text p.place.before a := by
    refine ⟨rest, ?_⟩
    rw [← htarget, ← hraw]
    conv => lhs; rw [htext]
    simp
  refine ⟨p, ⟨former, latter, htokens, hformer⟩, hraw.trans htarget, rfl, ⟨a, hat, hvalue⟩, ?_, ?_, ?_⟩
  · exact fun hnone => target?_eq_none_iff.mp hnone _ a hat
  · intro hfirst
    rw [← hvalue]
    exact target?_of_firstTarget ⟨hat, hfirst⟩
  · intro hamp hmarks
    rw [beforeMark_eq_self hmarks, p.value_eq hamp]

/-- The key stands at one place only, in an attribute with separators around its equals sign. -/
theorem target?_of_read_spaced :
    let text := "<!--target--><s:schema a='1' targetNamespace\n= 'u'/>".toList
    ∃ schema, Schema.read text = .ok schema ∧ schema.root.attribute? "targetNamespace" = some "u" ∧
      ∃ p : PlacedAttribute text, p.raw.key = targetKey ∧ "u" = String.ofList p.value ∧ p.place.before.length = 29 ∧
        target? text = some (String.ofList (beforeMark p.raw.value)) := by
  intro text
  have hroot : (Schema.read text).toOption.bind (fun schema => schema.root.attribute? "targetNamespace") = some "u" := by
    decide +kernel
  have honce : ∀ k < text.length, targetKey <+: text.drop k → k = 29 := by decide +kernel
  have hplace : ∀ before a, TargetAt text before a → before.length = 29 := by
    intro before a hat
    obtain ⟨hlength, hprefix⟩ := hat.prefix_drop
    exact honce _ hlength hprefix
  cases hread : Schema.read text with
  | error flaw =>
      rw [hread] at hroot
      cases hroot
  | ok schema =>
      rw [hread] at hroot
      have hattribute : schema.root.attribute? "targetNamespace" = some "u" := hroot
      obtain ⟨-, hsome⟩ := target?_of_read hread
      obtain ⟨p, -, hkey, hvalue, ⟨a, hat, -⟩, -, hfound, -⟩ := hsome "u" hattribute
      have hbefore := hplace _ a hat
      refine ⟨schema, rfl, hattribute, p, hkey, hvalue, hbefore, hfound ?_⟩
      intro before a' hat'
      rw [hbefore, hplace before a' hat']

/-- An assignment in a comment comes first. -/
theorem target?_within_comment :
    let text := "<!-- targetNamespace=\"v\" --><schema targetNamespace=\"u\"/>".toList
    ((Schema.read text).toOption.bind fun schema => schema.root.attribute? "targetNamespace") = some "u" ∧
      target? text = some "v" := by
  decide +kernel

end XmlDiagnostics.NamespaceScan
