import XmlDiagnostics.Proofs.Document.Reading
import XmlDiagnostics.Proofs.Except
import XmlDiagnostics.Schema.Node

/-! # The outermost component of a schema

Reading a schema keeps a stack of open components, and the first one that is finished outside of all is the
schema. Its attributes are those of the first tag in the text (`exists_firstTag_of_read`): `outermost?`, the attributes of
the outermost component as far as it is known, is settled by the first tag (`outermost?_feed`). -/

namespace XmlDiagnostics.Schema

open Markup Document

/-- The attributes of the component of a tag. -/
def attributesOf (tag : Tag) : List (String × String) :=
  (pairsOf tag).map fun pair => (String.ofList pair.1, String.ofList pair.2)

/-- The attributes of the outermost component that has been read or is open. -/
def Builder.outermost? (b : Builder) : Option (List (String × String)) :=
  (b.finished.or b.opened.getLast?).map Node.attributes

theorem nodeOfTag_eq_ok {tag : Tag} {n : Node} (h : nodeOfTag tag = .ok n) :
    n.attributes = attributesOf tag ∧ ∃ pairs, tag.attributes = .ok pairs := by
  unfold nodeOfTag at h
  cases hattributes : tag.attributes with
  | error flaw =>
      rw [hattributes] at h
      cases h
  | ok pairs =>
      rw [hattributes] at h
      obtain rfl := Except.ok.inj h
      refine ⟨?_, pairs, rfl⟩
      rw [attributesOf, pairsOf, hattributes]
      rfl

/-- Opening a component makes it the outermost one only if there is none. -/
theorem outermost?_open (b : Builder) (n : Node) :
    (Builder.mk (n :: b.opened) b.finished).outermost? = b.outermost?.or (some n.attributes) := by
  obtain ⟨opened, finished⟩ := b
  cases finished with
  | some root => rfl
  | none =>
      simp only [Builder.outermost?, Option.none_or, List.getLast?_cons]
      cases opened.getLast? <;> rfl

/-- Putting a component where it belongs makes it the outermost one only if there is none. -/
theorem outermost?_attach (b : Builder) (n : Node) : (b.attach n).outermost? = b.outermost?.or (some n.attributes) := by
  obtain ⟨opened, finished⟩ := b
  cases opened with
  | nil => cases finished <;> rfl
  | cons parent opened =>
      obtain ⟨kind, attributes, children⟩ := parent
      cases finished with
      | some root => rfl
      | none =>
          simp only [Builder.attach, Builder.outermost?, Option.none_or, List.getLast?_cons]
          cases opened.getLast? <;> rfl

/-- A component keeps its attributes where it is closed. -/
theorem outermost?_close (opened : List Node) (finished : Option Node) (kind : Kind)
    (attributes : List (String × String)) (children children' : List Node) :
    (Builder.attach ⟨opened, finished⟩ (.node kind attributes children')).outermost? =
      (Builder.mk (.node kind attributes children :: opened) finished).outermost? := by
  rw [outermost?_attach]
  exact (outermost?_open ⟨opened, finished⟩ (.node kind attributes children)).symm

/-- **One token**: the first tag gives the outermost component, and no tag has broken attributes. -/
theorem outermost?_feed {b b' : Builder} {token : PlacedToken} (h : b.feed token = .ok b') :
    b'.outermost? = b.outermost?.or (token.token.tag?.map attributesOf) ∧
      ∀ tag, token.token.tag? = some tag → ∃ pairs, tag.attributes = .ok pairs := by
  unfold Builder.feed at h
  cases ht : token.token with
  | startTag tag =>
      simp only [ht] at h
      obtain ⟨n, hnode, h⟩ := bind_eq_ok.mp h
      obtain rfl := Except.ok.inj h
      obtain ⟨hattributes, hpairs⟩ := nodeOfTag_eq_ok hnode
      refine ⟨?_, fun tag' htag => Option.some.inj htag ▸ hpairs⟩
      rw [Token.tag?, Option.map_some, ← hattributes]
      exact outermost?_open b n
  | emptyTag tag =>
      simp only [ht] at h
      obtain ⟨n, hnode, h⟩ := bind_eq_ok.mp h
      obtain rfl := Except.ok.inj h
      obtain ⟨hattributes, hpairs⟩ := nodeOfTag_eq_ok hnode
      refine ⟨?_, fun tag' htag => Option.some.inj htag ▸ hpairs⟩
      rw [Token.tag?, Option.map_some, ← hattributes]
      exact outermost?_attach b n
  | endTag name =>
      simp only [ht] at h
      refine ⟨?_, fun tag htag => by cases htag⟩
      show b'.outermost? = b.outermost?.or none
      rw [Option.or_none]
      obtain ⟨opened, finished⟩ := b
      cases opened with
      | nil =>
          obtain rfl := Except.ok.inj h
          rfl
      | cons parent opened =>
          obtain ⟨kind, attributes, children⟩ := parent
          obtain rfl := Except.ok.inj h
          exact outermost?_close opened finished kind attributes children children.reverse
  | text | comment | characterData | documentType | instruction =>
      simp only [ht] at h
      obtain rfl := Except.ok.inj h
      exact ⟨Option.or_none.symm, fun tag htag => by cases htag⟩

/-- **All tokens**: the outermost component is that of the first tag. -/
theorem outermost?_foldlM {b b' : Builder} {tokens : List PlacedToken} (h : tokens.foldlM Builder.feed b = .ok b') :
    b'.outermost? = b.outermost?.or (tokens.findSome? fun token => token.token.tag?.map attributesOf) ∧
      ∀ token ∈ tokens, ∀ tag, token.token.tag? = some tag → ∃ pairs, tag.attributes = .ok pairs := by
  induction tokens generalizing b with
  | nil =>
      obtain rfl := Except.ok.inj h
      exact ⟨Option.or_none.symm, fun token hmem => absurd hmem List.not_mem_nil⟩
  | cons token tokens ih =>
      rw [List.foldlM_cons] at h
      obtain ⟨mid, hfeed, h⟩ := bind_eq_ok.mp h
      obtain ⟨hfirst, htag⟩ := outermost?_feed hfeed
      obtain ⟨hmore, htags⟩ := ih h
      refine ⟨?_, List.forall_mem_cons.mpr ⟨htag, htags⟩⟩
      rw [hmore, hfirst, Option.or_assoc, List.findSome?_cons]
      cases token.token.tag?.map attributesOf <;> rfl

/-- A schema that is read is the first component that is finished outside of all. -/
theorem exists_root_of_read {text : List Char} {order : TableOrder} {schema : Schema}
    (h : Schema.read text order = .ok schema) :
    ∃ b root, (tokens text).tokens.foldlM Builder.feed {} = .ok b ∧ b.finished = some root ∧ schema = ofRoot root order := by
  obtain ⟨b, hfold, h⟩ := bind_eq_ok.mp h
  split at h
  · cases h
  · rename_i root hflaw hroot
    split at h
    · exact ⟨b, root, hfold, hroot, (Except.ok.inj h).symm⟩
    · cases h
  · cases h

/-- **The outermost component** of a schema is that of the first tag in its text. -/
theorem exists_firstTag_of_read {text : List Char} {order : TableOrder} {schema : Schema}
    (h : Schema.read text order = .ok schema) :
    ∃ former token latter tag pairs, (tokens text).tokens = former ++ token :: latter ∧
      (∀ other ∈ former, other.token.tag? = none) ∧ token.token.tag? = some tag ∧ tag.attributes = .ok pairs ∧
      schema.root.attributes = pairs.map fun pair => (String.ofList pair.1, String.ofList pair.2) := by
  obtain ⟨b, root, hfold, hfinished, rfl⟩ := exists_root_of_read h
  obtain ⟨houtermost, htags⟩ := outermost?_foldlM hfold
  have hfirst : (tokens text).tokens.findSome? (fun token => token.token.tag?.map attributesOf) = some root.attributes := by
    rw [Builder.outermost?, hfinished] at houtermost
    exact houtermost.symm
  obtain ⟨former, token, latter, htokens, htag, hformer⟩ := List.findSome?_eq_some_iff.mp hfirst
  obtain ⟨tag, htag, hattributes⟩ := Option.map_eq_some_iff.mp htag
  obtain ⟨pairs, hpairs⟩ := htags token (by rw [htokens]; simp) tag htag
  refine ⟨former, token, latter, tag, pairs, htokens, ?_, htag, hpairs, ?_⟩
  · exact fun other hmem => Option.map_eq_none_iff.mp (hformer other hmem)
  · show root.attributes = _
    rw [← hattributes, attributesOf, pairsOf, hpairs]
    rfl

end XmlDiagnostics.Schema
