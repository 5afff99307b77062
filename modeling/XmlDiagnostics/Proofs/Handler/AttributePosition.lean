import XmlDiagnostics.Handler.Explain
import XmlDiagnostics.Proofs.Attributes
import XmlDiagnostics.Proofs.Context.Locating
import XmlDiagnostics.Proofs.Document.Spans
import XmlDiagnostics.Proofs.Handler.Appearance

/-! # The position of an attribute

An error about an attribute is placed at the first appearance of its key ahead of the bracket that opens the tag of its
element, or at the bracket if the key does not appear there. The scan knows neither values nor the end of the tag, so
the position is that of the attribute just if the attribute appears in its line and nothing ahead of it looks like it, and
it is the start of an element without the attribute just if the key does not appear in the rest of the document
(`position_of_attribute_error`). Another tag or a value can come first (`position_in_later_tag`). A key so long that its
pattern is too large is not searched for, and the position is that of the bracket. -/

namespace XmlDiagnostics

open Markup Text Search

/-! ### Elements and the tags that open them -/

namespace Document

/-- A tag of a document is written between brackets. -/
theorem exists_written_tag {text : List Char} (hmark : text.head? ≠ some '\ufeff') {token : PlacedToken}
    (htoken : token ∈ (Markup.tokens text).tokens) {tag : Tag} (htag : token.token.tag? = some tag) :
    ∃ before slash rest, text = before ++ '<' :: (tag.content ++ (slash ++ '>' :: rest)) ∧
      token.start = byteLength before ∧ token.stop = byteLength (before ++ '<' :: (tag.content ++ slash)) + 1 := by
  have hcover : Cover 0 (Markup.tokens text).tokens (withoutMark text) := cover_cut _ _ _ _
  rw [withoutMark_of_head?_ne hmark] at hcover
  obtain ⟨before, written, rest, htext, hwritten, hstart, hstop⟩ := hcover.exists_written htoken
  obtain ⟨slash, -, rfl⟩ := written_of_tag htag hwritten
  have hbracket : '>'.utf8Size = 1 := rfl
  refine ⟨before, slash, rest, ?_, ?_, ?_⟩
  · rw [htext]
    simp
  · rw [hstart, Nat.zero_add]
  · rw [hstop]
    simp only [byteLength_append, byteLength, hbracket]
    omega

/-- In a well-formed document each element is that of a tag, which is written between brackets. -/
theorem exists_opening_of_valid {text : List Char} (hmark : text.head? ≠ some '\ufeff')
    (hvalid : (Document.read text).valid = true) {element : Element} (hmem : element ∈ (Document.read text).tree.values) :
    ∃ scope tag opening closing last, Closes (Markup.tokens text).tokens tag opening closing ∧
      element = elementOf scope tag (positionAt text opening.start) (positionAt text closing.stop) ∧
      BeginsAt text opening.start '<' ∧ BeginsAt text last '>' ∧ opening.stop = last + 1 ∧
      opening.start + byteLength tag.content < last := by
  have hnone : (Document.read text).failure = none := by simpa [Document.valid] using hvalid
  obtain ⟨haccepted, hopen, -⟩ := accepted_of_firstFailure?_eq_none (failure_eq_none_iff.mp hnone)
  obtain ⟨trees, htrees, htree⟩ := exists_bracketed_read text
  rw [completed, completedAt, hopen, List.map_nil, List.append_nil, haccepted] at htrees
  rw [htree, Tree.values, Option.toList_none, List.nil_append] at hmem
  obtain ⟨scope, tag, opening, closing, hcloses, helement⟩ := exists_closes htrees [] hmem
  obtain ⟨before, slash, rest, htext, hstart, hstop⟩ :=
    exists_written_tag hmark (mem_of_closes hcloses).1 (tag?_opening hcloses)
  refine ⟨scope, tag, opening, closing, byteLength (before ++ '<' :: (tag.content ++ slash)), hcloses, helement,
    ⟨before, _, htext, hstart.symm⟩, ⟨_, rest, by rw [htext]; simp, rfl⟩, hstop, ?_⟩
  have hbracket : '<'.utf8Size = 1 := rfl
  rw [hstart]
  simp only [byteLength_append, byteLength, hbracket]
  omega

/-- An attribute of the element of a tag is written in the token that opens the element. -/
theorem exists_placedAttribute_of_attribute? {text : List Char} {scope : Scope} {tag : Tag} {opening closing : PlacedToken}
    {start stop : Position} {key value : String} (hcloses : Closes (Markup.tokens text).tokens tag opening closing)
    (h : (elementOf scope tag start stop).attribute? key = some value) :
    ∃ p : PlacedAttribute text, p.token = opening ∧ p.raw.key = key.toList ∧ p.value = value.toList := by
  have hpair := Attributes.mem_of_mem_ofList (mem_of_lookup_eq_some h)
  obtain ⟨⟨written, text'⟩, hmem, hsome⟩ := List.mem_filterMap.mp hpair
  obtain ⟨-, hsame⟩ := Option.ite_none_right_eq_some.mp hsome
  obtain ⟨rfl, rfl⟩ := Prod.mk.inj (Option.some.inj hsame)
  rw [String.toList_ofList, String.toList_ofList]
  cases hattributes : tag.attributes with
  | error flaw =>
      rw [pairsOf, hattributes] at hmem
      cases hmem
  | ok attributes =>
      rw [pairsOf, hattributes] at hmem
      exact exists_placedAttribute_of_attributes (mem_of_closes hcloses).1 (tag?_opening hcloses) hattributes hmem

end Document

/-- A key begins at the octet where its attribute is placed. -/
theorem Markup.AttributeAt.exists_beginsAt {text : List Char} {raw : RawAttribute} (place : AttributeAt text raw) :
    ∃ c, BeginsAt text (byteLength place.before) c := by
  obtain ⟨c, more, hcons, -⟩ := place.not_isSeparator_head_key
  exact ⟨c, place.before, _, by conv => lhs; rw [place.text_eq, hcons, List.cons_append], rfl⟩

namespace Context

variable (ctx : Context) {error : ValidationError} {name attributeName : QName} {element : Element}

/-! ### What the handlers place -/

theorem position_withFailure (d : Diagnosis) : (ctx.withFailure d).position = d.position := by
  unfold withFailure
  split <;> rfl

theorem primary_withFailure (d : Diagnosis) : (ctx.withFailure d).primary = d.primary := by
  unfold withFailure
  split <;> rfl

theorem position_adviseAttribute (key : String) (known : Bool) (allowed : List String) (d : Diagnosis) :
    (ctx.adviseAttribute key name known allowed d).position = d.position := by
  unfold adviseAttribute
  split
  · rfl
  · split
    · rfl
    · split <;> rfl

theorem position_explainUnexpectedAttribute (helement : error.element = some name)
    (hname : error.attributeName = some attributeName) : (ctx.explainUnexpectedAttribute error).position =
      ctx.attributePosition (ctx.documentPathAt name error.position) attributeName.localName error.position := by
  unfold explainUnexpectedAttribute
  rw [helement, hname]
  dsimp only
  split
  · exact ctx.position_adviseAttribute ..
  · exact ctx.position_adviseAttribute ..

/-- Where an attribute has no value the message of the validator is repeated, at its own position. -/
theorem position_explainInvalidValue (helement : error.element = some name)
    (hname : error.attributeName = some attributeName)
    (hmessage : (ctx.explainInvalidValue error).primary.map Message.key ≠ some .reportedError) :
    (ctx.explainInvalidValue error).position =
      ctx.attributePosition (ctx.documentPathAt name error.position) attributeName.localName error.position := by
  unfold explainInvalidValue at hmessage ⊢
  rw [helement, hname] at hmessage ⊢
  dsimp only at hmessage ⊢
  split
  · rename_i hnone
    rw [hnone] at hmessage
    exact absurd rfl hmessage
  · split <;> rfl

/-- The diagnosis of a handler that tells what is wrong with an attribute. -/
theorem position_handle
    (hhandler : ctx.registry.get? error.kind = some (.builtin .unexpectedAttribute) ∨
      ctx.registry.get? error.kind = some (.builtin .invalidAttributeValue))
    (helement : error.element = some name) (hname : error.attributeName = some attributeName)
    (hmessage : (ctx.handle error).primary.map Message.key ∈ [some .attributeNotAllowed, some .attributeInvalidValue]) :
    (ctx.handle error).position =
      ctx.attributePosition (ctx.documentPathAt name error.position) attributeName.localName error.position := by
  rcases hhandler with hhandler | hhandler
  · rw [handle_of_handler hhandler, position_withFailure]
    exact ctx.position_explainUnexpectedAttribute helement hname
  · rw [handle_of_handler hhandler, primary_withFailure] at hmessage
    rw [handle_of_handler hhandler, position_withFailure]
    have hvalue : (ctx.explainInvalidValue error).primary.map Message.key ∈
      [some .attributeNotAllowed, some .attributeInvalidValue] := hmessage
    refine ctx.position_explainInvalidValue helement hname fun hrepeated => ?_
    rw [hrepeated] at hvalue
    simp at hvalue

theorem attributePosition_eq {path : DocumentPath} (hlast : path.getLast? = some element) {key : String}
    (hpattern : (attributePattern? key).isSome = true) (fallback : Position) :
    ctx.attributePosition path key fallback =
      (ctx.searchFrom element.start (attributePattern key)).getD element.start := by
  obtain ⟨p, hbuilt⟩ := Option.isSome_iff_exists.mp hpattern
  obtain rfl := Pattern.eq_of_built? hbuilt
  rw [attributePosition, hbuilt, DocumentPath.start, hlast]
  rfl

/-- Without a pattern for it an attribute is not searched for. -/
theorem attributePosition_eq_start {path : DocumentPath} (hlast : path.getLast? = some element) {key : String}
    (hpattern : attributePattern? key = none) (fallback : Position) :
    ctx.attributePosition path key fallback = element.start := by
  rw [attributePosition, hpattern, DocumentPath.start, hlast]
  rfl

theorem mem_values_of_documentPathAt {position : Position}
    (hlast : (ctx.documentPathAt name position).getLast? = some element) : element ∈ ctx.document.tree.values := by
  obtain ⟨outer, element', node, hpath, -, hleads⟩ := ctx.mem_documentPaths_iff.mp (ctx.documentPathAt_mem hlast)
  rw [hpath, List.getLast?_concat, Option.some.injEq] at hlast
  subst hlast
  exact hleads.mem_values element' (List.mem_append_right _ (List.mem_singleton_self _))

/-- **The position of an error about an attribute.** Let a document with fewer than `2 ^ 31` characters and no mark at its
beginning be well-formed, and let an error about an attribute of one of its elements be explained as such. If the pattern
of the key is too large, the position is that of the bracket which opens the tag of the element. Else it is that of the
bracket or one behind it: that of the bracket just if the key does not appear ahead of it, and one within the tag just if it
does not appear there, or does so before the end of the tag. If the tag has the attribute, the position is that of its key
just if the scan can see it and nothing ahead of it looks like it. -/
theorem position_of_attribute_error (hlength : ctx.text.length < 2 ^ 31) (hmark : ctx.text.head? ≠ some '\ufeff')
    (hvalid : ctx.document.valid = true)
    (hhandler : ctx.registry.get? error.kind = some (.builtin .unexpectedAttribute) ∨
      ctx.registry.get? error.kind = some (.builtin .invalidAttributeValue))
    (helement : error.element = some name) (hname : error.attributeName = some attributeName)
    (hfound : (ctx.documentPathAt name error.position).getLast? = some element)
    (hmessage : (ctx.handle error).primary.map Message.key ∈ [some .attributeNotAllowed, some .attributeInvalidValue]) :
    let position := (ctx.handle error).position
    let key := attributeName.localName
    let ahead := Ahead ctx.lines key.toList element.start
    (attributePattern? key = none → position = element.start) ∧
    ((attributePattern? key).isSome = true →
    ∃ scope tag opening closing last, Closes (Markup.tokens ctx.text).tokens tag opening closing ∧
      element = Document.elementOf scope tag (positionAt ctx.text opening.start) (positionAt ctx.text closing.stop) ∧
      BeginsAt ctx.text last '>' ∧ opening.stop = last + 1 ∧
      element.start ≤ position ∧
      (position = element.start ↔ ahead = ∅ ∨ element.start ∈ ahead) ∧
      (position < positionAt ctx.text last ↔ ahead = ∅ ∨ ∃ q ∈ ahead, q < positionAt ctx.text last) ∧
      ((element.attribute? key).isSome = true →
        ∃ p : PlacedAttribute ctx.text, p.token = opening ∧ p.raw.key = key.toList) ∧
      ∀ p : PlacedAttribute ctx.text, p.token = opening → p.raw.key = key.toList →
        let place := positionAt ctx.text (byteLength p.place.before)
        element.start < place ∧ place < positionAt ctx.text last ∧
        (position = place ↔ Visible p.place ∧ ∀ q ∈ ahead, place ≤ q)) := by
  intro position key ahead
  have hhandled := ctx.position_handle hhandler helement hname hmessage
  refine ⟨fun hnone => hhandled.trans (ctx.attributePosition_eq_start hfound hnone error.position), fun hpattern => ?_⟩
  have hposition : position = (ctx.searchFrom element.start (attributePattern key)).getD element.start :=
    hhandled.trans (ctx.attributePosition_eq hfound hpattern error.position)
  have hread := hvalid
  have hmem := ctx.mem_values_of_documentPathAt hfound
  rw [ctx.document_eq] at hread hmem
  obtain ⟨scope, tag, opening, closing, last, hcloses, hof, hbracket, hbracket', hstop, hwithin⟩ :=
    Document.exists_opening_of_valid hmark hread hmem
  have hstart : element.start = positionAt ctx.text opening.start := by rw [hof]; rfl
  have hplace : element.start.IsPlace := by
    obtain ⟨l, k, heq, -⟩ := inLines_of_beginsAt hlength hbracket (by decide)
    exact ⟨l, k, hstart ▸ heq⟩
  have hanswers := ctx.answers_searchFrom_attribute hlength key hplace
  have hbefore : element.start < positionAt ctx.text last := by
    rw [hstart]
    exact hbracket.positionAt_lt hlength hbracket' (by omega)
  rw [hposition]
  refine ⟨scope, tag, opening, closing, last, hcloses, hof, hbracket', hstop, start_le_getD hanswers,
    getD_eq_start_iff hanswers, getD_lt_iff hanswers hbefore, fun hsome => ?_, fun p hp hkey => ?_⟩
  · obtain ⟨value, hvalue⟩ := Option.isSome_iff_exists.mp hsome
    rw [hof] at hvalue
    obtain ⟨p, hp, hkey, -⟩ := Document.exists_placedAttribute_of_attribute? hcloses hvalue
    exact ⟨p, hp, hkey⟩
  · have htag : p.token.token.tag? = some tag := hp ▸ Document.tag?_opening hcloses
    obtain ⟨hplace, hlt, hseparate⟩ := p.within_tag (Document.withoutMark_of_head?_ne hmark)
    rw [hp] at hplace
    rw [Option.some.inj (p.tag_eq.symm.trans htag)] at hlt
    obtain ⟨c, hkeyed⟩ := p.place.exists_beginsAt
    have hafter : element.start < positionAt ctx.text (byteLength p.place.before) := by
      rw [hstart]
      exact hbracket.positionAt_lt hlength hkeyed (by omega)
    refine ⟨hafter, hkeyed.positionAt_lt hlength hbracket' (by omega), ?_⟩
    rw [ctx.lines_eq, ← hkey] at hanswers
    have hiff := getD_eq_attribute_iff hlength hseparate hanswers hafter
    rw [← ctx.lines_eq, hkey] at hiff
    exact hiff

/-- The key stands in the line behind that of the bracket, and a longer one that ends with it is before it. -/
theorem position_of_attribute_error_behind_longer_key :
    let ctx := ofText "<r>\n<a max-n='1'\n\tn ='2'/></r>".toList
    let error : ValidationError :=
      { kind := .unexpectedAttribute, message := "", position := ⟨2, 1⟩, element := some ⟨"", "a"⟩,
        attributeName := some ⟨"", "n"⟩ }
    let a : Element := ⟨⟨"", "a"⟩, .ofList [("max-n", "1"), ("n", "2")], ⟨2, 1⟩, ⟨3, 10⟩⟩
    ctx.text.length < 2 ^ 31 ∧ ctx.text.head? ≠ some '\ufeff' ∧ ctx.document.valid = true ∧
      ctx.registry.get? error.kind = some (.builtin .unexpectedAttribute) ∧
      (ctx.documentPathAt ⟨"", "a"⟩ error.position).getLast? = some a ∧
      (ctx.handle error).primary = some ⟨.attributeNotAllowed, ["n", "a"]⟩ ∧ (ctx.handle error).position = ⟨3, 2⟩ ∧
      ∃ p : PlacedAttribute ctx.text, p.raw.key = ['n'] ∧
        a.start < positionAt ctx.text (byteLength p.place.before) ∧
        ((ctx.handle error).position = positionAt ctx.text (byteLength p.place.before) ↔
          Visible p.place ∧ ∀ q ∈ Ahead ctx.lines ['n'] a.start, positionAt ctx.text (byteLength p.place.before) ≤ q) := by
  intro ctx error a
  have hlength : ctx.text.length < 2 ^ 31 := by decide
  have hmark : ctx.text.head? ≠ some '\ufeff' := by decide
  have hvalid : ctx.document.valid = true := by decide +kernel
  have hhandler : ctx.registry.get? error.kind = some (.builtin .unexpectedAttribute) := by decide
  have hfound : (ctx.documentPathAt ⟨"", "a"⟩ error.position).getLast? = some a := by decide +kernel
  have hprimary : (ctx.handle error).primary = some ⟨.attributeNotAllowed, ["n", "a"]⟩ := by decide +kernel
  have hsome : (a.attribute? "n").isSome = true := by decide +kernel
  have hpattern : (attributePattern? "n").isSome = true := by decide +kernel
  obtain ⟨-, tag, opening, closing, last, -, -, -, -, -, -, -, hplaced, hplaces⟩ :=
    (ctx.position_of_attribute_error hlength hmark hvalid (.inl hhandler) rfl rfl hfound (by rw [hprimary]; decide)).2 hpattern
  obtain ⟨p, hp, hkey⟩ := hplaced hsome
  obtain ⟨hstart, -, hposition⟩ := hplaces p hp hkey
  exact ⟨hlength, hmark, hvalid, hhandler, hfound, hprimary, by decide +kernel, p, hkey, hstart, hposition⟩

/-- **Other tags and values come first.** The first element lacks the attribute, and the position is in the tag of the next
one. The second element has it, behind a value with the text of an attribute, and the position is in this value. -/
theorem position_in_later_tag :
    let lacking := ofText "<r><a/><b n='1'/></r>".toList
    let error : ValidationError :=
      { kind := .unexpectedAttribute, message := "", position := ⟨1, 4⟩, element := some ⟨"", "a"⟩,
        attributeName := some ⟨"", "n"⟩ }
    let a : Element := ⟨⟨"", "a"⟩, .empty, ⟨1, 4⟩, ⟨1, 8⟩⟩
    let having := ofText "<a x=' n=' n='1'/>".toList
    let error' : ValidationError :=
      { kind := .invalidAttributeValue, message := "", position := ⟨1, 1⟩, element := some ⟨"", "a"⟩,
        attributeName := some ⟨"", "n"⟩ }
    let a' : Element := ⟨⟨"", "a"⟩, .ofList [("x", " n="), ("n", "1")], ⟨1, 1⟩, ⟨1, 19⟩⟩
    (lacking.document.valid = true ∧ (lacking.documentPathAt ⟨"", "a"⟩ ⟨1, 4⟩).getLast? = some a ∧
      (lacking.handle error).primary = some ⟨.attributeNotAllowed, ["n", "a"]⟩ ∧ a.attribute? "n" = none ∧
      (lacking.handle error).position = ⟨1, 11⟩) ∧
    having.document.valid = true ∧ (having.documentPathAt ⟨"", "a"⟩ ⟨1, 1⟩).getLast? = some a' ∧
      (having.handle error').primary = some ⟨.attributeInvalidValue, ["1", "n"]⟩ ∧
      having.text = "<a x=' n=' ".toList ++ "n='1'/>".toList ∧
      positionAt having.text (byteLength "<a x=' n=' ".toList) = ⟨1, 12⟩ ∧
      (having.handle error').position = ⟨1, 8⟩ := by
  decide +kernel

end Context

end XmlDiagnostics
