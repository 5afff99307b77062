import Mathlib.Data.List.Nodup
import XmlDiagnostics.Document
import XmlDiagnostics.Proofs.Attributes
import XmlDiagnostics.Proofs.Markup.Printing
import XmlDiagnostics.Proofs.Tree.Shape

/-! # Reading undoes printing

The source of an element is an element with its children and with the layout of its tags. It is printed as
nested tags, each of which declares the namespace of its name for names without a colon. Reading what
is printed gives the elements back (`read_print`): cutting gives the tags of the source
(`Source.exists_cut_print`), and putting these together gives its tree (`Source.exists_feedAll`). -/

namespace XmlDiagnostics

namespace Document

open Markup

/-! ### Sources -/

/-- What a tag tells of an element: its name and its attributes, with the number of them that stand before the
declaration of the namespace. -/
structure Heading where
  name : QName
  attributes : Attributes
  declaredAfter : Nat
  isName_localName : isName name.localName.toList = true
  isName_of_mem_keys : ∀ key ∈ attributes.keys, isName key.toList = true
  xmlns_not_mem_keys : "xmlns" ∉ attributes.keys

/-- An element as it is printed: with a single tag, or with a start tag, its children and an end tag. -/
inductive Source where
  | empty (heading : Heading) (layout : Layout)
  | pair (heading : Heading) (layout : Layout) (children : List Source)

namespace Heading

/-- The local name as a text. -/
def localName (heading : Heading) : List Char := heading.name.localName.toList

/-- The attributes as they are written in the tag. -/
def written (heading : Heading) : List (List Char × List Char) :=
  heading.attributes.toList.map fun (key, value) => (key.toList, value.toList)

/-- The declaration of the namespace. -/
def declaration (heading : Heading) : List Char × List Char := ("xmlns".toList, heading.name.namespaceUri.toList)

/-- All that is written in the tag after its name. -/
def pairs (heading : Heading) : List (List Char × List Char) :=
  heading.written.take heading.declaredAfter ++ heading.declaration :: heading.written.drop heading.declaredAfter

/-- The tag in a layout. -/
def tag (heading : Heading) (layout : Layout) : Tag := layout.printTag heading.localName heading.pairs

/-- What reading is to give back of an element. -/
def label (heading : Heading) : QName × Attributes := (heading.name, heading.attributes)

end Heading

/-- What is compared of an element. -/
def labelOf (element : Element) : QName × Attributes := (element.name, element.attributes)

namespace Source

mutual

/-- The text of an element. -/
def print : Source → List Char
  | empty heading layout => '<' :: ((heading.tag layout).content ++ ['/', '>'])
  | pair heading layout children =>
    '<' :: ((heading.tag layout).content ++ '>' :: (printIn children ++ '<' :: '/' :: (heading.localName ++ ['>'])))

/-- The text of one element after the other. -/
def printIn : List Source → List Char
  | [] => []
  | source :: sources => source.print ++ printIn sources

end

mutual

/-- The tags of an element. -/
def tokens : Source → List Token
  | empty heading layout => [.emptyTag (heading.tag layout)]
  | pair heading layout children =>
    .startTag (heading.tag layout) :: (tokensIn children ++ [.endTag heading.localName])

/-- The tags of one element after the other. -/
def tokensIn : List Source → List Token
  | [] => []
  | source :: sources => source.tokens ++ tokensIn sources

end

mutual

/-- The names and the attributes of an element and of those in it. -/
def labels : Source → Tree (QName × Attributes)
  | empty heading _ => .node (some heading.label) []
  | pair heading _ children => .node (some heading.label) (labelsIn children)

/-- The names and the attributes of one element after the other. -/
def labelsIn : List Source → List (Tree (QName × Attributes))
  | [] => []
  | source :: sources => source.labels :: labelsIn sources

end

end Source

/-! ### The attributes of a heading -/

namespace Heading

variable (heading : Heading)

theorem isName_of_mem_written {pair : List Char × List Char} (h : pair ∈ heading.written) :
    isName pair.1 = true ∧ pair.1 ≠ "xmlns".toList := by
  obtain ⟨⟨key, value⟩, hmem, rfl⟩ := List.mem_map.mp h
  have hkey : key ∈ heading.attributes.keys := List.mem_map.mpr ⟨(key, value), hmem, rfl⟩
  refine ⟨heading.isName_of_mem_keys key hkey, fun heq => ?_⟩
  rw [String.toList_inj] at heq
  exact heading.xmlns_not_mem_keys (heq ▸ hkey)

theorem isName_of_mem_pairs {pair : List Char × List Char} (h : pair ∈ heading.pairs) : isName pair.1 = true := by
  rcases List.mem_append.mp h with h | h
  · exact (heading.isName_of_mem_written (List.mem_of_mem_take h)).1
  · rcases List.mem_cons.mp h with rfl | h
    · exact (by decide : isName "xmlns".toList = true)
    · exact (heading.isName_of_mem_written (List.mem_of_mem_drop h)).1

theorem nodup_written : (heading.written.map Prod.fst).Nodup := by
  have hkeys : heading.written.map Prod.fst = heading.attributes.keys.map String.toList := by
    rw [written, Attributes.keys, List.map_map, List.map_map]
    rfl
  rw [hkeys]
  exact List.Nodup.map (fun _ _ h => String.toList_inj.mp h) heading.attributes.nodup

theorem nodup_pairs : (heading.pairs.map Prod.fst).Nodup := by
  rw [pairs, List.map_append, List.map_cons, List.nodup_middle, ← List.map_append, List.take_append_drop, List.nodup_cons]
  refine ⟨fun hmem => ?_, heading.nodup_written⟩
  obtain ⟨pair, hpair, heq⟩ := List.mem_map.mp hmem
  exact (heading.isName_of_mem_written hpair).2 heq

/-- A name declares no namespace unless it is the one that does. -/
theorem declaredName?_eq_none {key : List Char} (hname : isName key = true) (hkey : key ≠ "xmlns".toList) :
    declaredName? key = none := by
  have hprefix : declarationMark.isPrefixOf key = false := by
    rw [Bool.eq_false_iff, ne_eq, List.isPrefixOf_iff_prefix]
    intro h
    exact not_mem_of_isName hname (by decide : ':' ∈ signs) (h.subset (by decide))
  rw [declaredName?, if_neg hkey, hprefix, if_neg Bool.false_ne_true]

/-- What is written of the attributes declares no namespace. -/
theorem scopeOf_written {pairs : List (List Char × List Char)} (h : ∀ pair ∈ pairs, pair ∈ heading.written) :
    (pairs.filterMap fun (key, value) => (declaredName? key).map (·, String.ofList value)) = [] := by
  rw [List.filterMap_eq_nil_iff]
  intro pair hpair
  obtain ⟨hname, hkey⟩ := heading.isName_of_mem_written (h pair hpair)
  simp only [declaredName?_eq_none hname hkey, Option.map_none]

/-- A heading declares the namespace of its name. -/
theorem scopeOf_pairs : scopeOf heading.pairs = [([], heading.name.namespaceUri)] := by
  rw [scopeOf, pairs, List.filterMap_append, List.filterMap_cons_some (b := ([], heading.name.namespaceUri)),
    heading.scopeOf_written fun _ h => List.mem_of_mem_take h, heading.scopeOf_written fun _ h => List.mem_of_mem_drop h]
  · rfl
  · simp [declaration, declaredName?, String.ofList_toList]

/-- What is written of the attributes is read back. -/
theorem properAttributes_written (pairs : List (String × String))
    (h : ∀ pair ∈ pairs, pair ∈ heading.attributes.toList) :
    ((pairs.map fun (key, value) => (key.toList, value.toList)).filterMap fun (key, value) =>
      if (declaredName? key).isNone then some (String.ofList key, String.ofList value) else none) = pairs := by
  rw [List.filterMap_map]
  refine (List.filterMap_congr fun pair hpair => ?_).trans List.filterMap_some
  obtain ⟨hname, hkey⟩ := heading.isName_of_mem_written
    (List.mem_map.mpr ⟨pair, h pair hpair, rfl⟩ : (pair.1.toList, pair.2.toList) ∈ heading.written)
  simp [declaredName?_eq_none hname hkey, String.ofList_toList]

/-- The declaration is not among the attributes. -/
theorem properAttributes_pairs : properAttributes heading.pairs = heading.attributes := by
  rw [properAttributes, pairs, List.filterMap_append, List.filterMap_cons_none, written, ← List.map_take,
    ← List.map_drop, heading.properAttributes_written _ fun _ h => List.mem_of_mem_take h,
    heading.properAttributes_written _ fun _ h => List.mem_of_mem_drop h, List.take_append_drop,
    Attributes.ofList_toList]
  rfl

theorem attributes_tag (layout : Layout) : (heading.tag layout).attributes = .ok heading.pairs :=
  attributes_printTag layout heading.isName_localName (fun _ h => heading.isName_of_mem_pairs h) heading.nodup_pairs

theorem name_tag (layout : Layout) : (heading.tag layout).name = heading.localName :=
  name_printTag layout heading.isName_localName

theorem readMarkup_startTag (layout : Layout) (opened : List (List Char)) (rest : List Char) :
    ∃ length, readMarkup opened ((heading.tag layout).content ++ '>' :: rest) =
      .read (.startTag (heading.tag layout)) length rest :=
  Markup.readMarkup_startTag layout heading.isName_localName (fun _ h => heading.isName_of_mem_pairs h) opened rest

theorem readMarkup_emptyTag (layout : Layout) (opened : List (List Char)) (rest : List Char) :
    ∃ length, readMarkup opened ((heading.tag layout).content ++ '/' :: '>' :: rest) =
      .read (.emptyTag (heading.tag layout)) length rest :=
  Markup.readMarkup_emptyTag layout heading.isName_localName (fun _ h => heading.isName_of_mem_pairs h) opened rest

theorem readMarkup_endTag (opened : List (List Char)) (rest : List Char) :
    ∃ length, readMarkup (heading.localName :: opened) ('/' :: (heading.localName ++ '>' :: rest)) =
      .read (.endTag heading.localName) length rest :=
  Markup.readMarkup_endTag heading.isName_localName opened rest

end Heading

/-! ### Cutting -/

namespace Source

mutual

/-- **Cutting**: a printed element is cut into its tags, whatever comes after it. -/
theorem exists_cut_print : ∀ (source : Source) {n : Nat} {rest : List Char},
    (source.print ++ rest).length < n → ∀ (offset : Nat) (opened : List (List Char)),
    ∃ m offset' placed, rest.length < m ∧ placed.map PlacedToken.token = source.tokens ∧
      cut n offset opened (source.print ++ rest) = (cut m offset' opened rest).after placed
  | .empty heading layout, n, rest, hn, offset, opened => by
      have htext : (empty heading layout).print ++ rest =
          '<' :: ((heading.tag layout).content ++ '/' :: '>' :: rest) := by
        simp [print]
      rw [htext] at hn ⊢
      obtain ⟨_, hread⟩ := heading.readMarkup_emptyTag layout opened rest
      obtain ⟨m, offset', token, hm, htoken, hcut⟩ := exists_cut_of_readMarkup hread hn offset
      refine ⟨m, offset', [token], hm, ?_, hcut⟩
      rw [List.map_singleton, htoken, tokens]
  | .pair heading layout children, n, rest, hn, offset, opened => by
      have htext : (pair heading layout children).print ++ rest = '<' :: ((heading.tag layout).content ++
          '>' :: (printIn children ++ '<' :: '/' :: (heading.localName ++ '>' :: rest))) := by
        simp [print]
      rw [htext] at hn ⊢
      obtain ⟨_, hread⟩ := heading.readMarkup_startTag layout opened
        (printIn children ++ '<' :: '/' :: (heading.localName ++ '>' :: rest))
      obtain ⟨n₁, offset₁, opening, hn₁, hopening, hstart⟩ := exists_cut_of_readMarkup hread hn offset
      rw [openedAfter, heading.name_tag layout] at hstart
      obtain ⟨n₂, offset₂, placed, hn₂, hplaced, hinner⟩ :=
        exists_cut_printIn children hn₁ offset₁ (heading.localName :: opened)
      obtain ⟨_, hread⟩ := heading.readMarkup_endTag opened rest
      obtain ⟨m, offset', closing, hm, hclosing, hend⟩ := exists_cut_of_readMarkup hread hn₂ offset₂
      refine ⟨m, offset', opening :: (placed ++ [closing]), hm, ?_, ?_⟩
      · rw [List.map_cons, List.map_append, List.map_singleton, hopening, hplaced, hclosing, tokens]
      · rw [hstart, hinner, hend]
        simp [Tokens.cons, Tokens.after, openedAfter]

theorem exists_cut_printIn : ∀ (sources : List Source) {n : Nat} {rest : List Char},
    (printIn sources ++ rest).length < n → ∀ (offset : Nat) (opened : List (List Char)),
    ∃ m offset' placed, rest.length < m ∧ placed.map PlacedToken.token = tokensIn sources ∧
      cut n offset opened (printIn sources ++ rest) = (cut m offset' opened rest).after placed
  | [], n, rest, hn, offset, opened => ⟨n, offset, [], hn, rfl, rfl⟩
  | source :: sources, n, rest, hn, offset, opened => by
      rw [printIn, List.append_assoc] at hn ⊢
      obtain ⟨n₁, offset₁, placed, hn₁, hplaced, hfirst⟩ := exists_cut_print source hn offset opened
      obtain ⟨m, offset', placed', hm, hplaced', hothers⟩ := exists_cut_printIn sources hn₁ offset₁ opened
      refine ⟨m, offset', placed ++ placed', hm, ?_, ?_⟩
      · rw [List.map_append, hplaced, hplaced', tokensIn]
      · rw [hfirst, hothers]
        simp [Tokens.after]

end

/-! ### Putting together -/

variable (place : Nat → Position)

/-- A tag of a heading opens an element with its label wherever an element can stand. -/
theorem openTag_tag (heading : Heading) (layout : Layout) {b : Builder}
    (hb : (b.opened.isEmpty && b.hasElement) = false) (position : Position) :
    b.openTag (heading.tag layout) position =
      .ok ⟨⟨⟨heading.name, heading.attributes, position, .unknown⟩, ([], heading.name.namespaceUri) :: b.scope, []⟩ ::
        b.opened, b.finished⟩ := by
  have hcolon : ':' ∉ heading.localName := not_mem_of_isName heading.isName_localName (by decide)
  have hname := splitName_of_no_colon hcolon
  have hlocal : String.ofList heading.localName = heading.name.localName := String.ofList_toList
  unfold Builder.openTag
  rw [hb, if_neg Bool.false_ne_true]
  simp only [heading.attributes_tag, heading.name_tag, heading.scopeOf_pairs, heading.properAttributes_pairs, hname,
    hlocal]
  rfl

mutual

/-- **Putting together**: the tags of a source, wherever an element can stand, attach its tree. -/
theorem exists_feedAll : ∀ (source : Source) {placed : List PlacedToken},
    placed.map PlacedToken.token = source.tokens → ∀ {b : Builder}, (b.opened.isEmpty && b.hasElement) = false →
    ∀ more, ∃ tree, tree.map labelOf = source.labels ∧
      b.feedAll place (placed ++ more) = (b.attach tree).feedAll place more
  | .empty heading layout, placed, hplaced, b, hb, more => by
      rw [tokens] at hplaced
      obtain ⟨token, rfl, htoken⟩ := List.map_eq_singleton_iff.mp hplaced
      refine ⟨.node (some ⟨heading.name, heading.attributes, place token.start, place token.stop⟩) [], rfl, ?_⟩
      rw [List.singleton_append, Builder.feedAll]
      simp only [Builder.feed, htoken, openTag_tag heading layout hb, Except.mapError, bind, Except.bind]
      rfl
  | .pair heading layout children, placed, hplaced, b, hb, more => by
      rw [tokens] at hplaced
      obtain ⟨opening, placed, rfl, hopening, hplaced⟩ := List.map_eq_cons_iff.mp hplaced
      obtain ⟨inner, last, rfl, hinner, hlast⟩ := List.map_eq_append_iff.mp hplaced
      obtain ⟨closing, rfl, hclosing⟩ := List.map_eq_singleton_iff.mp hlast
      obtain ⟨trees, htrees, hfeed⟩ := exists_feedAllIn children hinner
        ⟨⟨heading.name, heading.attributes, place opening.start, .unknown⟩,
          ([], heading.name.namespaceUri) :: b.scope, []⟩ b.opened b.finished (closing :: more)
      refine ⟨.node (some ⟨heading.name, heading.attributes, place opening.start, place closing.stop⟩) trees, ?_, ?_⟩
      · rw [Tree.map, htrees, labels]
        rfl
      · rw [List.cons_append, List.append_assoc, List.singleton_append, Builder.feedAll]
        simp only [Builder.feed, hopening, openTag_tag heading layout hb, Except.mapError, hfeed, Builder.feedAll,
          hclosing, Builder.closeTag, OpenElement.close, List.append_nil, List.reverse_reverse]

theorem exists_feedAllIn : ∀ (sources : List Source) {placed : List PlacedToken},
    placed.map PlacedToken.token = tokensIn sources →
    ∀ (o : OpenElement) (opened : List OpenElement) (finished : List (Tree Element)) (more : List PlacedToken),
    ∃ trees, Tree.mapIn labelOf trees = labelsIn sources ∧
      Builder.feedAll place ⟨o :: opened, finished⟩ (placed ++ more) =
        Builder.feedAll place ⟨{ o with children := trees.reverse ++ o.children } :: opened, finished⟩ more
  | [], placed, hplaced, o, opened, finished, more => by
      obtain rfl := List.map_eq_nil_iff.mp hplaced
      exact ⟨[], rfl, rfl⟩
  | source :: sources, placed, hplaced, o, opened, finished, more => by
      rw [tokensIn] at hplaced
      obtain ⟨first, others, rfl, hfirst, hothers⟩ := List.map_eq_append_iff.mp hplaced
      obtain ⟨tree, htree, hfeed⟩ := exists_feedAll source hfirst (b := ⟨o :: opened, finished⟩) rfl (others ++ more)
      obtain ⟨trees, htrees, hfeedIn⟩ := exists_feedAllIn sources hothers
        { o with children := tree :: o.children } opened finished more
      refine ⟨tree :: trees, ?_, ?_⟩
      · rw [Tree.mapIn, htree, htrees, labelsIn]
      · rw [List.append_assoc, hfeed, Builder.attach, hfeedIn, List.reverse_cons, List.append_assoc]
        rfl

end

/-- The tokens of what is printed are the tags of the source, and its markup has no flaw. -/
theorem exists_tokens_print (source : Source) :
    ∃ placed, placed.map PlacedToken.token = source.tokens ∧ Markup.tokens source.print = ⟨placed, none⟩ := by
  have hmark : withoutMark source.print = source.print := by
    cases source with
    | empty heading layout => rfl
    | pair heading layout children => rfl
  have hlength : (source.print ++ []).length < source.print.length + 1 := by simp
  obtain ⟨m, offset, placed, hm, hplaced, hcut⟩ := source.exists_cut_print hlength 0 []
  obtain ⟨m, rfl⟩ := Nat.exists_eq_add_one.mpr hm
  rw [List.append_nil, cut, Tokens.after, List.append_nil] at hcut
  exact ⟨placed, hplaced, by rw [Markup.tokens, hmark, hcut]⟩

end Source

/-- **Reading undoes printing.** What is printed of a source is well-formed, and reading it gives an element for
each one of the source, in its place, with its name and with its attributes in their order. -/
theorem read_print (source : Source) :
    (Document.read source.print).valid = true ∧ (Document.read source.print).failure = none ∧
      (Document.read source.print).tree.map labelOf = .node none [source.labels] := by
  obtain ⟨placed, hplaced, htokens⟩ := source.exists_tokens_print
  obtain ⟨tree, htree, hfeed⟩ := source.exists_feedAll (Text.positionIn (Text.positionTable source.print)) hplaced
    (b := .start) rfl []
  rw [List.append_nil, Builder.feedAll] at hfeed
  have hlast : lastFlaw (Text.byteLength source.print) (Builder.start.attach tree) none = none := rfl
  have htop : (Builder.start.attach tree).toTree .unknown = .node none [tree] := by
    simp [Builder.toTree, Builder.start, Builder.attach, Builder.closeAll]
  have hread : Document.read source.print = ⟨.node none [tree], none⟩ := by
    unfold Document.read
    simp only [htokens, hfeed, hlast, htop, Option.or]
  rw [hread]
  exact ⟨rfl, rfl, by rw [Tree.map, Tree.mapIn, htree]; rfl⟩

/-- Line breaks in the tags, a value that looks like a tag, and both forms of an element without children. -/
example :
    let layout : Layout := ⟨['\n', ' '], [], .double, by decide, by decide, by decide⟩
    let inner : Heading := ⟨⟨"", "b"⟩, ∅, 0, by decide, by decide, by decide⟩
    let outer : Heading := ⟨⟨"urn:o", "a"⟩, .ofList [("k", "<b c='1'>")], 1, by decide, by decide, by decide⟩
    (Source.pair outer layout [.empty inner layout, .pair inner layout []]).print =
      "<a\n k=\"&lt;b c=&apos;1&apos;&gt;\"\n xmlns=\"urn:o\"><b\n xmlns=\"\"/><b\n xmlns=\"\"></b></a>".toList := by
  decide +kernel

end Document

end XmlDiagnostics
