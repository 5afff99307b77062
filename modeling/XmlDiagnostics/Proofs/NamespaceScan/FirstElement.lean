import XmlDiagnostics.Proofs.Document.Nesting
import XmlDiagnostics.Proofs.Document.Scoping
import XmlDiagnostics.Proofs.NamespaceScan.Declaration
import XmlDiagnostics.Proofs.Text.Joining

/-! # The first element in raw text

The name of the first element is told from the raw text by patterns, and from the tree by reading the document. Where nothing
before the first tag looks like a tag and that tag is plain, both give the same name, unless the name is so long that the
pattern of its declaration is too large; then the scan gives no namespace (`firstElement?_eq_root`). An instruction
can hold what looks like a tag, and then they differ (`firstElement?_within_instruction`). -/

namespace XmlDiagnostics.NamespaceScan

open Pattern Markup Text Document

/-! ### The scan -/

/-- The name that a plain tag has in the namespace it declares itself. -/
def PlainTag.declaredQName (tag : PlainTag) : QName :=
  ⟨String.ofList (((tag.attributes.find? fun a => a.key = declarationKey tag.space).map PlainAttribute.raw).getD []),
    String.ofList tag.localName⟩

variable (tag : PlainTag) {slash : List Char}

theorem not_mem_content_append {sign : Char} (hsign : sign ∈ ['<', '>']) (hslash : slash = [] ∨ slash = ['/']) :
    sign ∉ tag.written.content ++ slash := by
  rw [List.mem_append, not_or]
  refine ⟨tag.not_mem_content hsign, ?_⟩
  rcases hslash with rfl | rfl
  · exact List.not_mem_nil
  · rw [List.mem_singleton]
    rintro rfl
    revert hsign
    decide

/-- A tag holds no comment. -/
theorem peels_tag (hslash : slash = [] ∨ slash = ['/']) :
    Peels ('<' :: (tag.written.content ++ slash ++ ['>'])) ('<' :: (tag.written.content ++ slash ++ ['>'])) := by
  have hnot : ∀ c ∈ tag.written.content ++ slash ++ ['>'], opensMarkup c = false := by
    intro c hc
    refine decide_eq_false ?_
    rintro rfl
    rcases List.mem_append.mp hc with hc | hc
    · exact not_mem_content_append tag (by decide) hslash hc
    · cases List.mem_singleton.mp hc
  obtain ⟨c, rest, hname, hc⟩ := tag.exists_name_eq_cons
  have hopens : opensNoComment (tag.written.content ++ slash ++ ['>']) = true := by
    rw [PlainTag.written, hname]
    exact opensNoComment_cons hc _
  exact .of_piece (behind_cons.mpr ⟨fun _ => hopens, behind_of_forall_not hnot⟩)

/-- **The scan** finds a plain tag behind a calm text, and what it declares if there is a pattern for it. -/
theorem firstElement?_eq {lines : List String} {prolog rest : List Char} (hcalm : Calm prolog)
    (hslash : slash = [] ∨ slash = ['/'])
    (htext : ("\n".intercalate lines).toList = prolog ++ '<' :: (tag.written.content ++ slash ++ ['>']) ++ rest) :
    ((scopePattern? tag.space).isSome = true → firstElement? lines = some tag.declaredQName) ∧
      (scopePattern? tag.space = none → firstElement? lines = some ⟨"", tag.declaredQName.localName⟩) := by
  obtain ⟨left, hpeels, hleft⟩ := hcalm
  obtain ⟨post, hpost⟩ := exists_withoutComments_append (hpeels.append (peels_tag tag hslash)) rest
  have hform : left ++ '<' :: (tag.written.content ++ slash ++ ['>']) ++ post =
      left ++ '<' :: (writtenName tag.space tag.localName ++ ((tag.afterName ++ slash) ++ ['>'])) ++ post := by
    simp [PlainTag.written, PlainTag.name]
  have hmore : '>' ∉ tag.afterName ++ slash := by
    have hcontent := not_mem_content_append tag (by decide : '>' ∈ ['<', '>']) hslash
    rw [PlainTag.written, List.append_assoc, List.mem_append, not_or] at hcontent
    exact hcontent.2
  obtain ⟨m, hfind, hfirst, hsecond, hbody⟩ := exists_find?_startTagPattern hleft tag.isPlainName_space tag.isPlainName_localName
    (tag.endsName_afterName hslash) hmore hform
  have hscan : firstElement? lines = some ⟨String.ofList (((scopePattern? tag.space).bind fun p =>
      (p.find? (tag.afterName ++ slash)).bind fun m => m.groupText? (tag.afterName ++ slash).toArray 1).getD []),
        String.ofList tag.localName⟩ := by
    unfold firstElement?
    rw [htext, hpost]
    cases hspace : tag.space with
    | none =>
        rw [hspace] at hfirst hsecond
        simp only [hfind, hfirst, hsecond, hbody, Option.bind_eq_bind, Option.bind_some, Option.map_none,
          Option.getD_some, Option.getD_none]
        rfl
    | some space =>
        rw [hspace] at hfirst hsecond
        simp only [hfind, hfirst, hsecond, hbody, Option.bind_eq_bind, Option.bind_some, Option.map_some,
          Option.getD_some]
        rfl
  rw [hscan]
  constructor
  · intro hsome
    obtain ⟨p, hbuilt⟩ := Option.isSome_iff_exists.mp hsome
    obtain rfl := eq_of_built? hbuilt
    rw [hbuilt, Option.bind_some, find?_scopePattern tag hslash, PlainTag.declaredQName]
  · intro hnone
    rw [hnone]
    rfl

/-! ### The tree -/

/-- A plain tag declares a namespace for its own name by one key only. -/
theorem declares_iff {a : PlainAttribute} : Declares (tag.space.getD []) a.key ↔ a.key = declarationKey tag.space := by
  cases hspace : tag.space with
  | none =>
      have hmark : a.key ≠ "xmlns:".toList ++ [] := a.key_ne_declarationMark
      rw [Option.getD_none, Declares, or_iff_right hmark, and_iff_right rfl, declarationKey_none]
  | some space =>
      have hne : space ≠ [] := by
        rintro rfl
        cases tag.isPlainName_space [] hspace
      rw [Option.getD_some, Declares, or_iff_left fun h => hne h.1, declarationKey_some]

/-- What a plain tag declares for its own name is the value of the attribute with that key. -/
theorem declaration?_written :
    declaration? (tag.space.getD []) tag.written =
      (tag.attributes.find? fun a => a.key = declarationKey tag.space).map fun a => String.ofList a.value := by
  have hpairs : pairsOf tag.written = tag.attributes.map fun a => (a.key, a.value) := by
    rw [pairsOf, tag.attributes_written]
    rfl
  have hsame : (fun a : PlainAttribute => decide (Declares (tag.space.getD []) a.key)) =
      fun a => decide (a.key = declarationKey tag.space) := by
    funext a
    exact decide_eq_decide.mpr (declares_iff tag)
  rw [declaration?, hpairs, ← List.map_reverse, List.find?_map, Option.map_map, ← find?_reverse_of_nodup tag.nodup_keys,
    ← hsame]
  rfl

/-- The name that a plain tag gives to the outermost element. -/
theorem qualifiedName_written : qualifiedName (scopeWithin [] tag.written) tag.written = tag.declaredQName := by
  have hxml : tag.space.getD [] ≠ "xml".toList := by
    cases hspace : tag.space with
    | none => decide
    | some space => exact fun heq => tag.space_ne_xml (hspace.trans (congrArg some heq))
  rw [qualifiedName, tag.name_written, tag.splitName_name, resolve, if_neg hxml, scopeWithin, List.append_nil,
    lookup_scopeOf, declaration?_written, PlainTag.declaredQName]
  cases hfind : tag.attributes.find? fun a => decide (a.key = declarationKey tag.space) with
  | none => rfl
  | some a =>
      have hkey := List.find?_some hfind
      have hdeclared : declaredName? a.key = some (tag.space.getD []) :=
        declaredName?_eq_some_iff.mpr ((declares_iff tag).mpr (of_decide_eq_true hkey))
      have hraw := a.raw_eq_value (by rw [hdeclared]; rfl)
      rw [Option.map_some, Option.map_some, Option.getD_some, Option.getD_some, hraw]

theorem isTag_of_tag? {token : Token} {first : Tag} (h : token.tag? = some first) : token.isTag = true := by
  cases token with
  | startTag _ | emptyTag _ => rfl
  | _ => cases h

/-- The first tag opens the first of the trees that tags make. -/
theorem exists_bracket_of_first {tokens : List PlacedToken} {trees : List (Tree Bracket)} (h : Bracketed tokens trees)
    {before after : List PlacedToken} {token : PlacedToken} {first : Tag} (htokens : tokens = before ++ token :: after)
    (hbefore : ∀ token ∈ before, token.token.isTag = false) (htag : token.token.tag? = some first) :
    ∃ bracket children others, trees = .node (some bracket) children :: others ∧ bracket.tag = first := by
  induction h generalizing before with
  | nil => cases (List.append_eq_nil_iff.mp htokens.symm).2
  | @other t tokens trees ht _ ih =>
      cases before with
      | nil =>
          obtain ⟨rfl, -⟩ := List.cons.inj htokens
          rw [isTag_of_tag? htag] at ht
          cases ht
      | cons b before => exact ih (List.cons.inj htokens).2 (List.forall_mem_cons.mp hbefore).2
  | @empty tag t tokens trees ht _ _ =>
      cases before with
      | nil =>
          obtain ⟨rfl, -⟩ := List.cons.inj htokens
          rw [ht] at htag
          exact ⟨_, _, _, rfl, Option.some.inj htag⟩
      | cons b before =>
          obtain ⟨rfl, -⟩ := List.cons.inj htokens
          have hnot := hbefore t List.mem_cons_self
          rw [ht] at hnot
          cases hnot
  | @pair tag opening inner children closing tokens trees ho _ _ _ _ _ =>
      rw [List.cons_append] at htokens
      cases before with
      | nil =>
          obtain ⟨rfl, -⟩ := List.cons.inj htokens
          rw [ho] at htag
          exact ⟨_, _, _, rfl, Option.some.inj htag⟩
      | cons b before =>
          obtain ⟨rfl, -⟩ := List.cons.inj htokens
          have hnot := hbefore opening List.mem_cons_self
          rw [ho] at hnot
          cases hnot

/-- **The tree** of a well-formed document has one element, named by the first tag. -/
theorem exists_root_of_tokens {text : List Char} (hvalid : (Document.read text).valid = true)
    {before after : List PlacedToken} {token : PlacedToken} {first : Tag}
    (htokens : (Markup.tokens text).tokens = before ++ token :: after)
    (hbefore : ∀ token ∈ before, token.token.isTag = false) (htag : token.token.tag? = some first) :
    ∃ element children, (Document.read text).tree = .node none [.node (some element) children] ∧
      element.name = qualifiedName (scopeWithin [] first) first := by
  have hfailure : (Document.read text).failure = none := Option.isNone_iff_eq_none.mp hvalid
  have haccepted := accepted_of_firstFailure?_eq_none (failure_eq_none_iff.mp hfailure)
  have hcompleted : completed text = before ++ token :: after := by
    rw [completed, completedAt, haccepted.2.1, haccepted.1, htokens]
    exact List.append_nil _
  obtain ⟨trees, hbracketed, htree⟩ := exists_bracketed_read text
  obtain ⟨bracket, children, others, rfl, rfl⟩ := exists_bracket_of_first hbracketed hcompleted hbefore htag
  have hlength := (length_children_read text).2 hfailure
  rw [htree, elementTrees, Tree.children, List.length_cons, Nat.add_eq_right, List.length_eq_zero_iff] at hlength
  rw [htree, elementTrees, hlength, elementTree]
  exact ⟨_, _, rfl, rfl⟩

/-! ### Both -/

/-- The mark at the beginning of a text is calm. -/
theorem exists_mark_append (text : List Char) : ∃ mark, Calm mark ∧ text = mark ++ withoutMark text := by
  unfold withoutMark
  split
  · exact ⟨['\ufeff'], calm_of_not_mem (by decide), rfl⟩
  · exact ⟨[], calm_nil, rfl⟩

/-- **The first element in raw text.** Let a text without carriage returns be a well-formed document whose first tag is
plain and has only calm tokens before it. Then the document has one element at its top, and its name is the one
that is told from the lines of the raw text; where the pattern of the declaration is too large, its local name in no
namespace is. -/
theorem firstElement?_eq_root {text : List Char} (hvalid : (Document.read text).valid = true) (hreturn : '\r' ∉ text)
    {before after : List PlacedToken} {token : PlacedToken} (tag : PlainTag)
    (htokens : (Markup.tokens text).tokens = before ++ token :: after) (hcalm : ∀ token ∈ before, IsCalm token.token)
    (htag : token.token.tag? = some tag.written) :
    ∃ element children, (Document.read text).tree = .node none [.node (some element) children] ∧
      ((scopePattern? tag.space).isSome = true →
        firstElement? ((splitLines text).map String.ofList) = some element.name) ∧
      (scopePattern? tag.space = none →
        firstElement? ((splitLines text).map String.ofList) = some ⟨"", element.name.localName⟩) := by
  obtain ⟨element, children, htree, hname⟩ := exists_root_of_tokens hvalid htokens
    (fun token htoken => isTag_eq_false_of_isCalm (hcalm token htoken)) htag
  refine ⟨element, children, htree, ?_⟩
  rw [hname, qualifiedName_written]
  have hcover : Cover 0 (before ++ token :: after) (withoutMark text) := htokens ▸ cover_cut _ _ _ _
  have hend : ∀ token ∈ before, token.token.HasOwnEnd := fun t ht =>
    hasOwnEnd_cut t (htokens ▸ List.mem_append_left _ ht)
  obtain ⟨prolog, slash, rest, hprolog, hslash, hrest⟩ := exists_calm_of_cover hcover hend hcalm htag
  obtain ⟨mark, hmark, htext⟩ := exists_mark_append text
  have hshape : text = (mark ++ prolog ++ '<' :: (tag.written.content ++ slash ++ ['>'])) ++ rest := by
    rw [htext, hrest]
    simp
  have hlast : (mark ++ prolog ++ '<' :: (tag.written.content ++ slash ++ ['>'])).getLast? ≠ some '\n' := by
    rw [← List.cons_append, ← List.append_assoc, List.getLast?_concat]
    decide
  obtain ⟨more, hmore⟩ := exists_joinLines_append (hshape ▸ hreturn) hlast
  have hjoined : ("\n".intercalate ((splitLines text).map String.ofList)).toList =
      mark ++ prolog ++ '<' :: (tag.written.content ++ slash ++ ['>']) ++ more := by
    rw [toList_intercalate_lines, ← hmore, ← hshape]
  exact firstElement?_eq tag (hmark.append hprolog) hslash hjoined

/-- What looks like a tag in a comment does not count, and a namespace may be declared behind other attributes. -/
theorem firstElement?_eq_root_prefixed :
    let text := "<?x?><!--<b>--><!DOCTYPE p:a><p:a k='&lt;' xmlns:p=\"u\"/>".toList
    (Document.read text).valid = true ∧ ∃ element children,
      (Document.read text).tree = .node none [.node (some element) children] ∧
        firstElement? ((splitLines text).map String.ofList) = some element.name := by
  intro text
  have hvalid : (Document.read text).valid = true := by decide +kernel
  let other : PlainAttribute := ⟨[' '], ['k'], [], [], .single, "&lt;".toList, ['<'], by decide, by decide, by decide,
    rfl, rfl, rfl, by decide, by decide, by decide, rfl, by decide⟩
  let declaration : PlainAttribute := ⟨[' '], "xmlns:p".toList, [], [], .double, ['u'], ['u'], by decide, by decide,
    by decide, rfl, rfl, rfl, by decide, by decide, by decide, rfl, fun _ => rfl⟩
  let tag : PlainTag := ⟨some ['p'], ['a'], [other, declaration], [], fun _ h => Option.some.inj h ▸ rfl, by decide, rfl,
    by decide, rfl⟩
  let before : List PlacedToken := [⟨.instruction "?x?".toList, 0, 5⟩, ⟨.comment "!--<b>--".toList, 5, 15⟩,
    ⟨.documentType "!DOCTYPE p:a".toList, 15, 29⟩]
  have htokens : (Markup.tokens text).tokens = before ++ ⟨.emptyTag tag.written, 29, 56⟩ :: [] := by decide +kernel
  have hcalm : ∀ token ∈ before, IsCalm token.token := by
    have hpiece {text : List Char} (h : behind opensMarkup opensNoComment text = true)
        (h' : behind opensMarkup opensNoTag text = true) : Calm text := ⟨text, .of_piece h, h'⟩
    intro token htoken
    simp only [before, List.mem_cons, List.not_mem_nil, or_false] at htoken
    rcases htoken with rfl | rfl | rfl
    · exact hpiece (by decide) (by decide)
    · trivial
    · exact hpiece (by decide) (by decide)
  obtain ⟨element, children, htree, hname, -⟩ := firstElement?_eq_root hvalid (by decide) tag htokens hcalm rfl
  exact ⟨hvalid, element, children, htree, hname (by decide +kernel)⟩

/-- An instruction can hold what looks like a tag, and then that is taken for the first element. -/
theorem firstElement?_within_instruction :
    let text := "<?p <b?><a/>".toList
    (Document.read text).valid = true ∧
      (topElements (Document.read text).tree.children).map Element.name = [⟨"", "a"⟩] ∧
      firstElement? ((splitLines text).map String.ofList) = some ⟨"", "b"⟩ := by
  decide +kernel

end XmlDiagnostics.NamespaceScan
