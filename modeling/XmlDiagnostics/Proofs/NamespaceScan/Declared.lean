import XmlDiagnostics.Proofs.Document.Scoping
import XmlDiagnostics.Proofs.NamespaceScan.Assigned
import XmlDiagnostics.Proofs.Text.Places

/-! # Declared namespaces

The scan looks for declarations line by line, with a pattern that knows one form of them. A declaration of a document is
plain (`IsPlain`) if it has this form: a key of word characters, key, sign and value on one line, no quotation mark and no
entity in the value, and no declaration before it on the line whose value goes on to it. Then the scan
finds its namespace (`declared_of_isPlain`).

Every namespace of an element is declared by an attribute of a tag (`exists_declaration`), so one is
missed only where that attribute is not plain. -/

namespace XmlDiagnostics.NamespaceScan

open Pattern Automaton Markup Text Document

/-! ### The pattern -/

/-- The keyword of declarations. -/
def keyword : List Char := "xmlns".toList

/-- What may stand between the keyword and the equals sign: nothing, or a colon and a name. -/
def NamePart (part : List Char) : Prop :=
  part = [] ∨ ∃ name, part = ':' :: name ∧ name ≠ [] ∧ ∀ c ∈ name, nameRest.contains c = true

theorem declarationPattern_eq : declarationPattern =
    seq (literal keyword) (seq (optional (seq (char ':') (someOf nameRest))) (seq (valuePattern 1) empty)) := rfl

theorem isSteady_declarationPattern : declarationPattern.isSteady = true := by decide

theorem isNullable_declarationPattern : declarationPattern.isNullable = false := by decide

/-- What the pattern can take is the keyword, perhaps a name, and an assignment. -/
theorem exists_assignment_of_fits_declaration {text : List Char} (h : declarationPattern.Fits text) :
    ∃ part a, NamePart part ∧ text = keyword ++ (part ++ Assignment.print a) := by
  rw [declarationPattern_eq, fits_seq_iff] at h
  obtain ⟨key, _, rfl, hkey, part, _, rfl, hpart, value, _, rfl, hvalue, rfl⟩ := h
  rw [fits_literal_iff] at hkey
  subst hkey
  obtain ⟨a, rfl⟩ := exists_assignment_of_fits hvalue
  refine ⟨part, a, ?_, by rw [List.append_nil]⟩
  rcases fits_optional_iff.mp hpart with rfl | ⟨colon, name, rfl, hcolon, hname⟩
  · exact .inl rfl
  · obtain ⟨hall, hlength⟩ := all_contains_of_fits_many hname
    rw [fits_char_iff.mp hcolon]
    exact .inr ⟨name, rfl, List.length_pos_iff.mp hlength, hall⟩

/-- A delimiter or an equals sign ends a name. -/
theorem contains_nameRest_of_delimiter {c : Char} (h : isSeparator c = true ∨ isMark c = true ∨ c = '=') :
    nameRest.contains c = false ∧ c ≠ ':' ∧ c ∉ keyword := by
  have hsigns : [' ', '\t', '\r', '\n', '"', '\'', '='].all
      (fun c => !nameRest.contains c && c ≠ ':' && !keyword.contains c) = true := by decide +kernel
  have hmem : c ∈ [' ', '\t', '\r', '\n', '"', '\'', '='] := by
    simp only [isSeparator, isMark, Bool.or_eq_true, decide_eq_true_eq] at h
    simp only [List.mem_cons, List.not_mem_nil, or_false]
    tauto
  have hc := List.all_eq_true.mp hsigns c hmem
  simp only [Bool.and_eq_true, Bool.not_eq_true', decide_eq_true_eq] at hc
  refine ⟨hc.1.1, hc.1.2, fun hkeyword => ?_⟩
  rw [List.contains_iff_mem.mpr hkeyword] at hc
  cases hc.2

/-- A declaration is taken with its value as the group, if its name ends where the name pattern has to stop. -/
theorem takes_declarationPattern {part : List Char} (hpart : NamePart part) (a : Assignment) (rest : List Char)
    (hend : ∀ c, (a.print ++ rest).head? = some c → nameRest.contains c = false ∧ c ≠ ':') :
    Takes declarationPattern (keyword ++ part ++ a.print) rest fun index =>
      [(1, ⟨index + (keyword ++ part).length + a.head.length,
        index + (keyword ++ part).length + a.head.length + a.value.length⟩)] := by
  have hname : Takes (optional (seq (char ':') (someOf nameRest))) part (a.print ++ rest) fun _ => [] := by
    rcases hpart with rfl | ⟨name, rfl, hne, hall⟩
    · have hcolon : (a.print ++ rest).head? ≠ some ':' := fun h => (hend ':' h).2 rfl
      exact (refuses_char hcolon (someOf nameRest)).optional.takes
    · exact ((skips_char ':' _).seq (skips_someOf hne hall fun c hc => (hend c hc).1)).takes.optional
  have hvalue := (takes_valuePattern a rest).seq (skips_empty rest).takes
  rw [List.append_nil] at hvalue
  have hall := (skips_literal keyword _).takes.seq (hname.seq hvalue)
  rw [← List.append_assoc] at hall
  refine hall.congr fun index => ?_
  simp [Nat.add_assoc]

/-! ### What stands before a declaration -/

/-- A text ends within the value of what reads as a declaration: no quotation mark has come since the one that opened
the value. -/
def EndsInValue (text : List Char) : Prop :=
  ∃ before part, ∃ a : Assignment, NamePart part ∧ text = before ++ (keyword ++ part ++ (a.head ++ a.value))

/-- The value may be cut short. -/
theorem endsInValue_of_prefix (before : List Char) {part value : List Char} {a : Assignment} (hpart : NamePart part)
    (hvalue : value <+: a.value) : EndsInValue (before ++ (keyword ++ part ++ (a.head ++ value))) :=
  ⟨before, part, { a with value, not_isMark_value := fun c hc => a.not_isMark_value c (hvalue.subset hc) }, hpart, rfl⟩

/-- Without a quotation mark no value is open. -/
theorem not_endsInValue {text : List Char} (h : text.any isMark = false) : ¬EndsInValue text := by
  rintro ⟨before, part, a, -, rfl⟩
  have hopening : a.opening ∈ before ++ (keyword ++ part ++ (a.head ++ a.value)) := by simp [Assignment.head]
  exact List.any_eq_false.mp h a.opening hopening a.isMark_opening

theorem not_mem_head (a : Assignment) : 'x' ∉ a.head := by
  have hblanks {blanks : List Char} (h : blanks.all isBlank = true) : 'x' ∉ blanks := by
    intro hmem
    cases List.all_eq_true.mp h 'x' hmem
  have hmark : 'x' ≠ a.opening := by
    intro h
    have := a.isMark_opening
    rw [← h] at this
    cases this
  simp only [Assignment.head, List.mem_append, List.mem_cons, List.not_mem_nil, or_false, not_or]
  exact ⟨hblanks a.all_isBlank_beforeSign, by decide, hblanks a.all_isBlank_afterSign, hmark⟩

theorem not_mem_keyword_append {part : List Char} (hpart : NamePart part) {c : Char}
    (hc : isSeparator c = true ∨ isMark c = true) : c ∉ keyword ++ part := by
  obtain ⟨hname, hcolon, hkeyword⟩ := contains_nameRest_of_delimiter (hc.imp_right .inl)
  rw [List.mem_append, not_or]
  refine ⟨hkeyword, fun hmem => ?_⟩
  rcases hpart with rfl | ⟨name, rfl, -, hall⟩
  · cases hmem
  · rcases List.mem_cons.mp hmem with rfl | hmem
    · exact hcolon rfl
    · rw [hall c hmem] at hname
      cases hname

/-- Of what reads as a declaration, a beginning that ends with a delimiter and has the letter of a key behind it reaches
into the value. -/
theorem endsInValue_of_letter (before : List Char) {part within latter : List Char} {a : Assignment} {c : Char}
    (hpart : NamePart part) (hc : isSeparator c = true ∨ isMark c = true)
    (h : keyword ++ (part ++ a.print) = within ++ [c] ++ 'x' :: latter) : EndsInValue (before ++ (within ++ [c])) := by
  have hform : keyword ++ (part ++ a.print) = keyword ++ part ++ a.head ++ (a.value ++ [a.closing]) := by
    simp [Assignment.print]
  rw [hform] at h
  rcases List.append_eq_append_iff.mp h with ⟨value, hvalue, hmore⟩ | ⟨more, hmore, hletter⟩
  · -- the beginning ends behind the opening mark
    have hprefix : value <+: a.value := by
      have hwhole : value <+: a.value ++ [a.closing] := ⟨_, hmore.symm⟩
      rcases List.prefix_concat_iff.mp hwhole with rfl | hprefix
      · have hlengths := congrArg List.length hmore
        simp only [List.length_append, List.length_cons] at hlengths
        omega
      · exact hprefix
    rw [hvalue, List.append_assoc]
    exact endsInValue_of_prefix before hpart hprefix
  · cases more with
    | nil =>
        rw [List.append_nil] at hmore
        rw [← hmore, ← List.append_nil a.head]
        exact endsInValue_of_prefix before hpart List.nil_prefix
    | cons d more =>
        -- up to the opening mark no letter of a key stands behind a delimiter
        obtain rfl : 'x' = d := (List.cons.inj hletter).1
        rcases List.append_eq_append_iff.mp hmore with ⟨former, -, hhead⟩ | ⟨former, hname, -⟩
        · exact absurd (hhead ▸ List.mem_append_right _ List.mem_cons_self) (not_mem_head a)
        · refine absurd ?_ (not_mem_keyword_append hpart hc)
          rw [hname]
          simp

/-- **No crossing.** What reads as a declaration and begins before a key, behind a delimiter, ends before it, if no value is open
there. -/
theorem length_le_of_not_endsInValue {line after part : List Char} {a : Assignment} {k : Nat} (hk : k < line.length)
    (hline : Delimited line) (hclosed : ¬EndsInValue line) (hpart : NamePart part)
    (htaken : keyword ++ (part ++ a.print) <+: (line ++ 'x' :: after).drop k) :
    k + (keyword ++ (part ++ a.print)).length ≤ line.length := by
  by_contra hlong
  obtain ⟨former, c, rfl, hc⟩ := hline
  simp only [List.length_append, List.length_singleton] at hk hlong
  have hkformer : k ≤ former.length := by omega
  have hdrop : (former ++ [c] ++ 'x' :: after).drop k = former.drop k ++ [c] ++ ['x'] ++ after := by
    rw [List.append_assoc, List.drop_append_of_le_length hkformer]
    simp
  -- the declaration goes over the delimiter `c` and the letter of the key
  have hover : former.drop k ++ [c] ++ ['x'] <+: keyword ++ (part ++ a.print) := by
    apply List.prefix_of_prefix_length_le _ htaken
    · simp only [List.length_append, List.length_drop, List.length_singleton] at hlong ⊢
      omega
    · rw [hdrop]
      exact List.prefix_append _ _
  obtain ⟨latter, hlatter⟩ := hover
  rw [List.append_assoc _ ['x']] at hlatter
  apply hclosed
  have hends := endsInValue_of_letter (former.take k) hpart hc hlatter.symm
  rwa [← List.append_assoc, List.take_append_drop] at hends

/-! ### Plain declarations -/

/-- A declaration has the form that the scan knows: a key of the keyword and perhaps a name, key, sign and value on one line,
no quotation mark and no entity in the value, and before it on its line no value that goes on to it. -/
structure IsPlain {text : List Char} (p : PlacedAttribute text) : Prop where
  key : ∃ part, NamePart part ∧ p.raw.key = keyword ++ part
  not_isLineEnd : ∀ c ∈ p.place.beforeSign ++ p.place.afterSign ++ p.raw.value, isLineEnd c = false
  not_isMark : ∀ c ∈ p.raw.value, isMark c = false
  not_mem : '&' ∉ p.raw.value
  closed : ¬EndsInValue (lineUpTo p.place.before)

theorem isLineEnd_of_isMark {c : Char} (h : isMark c = true) : isLineEnd c = false := by
  rcases List.mem_pair.mp (isMark_iff.mp h) with rfl | rfl <;> rfl

/-- What the scan finds in a line is declared. -/
theorem mem_declared_of_mem_findAll {text line value : List Char} {m : Match} (hline : line ∈ splitLines text)
    (hm : m ∈ declarationPattern.findAll line) (hgroup : m.groupText? line.toArray 1 = some value) :
    String.ofList value ∈ declared ((splitLines text).map String.ofList) := by
  unfold declared
  rw [StringSet.mem_ofList, List.mem_flatMap]
  refine ⟨String.ofList line, List.mem_map_of_mem hline, ?_⟩
  rw [String.toList_ofList]
  exact List.mem_filterMap.mpr ⟨m, hm, by rw [hgroup]; rfl⟩

theorem isSeparator_of_lineEnd {c : Char} (h : isLineEnd c = true) : isSeparator c = true := by
  rcases isSeparator_of_isLineEnd h with rfl | rfl | rfl | rfl <;> rfl

/-- What stands before a key on its line ends with a delimiter, if there is anything. -/
theorem delimited_lineUpTo {before : List Char} (h : Delimited before) (hne : lineUpTo before ≠ []) :
    Delimited (lineUpTo before) := by
  obtain ⟨former, c, rfl, hc⟩ := h
  cases hend : isLineEnd c with
  | true => exact absurd (lineUpTo_concat_lineEnd former hend) hne
  | false =>
      rw [lineUpTo_concat former hend]
      exact delimited_concat (lineUpTo former) hc

/-- A plain declaration is on one line. -/
theorem not_isLineEnd_of_isPlain {text part : List Char} {p : PlacedAttribute text} (h : IsPlain p)
    (hpart : NamePart part) {a : Assignment}
    (hhead : a.head = p.place.beforeSign ++ '=' :: (p.place.afterSign ++ [p.place.mark])) (hvalue : a.value = p.raw.value) :
    ∀ c ∈ keyword ++ part ++ a.print, isLineEnd c = false := by
  obtain ⟨hsigns, hraw⟩ := List.forall_mem_append.mp h.not_isLineEnd
  obtain ⟨hbefore, hafter⟩ := List.forall_mem_append.mp hsigns
  have hmark := isLineEnd_of_isMark p.place.isMark_mark
  have hclosing := isLineEnd_of_isMark a.isMark_closing
  refine List.forall_mem_append.mpr ⟨?_, ?_⟩
  · intro c hc
    cases hend : isLineEnd c with
    | true => exact absurd hc (not_mem_keyword_append hpart (.inl (isSeparator_of_lineEnd hend)))
    | false => rfl
  · intro c hc
    rw [Assignment.print, hhead, hvalue] at hc
    simp only [List.mem_append, List.mem_cons, List.not_mem_nil, or_false] at hc
    rcases hc with (hc | rfl | hc | rfl) | hc | rfl
    · exact hbefore c hc
    · rfl
    · exact hafter c hc
    · exact hmark
    · exact hraw c hc
    · exact hclosing

/-- Behind its key a declaration goes on with a separator or the equals sign. -/
theorem ends_name {text : List Char} {raw : RawAttribute} (place : AttributeAt text raw) {a : Assignment}
    (hhead : a.head = place.beforeSign ++ '=' :: (place.afterSign ++ [place.mark])) (rest : List Char) {c : Char}
    (hc : (a.print ++ rest).head? = some c) : nameRest.contains c = false ∧ c ≠ ':' := by
  have hdelimiter : isSeparator c = true ∨ isMark c = true ∨ c = '=' := by
    rw [Assignment.print, hhead] at hc
    cases hbefore : place.beforeSign with
    | nil =>
        rw [hbefore] at hc
        exact .inr (.inr (Option.some.inj hc).symm)
    | cons d blanks =>
        rw [hbefore] at hc
        obtain rfl : d = c := Option.some.inj hc
        exact .inl (List.all_eq_true.mp place.all_isSeparator_beforeSign d (by rw [hbefore]; exact List.mem_cons_self))
  obtain ⟨hname, hcolon, -⟩ := contains_nameRest_of_delimiter hdelimiter
  exact ⟨hname, hcolon⟩

/-- **Plain declarations are found.** -/
theorem declared_of_isPlain {text : List Char} {p : PlacedAttribute text} (h : IsPlain p) :
    String.ofList p.value ∈ declared ((splitLines text).map String.ofList) := by
  obtain ⟨part, hpart, hkey⟩ := h.key
  obtain ⟨a, after, htext, hhead, hvalue⟩ := exists_assignment_of_attributeAt p.place
  rw [beforeMark_eq_self h.not_isMark] at hvalue
  obtain ⟨tail, htail⟩ : ∃ tail, after.takeWhile (fun c => !isLineEnd c) = tail := ⟨_, rfl⟩
  have hone := not_isLineEnd_of_isPlain h hpart hhead hvalue
  have hline : lineUpTo p.place.before ++ (keyword ++ part ++ a.print) ++ tail ∈ splitLines text := by
    have hmem := mem_splitLines p.place.before (by simp [keyword]) hone after
    rw [htail, List.append_assoc (keyword ++ part), ← hkey, ← htext] at hmem
    rwa [← hkey]
  have hearlier : ∀ k < (lineUpTo p.place.before).length, ∀ taken,
      taken <+: (lineUpTo p.place.before ++ (keyword ++ part ++ a.print) ++ tail).drop k → declarationPattern.Fits taken →
        k + taken.length ≤ (lineUpTo p.place.before).length := by
    intro k hk taken htaken hfits
    obtain ⟨part', a', hpart', rfl⟩ := exists_assignment_of_fits_declaration hfits
    have hne : lineUpTo p.place.before ≠ [] := List.length_pos_iff.mp (Nat.zero_lt_of_lt hk)
    have hletter : lineUpTo p.place.before ++ (keyword ++ part ++ a.print) ++ tail =
        lineUpTo p.place.before ++ 'x' :: ("mlns".toList ++ (part ++ a.print ++ tail)) := by simp [keyword]
    rw [hletter] at htaken
    exact length_le_of_not_endsInValue hk (delimited_lineUpTo p.delimited hne) h.closed hpart' htaken
  have hmatch := mem_findAll_of_takes isSteady_declarationPattern isNullable_declarationPattern hearlier
    (takes_declarationPattern hpart a tail fun c hc => ends_name p.place hhead tail hc)
  rw [p.value_eq h.not_mem, ← hvalue]
  exact mem_declared_of_mem_findAll hline hmatch (groupText?_assignment a rfl _)

/-! ### Namespaces of elements -/

/-- An entry of a scope is one of the scope around tokens, or declared by the tag of one of these. -/
def Comes (scope : Scope) (tokens : List PlacedToken) (entry : List Char × String) : Prop :=
  entry ∈ scope ∨ ∃ token ∈ tokens, ∃ tag, token.token.tag? = some tag ∧ entry ∈ scopeOf (pairsOf tag)

theorem Comes.mono {scope : Scope} {tokens more : List PlacedToken} {entry : List Char × String}
    (h : Comes scope tokens entry) (hmore : tokens ⊆ more) : Comes scope more entry := by
  rcases h with h | ⟨token, hmem, tag, htag, hentry⟩
  · exact .inl h
  · exact .inr ⟨token, hmore hmem, tag, htag, hentry⟩

/-- Within a tag, entries come from around it or from the tag. -/
theorem Comes.of_within {scope : Scope} {tokens more : List PlacedToken} {entry : List Char × String} {tag : Tag}
    {opening : PlacedToken} (h : Comes (scopeWithin scope tag) tokens entry) (hopening : opening ∈ more)
    (htag : opening.token.tag? = some tag) (hmore : tokens ⊆ more) : Comes scope more entry := by
  rcases h with h | ⟨token, hmem, tag', htag', hentry⟩
  · rcases List.mem_append.mp h with hown | hscope
    · exact .inr ⟨opening, hopening, tag, htag, hown⟩
    · exact .inl hscope
  · exact .inr ⟨token, hmore hmem, tag', htag', hentry⟩

/-- The scope of an element holds what is declared around the tokens and by their tags. -/
theorem exists_scope_of_mem_values {place : Nat → Position} {tokens : List PlacedToken} {trees : List (Tree Bracket)}
    (h : Bracketed tokens trees) (scope : Scope) {element : Element}
    (hmem : element ∈ Tree.valuesIn (elementTrees place scope trees)) :
    ∃ scope' tag start stop, element = elementOf scope' tag start stop ∧ ∀ entry ∈ scope', Comes scope tokens entry := by
  induction h generalizing scope with
  | nil => cases hmem
  | @other token tokens trees ht _ ih =>
      obtain ⟨scope', tag, start, stop, heq, hscope⟩ := ih scope hmem
      exact ⟨scope', tag, start, stop, heq, fun entry hentry => (hscope entry hentry).mono (List.subset_cons_self _ _)⟩
  | @empty tag token tokens trees ht _ ih =>
      have htoken : token.token.tag? = some tag := by rw [ht]; rfl
      simp only [elementTrees, elementTree, Tree.valuesIn, Tree.values, Option.toList_some, List.append_nil,
        List.singleton_append, List.mem_cons] at hmem
      rcases hmem with rfl | hmem
      · refine ⟨scopeWithin scope tag, tag, _, _, rfl, fun entry hentry => ?_⟩
        have hcomes : Comes (scopeWithin scope tag) [] entry := .inl hentry
        exact hcomes.of_within List.mem_cons_self htoken (List.nil_subset _)
      · obtain ⟨scope', tag', start, stop, heq, hscope⟩ := ih scope hmem
        exact ⟨scope', tag', start, stop, heq, fun entry hentry => (hscope entry hentry).mono (List.subset_cons_self _ _)⟩
  | @pair tag opening inner children closing tokens trees ho hc hinner _ ihInner ih =>
      have htoken : opening.token.tag? = some tag := by rw [ho]; rfl
      have hopening : opening ∈ opening :: inner ++ closing :: tokens := List.mem_cons_self
      have hinside : inner ⊆ opening :: inner ++ closing :: tokens :=
        fun token hmem => List.mem_append_left _ (List.mem_cons_of_mem _ hmem)
      have hbehind : tokens ⊆ opening :: inner ++ closing :: tokens :=
        fun token hmem => List.mem_append_right _ (List.mem_cons_of_mem _ hmem)
      simp only [elementTrees, elementTree, Tree.valuesIn, Tree.values, Option.toList_some, List.mem_append,
        List.mem_singleton] at hmem
      rcases hmem with (rfl | hmem) | hmem
      · refine ⟨scopeWithin scope tag, tag, _, _, rfl, fun entry hentry => ?_⟩
        have hcomes : Comes (scopeWithin scope tag) [] entry := .inl hentry
        exact hcomes.of_within hopening htoken (List.nil_subset _)
      · obtain ⟨scope', tag', start, stop, heq, hscope⟩ := ihInner (scopeWithin scope tag) hmem
        exact ⟨scope', tag', start, stop, heq, fun entry hentry => (hscope entry hentry).of_within hopening htoken hinside⟩
      · obtain ⟨scope', tag', start, stop, heq, hscope⟩ := ih scope hmem
        exact ⟨scope', tag', start, stop, heq, fun entry hentry => (hscope entry hentry).mono hbehind⟩

/-- A tag of the completed tokens is one of the tokens. -/
theorem mem_tokens_of_mem_completed {text : List Char} {token : PlacedToken} (hmem : token ∈ completed text) {tag : Tag}
    (htag : token.token.tag? = some tag) : token ∈ (tokens text).tokens := by
  rw [completed, completedAt, List.mem_append] at hmem
  rcases hmem with hmem | hmem
  · obtain ⟨refused, htokens, -⟩ := exists_append_accepted text
    rw [htokens]
    exact List.mem_append_left _ hmem
  · obtain ⟨opening, -, rfl⟩ := List.mem_map.mp hmem
    cases htag

/-- A namespace that is neither none nor that of the name `xml` stands in the scope. -/
theorem mem_of_resolve {scope : Scope} {name : List Char} (hnone : resolve scope name ≠ "")
    (hxml : resolve scope name ≠ xmlNamespace) : (name, resolve scope name) ∈ scope := by
  unfold resolve at *
  split at hxml
  · exact absurd rfl hxml
  · rename_i hname
    rw [if_neg hname] at hnone ⊢
    cases hlookup : scope.lookup name with
    | none =>
        rw [hlookup] at hnone
        exact absurd rfl hnone
    | some uri => exact mem_of_lookup_eq_some hlookup

/-- **Every namespace of an element is declared** by an attribute of a tag, unless it is none or that of the name `xml`. -/
theorem exists_declaration {text : List Char} {element : Element} (hmem : element ∈ (Document.read text).tree.values)
    (hnone : element.name.namespaceUri ≠ "") (hxml : element.name.namespaceUri ≠ xmlNamespace) :
    ∃ (p : PlacedAttribute text) (name : List Char), Declares name p.raw.key ∧
      element.name.namespaceUri = String.ofList p.value := by
  obtain ⟨trees, htrees, htree⟩ := exists_bracketed_read text
  rw [htree] at hmem
  have hmem : element ∈ Tree.valuesIn (elementTrees (positionAt text) [] trees) := by simpa [Tree.values] using hmem
  obtain ⟨scope, tag, start, stop, rfl, hscope⟩ := exists_scope_of_mem_values htrees [] hmem
  rcases hscope _ (mem_of_resolve hnone hxml) with hempty | ⟨token, htoken, tag', htag, hentry⟩
  · cases hempty
  · obtain ⟨attributes, hattributes⟩ := exists_attributes_of_mem_completed htoken htag
    have hpairs : pairsOf tag' = attributes := by
      rw [pairsOf, hattributes]
      rfl
    rw [scopeOf, List.mem_reverse, hpairs] at hentry
    obtain ⟨⟨key, value⟩, hpair, hdeclares⟩ := List.mem_filterMap.mp hentry
    obtain ⟨name, hname, heq⟩ := Option.map_eq_some_iff.mp hdeclares
    obtain ⟨p, -, hkey, hvalue⟩ :=
      exists_placedAttribute_of_attributes (mem_tokens_of_mem_completed htoken htag) htag hattributes hpair
    refine ⟨p, name, ?_, ?_⟩
    · rw [hkey]
      exact declaredName?_eq_some_iff.mp hname
    · rw [hvalue]
      exact (congrArg Prod.snd heq).symm

end XmlDiagnostics.NamespaceScan
