import XmlDiagnostics.Proofs.Handler.AttributePosition
import XmlDiagnostics.Proofs.Markup.Contents

/-! # The position of a repeated attribute

An error about a repeated attribute is placed by three searches: backward for the bracket that opens the tag, and twice
forward for the key. So the position is that of the second appearance of the key ahead of the bracket that was found, or of
the only one, or that of the error if there is none (`duplicatePosition_eq_iff`). This is the second of the attributes that
a tag writes with the key just if the bracket is that of the tag and one thing ahead of the second attribute looks like
it: the first one, if both appear in their lines (`position_of_duplicate_attribute`). A value can look like the attribute
as well, and then the position is that of the first attribute (`position_at_first_of_duplicates`). -/

namespace XmlDiagnostics

open Markup Text Search

namespace Search

/-! ### Tags and what they write -/

/-- The bracket of a tag with a name opens it. -/
theorem positionAt_mem_opens_of_tag {text : List Char} (hlength : text.length < 2 ^ 31)
    (hmark : text.head? ≠ some '\ufeff') {token : PlacedToken} (htoken : token ∈ (tokens text).tokens) {tag : Tag}
    (htag : token.token.tag? = some tag) (hnamed : tag.name ≠ []) :
    positionAt text token.start ∈ Opens (splitLines text) := by
  obtain ⟨before, slash, rest, htext, hstart, -⟩ := Document.exists_written_tag hmark htoken htag
  obtain ⟨c, name, hname⟩ := List.exists_cons_of_ne_nil hnamed
  have hcontent : tag.content = c :: (name ++ tag.afterName) := by
    have hsplit : tag.content = tag.name ++ tag.afterName := List.takeWhile_append_dropWhile.symm
    rw [hsplit, hname]
    rfl
  have hsign : c ∉ ['/', '!', '?'] := head?_content_of_mem_cut token htoken tag htag c (by rw [hcontent]; rfl)
  have hend : isLineEnd c = false := Document.not_isLineEnd_of_mem_name (hname ▸ List.mem_cons_self)
  rw [hcontent, List.cons_append] at htext
  rw [hstart]
  exact positionAt_mem_opens hlength htext hsign hend

/-- The first two attributes that a tag writes with a key have their places, one behind the other. -/
theorem exists_places_of_twice {text : List Char} (hmark : text.head? ≠ some '\ufeff') {token : PlacedToken}
    (htoken : token ∈ (tokens text).tokens) {tag : Tag} (htag : token.token.tag? = some tag) {key : List Char}
    {first second : RawAttribute} {others : List RawAttribute}
    (htwice : (tag.occurrences.filter fun raw => raw.key = key) = first :: second :: others) :
    ∃ (earlier : AttributeAt text first) (later : AttributeAt text second),
      byteLength earlier.before = token.start + 1 + first.start ∧
      byteLength later.before = token.start + 1 + second.start ∧ first.start < second.start ∧
      first.key = key ∧ second.key = key ∧ ∀ c ∈ key, isSeparator c = false := by
  obtain ⟨before, slash, rest, htext, hstart, -⟩ := Document.exists_written_tag hmark htoken htag
  have hsublist : List.Sublist (first :: second :: others) tag.occurrences := htwice ▸ List.filter_sublist
  have hfirst : first ∈ tag.occurrences.filter fun raw => raw.key = key := by simp [htwice]
  have hsecond : second ∈ tag.occurrences.filter fun raw => raw.key = key := by simp [htwice]
  obtain ⟨hmem, hkey⟩ := List.mem_filter.mp hfirst
  obtain ⟨hmem', hkey'⟩ := List.mem_filter.mp hsecond
  obtain ⟨earlier, -, hearlier, -, hseparate⟩ := exists_attributeAt_of_mem_occurrences htext hmem
  obtain ⟨later, -, hlater, -, -⟩ := exists_attributeAt_of_mem_occurrences htext hmem'
  rw [← hstart] at hearlier hlater
  have hkey := of_decide_eq_true hkey
  refine ⟨earlier, later, hearlier, hlater, ?_, hkey, of_decide_eq_true hkey', hkey ▸ hseparate⟩
  exact List.rel_of_pairwise_cons ((pairwise_start_occurrencesIn _ _ _).sublist hsublist) List.mem_cons_self

/-! ### The first and the second of a set of positions -/

section second

variable {s : Set Position} {first second goal : Position}

theorem lt_of_isLeast (hfirst : IsLeast s first) {q : Position} (hq : q ∈ s) (hne : q ≠ first) : first < q :=
  Position.lt_iff_not_le.mpr fun hle => hne (Position.le_antisymm hle (hfirst.2 hq))

/-- The least position of a set is all of it if none comes behind. -/
theorem eq_singleton_of_isLeast (hfirst : IsLeast s first) (hnone : {q | q ∈ s ∧ first < q} = ∅) : s = {first} := by
  refine Set.eq_singleton_iff_unique_mem.mpr ⟨hfirst.1, fun q hq => ?_⟩
  by_contra hne
  have hbehind : q ∈ {q | q ∈ s ∧ first < q} := ⟨hq, lt_of_isLeast hfirst hq hne⟩
  rw [hnone] at hbehind
  exact Set.notMem_empty q hbehind

/-- The least position behind the least one is the one that comes behind just one other. -/
theorem second_eq_iff (hfirst : IsLeast s first) (hsecond : IsLeast {q | q ∈ s ∧ first < q} second) :
    second = goal ↔ goal ∈ s ∧ ∃! q, q ∈ s ∧ q < goal := by
  constructor
  · rintro rfl
    refine ⟨hsecond.1.1, first, ⟨hfirst.1, hsecond.1.2⟩, ?_⟩
    rintro q ⟨hq, hlt⟩
    by_contra hne
    exact Position.lt_iff_not_le.mp hlt (hsecond.2 ⟨hq, lt_of_isLeast hfirst hq hne⟩)
  · rintro ⟨hgoal, q, ⟨hq, hlt⟩, hunique⟩
    have hbehind : first < goal := Position.lt_iff_not_le.mpr fun hle =>
      Position.lt_iff_not_le.mp hlt (Position.le_trans hle (hfirst.2 hq))
    by_contra hne
    have hbefore : second < goal := lt_of_isLeast hsecond ⟨hgoal, hbehind⟩ (Ne.symm hne)
    have hsame : first = second := (hunique first ⟨hfirst.1, hbehind⟩).trans (hunique second ⟨hsecond.1.1, hbefore⟩).symm
    exact Position.ne_of_lt hsecond.1.2 hsame

/-- The second position, or the only one. -/
theorem second_or_only_eq_iff {found : Option Position} (hfirst : IsLeast s first)
    (hfound : Answers IsLeast found {q | q ∈ s ∧ first < q}) :
    found.getD first = goal ↔ s = {goal} ∨ (goal ∈ s ∧ ∃! q, q ∈ s ∧ q < goal) := by
  cases found with
  | none =>
      rw [eq_singleton_of_isLeast hfirst hfound, Option.getD_none]
      constructor
      · rintro rfl
        exact .inl rfl
      · rintro (hsame | ⟨hmem, -⟩)
        · exact Set.singleton_eq_singleton_iff.mp hsame
        · exact hmem.symm
  | some second =>
      rw [← second_eq_iff hfirst hfound, Option.getD_some]
      refine ⟨.inr, ?_⟩
      rintro (rfl | hsame)
      · exact hfound.1.1
      · exact hsame

/-- Of two positions of a set, the later one comes behind just one other if it comes behind none but the earlier one. -/
theorem second_or_only_iff_of_mem {p : Prop} (hfirst : first ∈ s) (hsecond : second ∈ s) (hlt : first < second) :
    ((s = ∅ ∧ p) ∨ s = {second} ∨ (second ∈ s ∧ ∃! q, q ∈ s ∧ q < second)) ↔ ∀ q ∈ s, q < second → q = first := by
  constructor
  · rintro (⟨hnone, -⟩ | honly | ⟨-, q, -, hunique⟩) q' hq' hlt'
    · exact absurd hfirst (hnone ▸ Set.notMem_empty first)
    · rw [honly] at hq'
      exact absurd hq' (Position.ne_of_lt hlt')
    · exact (hunique q' ⟨hq', hlt'⟩).trans (hunique first ⟨hfirst, hlt⟩).symm
  · intro honly
    exact .inr (.inr ⟨hsecond, first, ⟨hfirst, hlt⟩, fun q hq => honly q hq.1 hq.2⟩)

end second

/-- The column next to an appearance can be named: the equals sign is there or behind it. -/
theorem point_nextColumn_of_mem_appears {text key : List Char} (hlength : text.length < 2 ^ 31) (hne : key ≠ [])
    {q : Position} (hq : q ∈ Appears (splitLines text) key) : q.nextColumn.point = ⟨q.line, q.column + 1⟩ := by
  obtain ⟨l, k, row, hrow, ⟨before, _, rfl, rfl, -, blanks, rest, rfl, -⟩, hplace⟩ := hq
  have hrow' := line_add_length_le hrow (by simp)
  have hkey := List.length_pos_iff.mpr hne
  have hcolumn : q.column = before.length + 1 := congrArg Point.column hplace
  simp only [List.length_append, List.length_cons] at hrow'
  apply Position.point_nextColumn
  simp only [Position.limit]
  omega

/-- What is ahead of the column next to an appearance is ahead of the appearance, and the other way round. -/
theorem ahead_next {lines : List (List Char)} {key : List Char} {start q next : Position}
    (hkey : ∃ c name, key = c :: name ∧ isBlank c = false) (hq : q ∈ Ahead lines key start)
    (hnext : next.point = ⟨q.line, q.column + 1⟩) :
    Ahead lines key next = {q' | q' ∈ Ahead lines key start ∧ q < q'} := by
  have hstart := start_le_of_mem_ahead hq
  obtain ⟨⟨l, k, row, hrow, happears, hplace⟩, -⟩ := hq
  obtain ⟨c, name, rfl, hc⟩ := hkey
  rw [Position.point, Point.mk.injEq] at hplace hnext
  rw [Position.le_def] at hstart
  ext q'
  constructor
  · rintro ⟨hmem, hbehind | ⟨rfl, hcolumn⟩⟩
    · rw [Position.lt_def] at hbehind
      refine ⟨⟨hmem, .inl ?_⟩, ?_⟩
      · rw [Position.lt_def]
        omega
      · rw [Position.lt_def]
        omega
    · omega
  · rintro ⟨⟨hmem, -⟩, hlt⟩
    refine ⟨hmem, .inl ?_⟩
    obtain ⟨l', k', row', hrow', happears', hplace'⟩ := hmem
    rw [Position.point, Point.mk.injEq] at hplace'
    rw [Position.lt_def] at hlt ⊢
    by_contra hnot
    -- else it would be at the next column, where a blank would have to be before it
    obtain rfl : l' = l := by omega
    obtain rfl : k' = k + 1 := by omega
    obtain rfl := Option.some.inj (hrow.symm.trans hrow')
    exact happears.not_succ hc happears'

end Search

namespace Context

variable (ctx : Context)

/-- The bracket that opens a tag is searched for backward. -/
theorem answers_searchBackFrom_tag (hlength : ctx.text.length < 2 ^ 31) {position : Position}
    (hplace : position.IsPlace) :
    Answers IsGreatest (ctx.searchBackFrom position tagPattern) {q | q ∈ Opens ctx.lines ∧ q ≤ position} := by
  obtain ⟨l, k, hplace⟩ := hplace
  have hback := ctx.answers_searchBackward hlength l k tagPattern
  rw [begins_tagPattern, ← hplace] at hback
  rw [searchBackFrom, Position.counts?_of_point hplace]
  exact hback

/-- The two forward searches from a place: the second appearance of the key ahead of it, or the only one, or what is given
if the key does not appear there. -/
theorem searchTwice_eq_iff (hlength : ctx.text.length < 2 ^ 31) {key : String}
    (hkey : ∃ c name, key.toList = c :: name ∧ isBlank c = false) {start : Position}
    (hplace : start.IsPlace) (position goal : Position) :
    let ahead := Ahead ctx.lines key.toList start
    (match ctx.searchFrom start (attributePattern key) with
      | none => position
      | some first => (ctx.searchFrom first.nextColumn (attributePattern key)).getD first) = goal ↔
      (ahead = ∅ ∧ position = goal) ∨ ahead = {goal} ∨ (goal ∈ ahead ∧ ∃! q, q ∈ ahead ∧ q < goal) := by
  intro ahead
  have hfirst := ctx.answers_searchFrom_attribute hlength key hplace
  cases hfound : ctx.searchFrom start (attributePattern key) with
  | none =>
      rw [hfound] at hfirst
      have hempty : ahead = ∅ := hfirst
      rw [hempty]
      simp
  | some first =>
      rw [hfound] at hfirst
      have hleast : IsLeast ahead first := hfirst
      have hnext : first.nextColumn.point = ⟨first.line, first.column + 1⟩ := by
        obtain ⟨c, name, hcons, -⟩ := hkey
        have hne : key.toList ≠ [] := hcons ▸ List.cons_ne_nil c name
        refine point_nextColumn_of_mem_appears hlength hne ?_
        rw [← ctx.lines_eq]
        exact hleast.1.1
      have hplace' : first.nextColumn.IsPlace := by
        obtain ⟨l, k, hfirst⟩ := isPlace_of_mem_appears hleast.1.1
        rw [Position.point, Point.mk.injEq] at hfirst
        exact ⟨l, k + 1, by rw [hnext, hfirst.1, hfirst.2]; rfl⟩
      have hsecond := ctx.answers_searchFrom_attribute hlength key hplace'
      rw [ahead_next hkey hleast.1 hnext] at hsecond
      have hne : ¬ (ahead = ∅ ∧ position = goal) := fun h => Set.notMem_empty first (h.1 ▸ hleast.1)
      rw [or_iff_right hne]
      exact second_or_only_eq_iff hleast hsecond

/-- **The second appearance.** Ahead of the bracket that is found, or of the given position if there is none, the key is
searched for: the position is that of its second appearance, or of its only one, or the given one if it does not appear. -/
theorem duplicatePosition_eq_iff (hlength : ctx.text.length < 2 ^ 31) {key : String}
    (hkey : ∃ c name, key.toList = c :: name ∧ isBlank c = false) {position : Position}
    (hplace : position.IsPlace) (goal : Position) :
    let ahead := Ahead ctx.lines key.toList ((ctx.searchBackFrom position tagPattern).getD position)
    ctx.duplicatePosition (attributePattern key) position = goal ↔
      (ahead = ∅ ∧ position = goal) ∨ ahead = {goal} ∨ (goal ∈ ahead ∧ ∃! q, q ∈ ahead ∧ q < goal) := by
  have hopens := ctx.answers_searchBackFrom_tag hlength hplace
  have hstart : ((ctx.searchBackFrom position tagPattern).getD position).IsPlace := by
    cases hback : ctx.searchBackFrom position tagPattern with
    | none => exact hplace
    | some bracket =>
        rw [hback] at hopens
        exact isPlace_of_mem_opens hopens.1.1
  exact ctx.searchTwice_eq_iff hlength hkey hstart position goal

/-- Without a pattern for the attribute the message of the validator is repeated. -/
theorem handle_duplicate_of_none {error : ValidationError} {attributeName : QName}
    (hhandler : ctx.registry.get? error.kind = some (.builtin .duplicateAttribute))
    (hname : error.attributeName = some attributeName) (hpattern : attributePattern? attributeName.localName = none) :
    ctx.handle error = ctx.withFailure error.repeated := by
  rw [handle_of_handler hhandler]
  show ctx.withFailure (ctx.explainDuplicateAttribute error) = _
  rw [explainDuplicateAttribute, hname]
  dsimp only
  rw [hpattern]

theorem position_handle_duplicate {error : ValidationError} {attributeName : QName}
    (hhandler : ctx.registry.get? error.kind = some (.builtin .duplicateAttribute))
    (hname : error.attributeName = some attributeName)
    (hpattern : (attributePattern? attributeName.localName).isSome = true) :
    (ctx.handle error).position = ctx.duplicatePosition (attributePattern attributeName.localName) error.position := by
  obtain ⟨p, hbuilt⟩ := Option.isSome_iff_exists.mp hpattern
  obtain rfl := Pattern.eq_of_built? hbuilt
  rw [handle_of_handler hhandler, position_withFailure]
  show (ctx.explainDuplicateAttribute error).position = _
  rw [explainDuplicateAttribute, hname]
  dsimp only
  rw [hbuilt]
  rfl

/-- **The position of a repeated attribute.** Let a document with fewer than `2 ^ 31` characters and no mark at its beginning
have a tag that writes a key at least twice, and let an error about the repeated attribute be at the bracket of the tag
or behind it. If the pattern of the key is too large, the message of the validator is repeated. Else the last bracket up
to the error that opens a tag is the one of this tag or a later one. The position is that of the second attribute just if
behind this bracket the key appears there, and once before that or nowhere else; or if it does not appear there at all,
and the error is at the second attribute itself. If the bracket is that of the tag and the scan can see both attributes,
this means that nothing before the second one looks like it but the first one. -/
theorem position_of_duplicate_attribute (hlength : ctx.text.length < 2 ^ 31) (hmark : ctx.text.head? ≠ some '\ufeff')
    {error : ValidationError} {attributeName : QName}
    (hhandler : ctx.registry.get? error.kind = some (.builtin .duplicateAttribute))
    (hname : error.attributeName = some attributeName) {token : PlacedToken} {tag : Tag}
    (htoken : token ∈ (Markup.tokens ctx.text).tokens) (htag : token.token.tag? = some tag) (hnamed : tag.name ≠ [])
    {first second : RawAttribute} {others : List RawAttribute}
    (htwice : (tag.occurrences.filter fun raw => raw.key = attributeName.localName.toList) = first :: second :: others)
    (hblank : ∀ c, attributeName.localName.toList.head? = some c → isBlank c = false)
    (hinside : positionAt ctx.text token.start ≤ error.position) (hcolumn : 1 ≤ error.position.column) :
    let position := (ctx.handle error).position
    let place (raw : RawAttribute) := positionAt ctx.text (token.start + 1 + raw.start)
    (attributePattern? attributeName.localName = none → ctx.handle error = ctx.withFailure error.repeated) ∧
    ((attributePattern? attributeName.localName).isSome = true →
    ∃ start, IsGreatest {q | q ∈ Opens ctx.lines ∧ q ≤ error.position} start ∧
      positionAt ctx.text token.start ≤ start ∧
      ∃ ahead, ahead = Ahead ctx.lines attributeName.localName.toList start ∧
        (position = place second ↔ (ahead = ∅ ∧ error.position = place second) ∨ ahead = {place second} ∨
          (place second ∈ ahead ∧ ∃! q, q ∈ ahead ∧ q < place second)) ∧
        ∃ (earlier : AttributeAt ctx.text first) (later : AttributeAt ctx.text second),
          byteLength earlier.before = token.start + 1 + first.start ∧
          byteLength later.before = token.start + 1 + second.start ∧
          (start = positionAt ctx.text token.start → Visible earlier → Visible later →
            (position = place second ↔ ∀ q ∈ ahead, q < place second → q = place first))) := by
  intro position place
  refine ⟨ctx.handle_duplicate_of_none hhandler hname, fun hpattern => ?_⟩
  obtain ⟨earlier, later, hearlier, hlater, horder, hfirst, hsecond, hseparate⟩ :=
    exists_places_of_twice hmark htoken htag htwice
  have hkey : ∃ c name, attributeName.localName.toList = c :: name ∧ isBlank c = false := by
    obtain ⟨c, name, hcons, -⟩ := earlier.not_isSeparator_head_key
    rw [hfirst] at hcons
    exact ⟨c, name, hcons, hblank c (by rw [hcons]; rfl)⟩
  -- the bracket of the tag is one of those among which the backward search finds the last
  have hopens := positionAt_mem_opens_of_tag hlength hmark htoken htag hnamed
  rw [← ctx.lines_eq] at hopens
  have hplace : error.position.IsPlace := (isPlace_of_mem_opens hopens).of_le hinside hcolumn
  obtain ⟨start, hback, hgreatest⟩ := (ctx.answers_searchBackFrom_tag hlength hplace).exists_of_mem ⟨hopens, hinside⟩
  have hposition := ctx.duplicatePosition_eq_iff hlength hkey hplace (place second)
  rw [← ctx.position_handle_duplicate hhandler hname hpattern, hback, Option.getD_some] at hposition
  refine ⟨start, hgreatest, hgreatest.2 ⟨hopens, hinside⟩, _, rfl, hposition, earlier, later, hearlier, hlater, ?_⟩
  intro hsame hvisible hvisible'
  have hbracket : BeginsAt ctx.text token.start '<' := by
    obtain ⟨before, slash, rest, htext, hstart, -⟩ := Document.exists_written_tag hmark htoken htag
    exact ⟨before, _, htext, hstart.symm⟩
  obtain ⟨c, hbegins⟩ := earlier.exists_beginsAt
  obtain ⟨c', hbegins'⟩ := later.exists_beginsAt
  have hbefore := hbracket.positionAt_lt hlength hbegins (by omega)
  have hbefore' := hbracket.positionAt_lt hlength hbegins' (by omega)
  have hlt := hbegins.positionAt_lt hlength hbegins' (by omega)
  rw [← hsame] at hbefore hbefore'
  have hmem := (mem_ahead_attribute_iff hlength (hfirst ▸ hseparate) hbefore).mpr hvisible
  have hmem' := (mem_ahead_attribute_iff hlength (hsecond ▸ hseparate) hbefore').mpr hvisible'
  rw [← ctx.lines_eq, hfirst, hearlier] at hmem
  rw [← ctx.lines_eq, hsecond, hlater] at hmem'
  rw [hearlier, hlater] at hlt
  exact hposition.trans (second_or_only_iff_of_mem hmem hmem' hlt)

/-- The error is at the end of the tag, and a longer key that ends with the key of the attribute is between the two. -/
theorem position_of_duplicate_attribute_lines :
    let ctx := ofText "<r>\n<a n='1' m-n='0'\n\tn ='2'/></r>".toList
    let error : ValidationError :=
      { kind := .duplicateAttribute, message := "", position := ⟨3, 8⟩, attributeName := some ⟨"", "n"⟩ }
    let tag : Tag := ⟨"a n='1' m-n='0'\n\tn ='2'".toList⟩
    let token : PlacedToken := ⟨.emptyTag tag, 4, 30⟩
    let first : RawAttribute := ⟨['n'], 2, ['1']⟩
    let second : RawAttribute := ⟨['n'], 17, ['2']⟩
    let place (raw : RawAttribute) := positionAt ctx.text (token.start + 1 + raw.start)
    ctx.text.length < 2 ^ 31 ∧ ctx.text.head? ≠ some '\ufeff' ∧
      ctx.registry.get? error.kind = some (.builtin .duplicateAttribute) ∧
      token ∈ (Markup.tokens ctx.text).tokens ∧ tag.name ≠ [] ∧
      (tag.occurrences.filter fun raw => raw.key = "n".toList) = [first, second] ∧
      (∀ c, "n".toList.head? = some c → isBlank c = false) ∧
      positionAt ctx.text token.start ≤ error.position ∧ 1 ≤ error.position.column ∧
      (ctx.handle error).position = place second ∧ place second = ⟨3, 2⟩ ∧
      ∃ start, IsGreatest {q | q ∈ Opens ctx.lines ∧ q ≤ ⟨3, 8⟩} start ∧ ⟨2, 1⟩ ≤ start ∧
        (Ahead ctx.lines "n".toList start = {place second} ∨ (place second ∈ Ahead ctx.lines "n".toList start ∧
          ∃! q, q ∈ Ahead ctx.lines "n".toList start ∧ q < place second)) := by
  intro ctx error tag token first second place
  have hlength : ctx.text.length < 2 ^ 31 := by decide
  have hmark : ctx.text.head? ≠ some '\ufeff' := by decide
  have hhandler : ctx.registry.get? error.kind = some (.builtin .duplicateAttribute) := by decide
  have htoken : token ∈ (Markup.tokens ctx.text).tokens := by decide +kernel
  have hnamed : tag.name ≠ [] := by decide
  have htwice : (tag.occurrences.filter fun raw => raw.key = "n".toList) = [first, second] := by decide +kernel
  have hblank : ∀ c, "n".toList.head? = some c → isBlank c = false := by
    intro c hc
    obtain rfl : 'n' = c := Option.some.inj hc
    rfl
  have hinside : positionAt ctx.text token.start ≤ error.position := by decide +kernel
  have hposition : (ctx.handle error).position = place second := by decide +kernel
  have hsecond : place second = ⟨3, 2⟩ := by decide +kernel
  have hpattern : (attributePattern? "n").isSome = true := by decide +kernel
  obtain ⟨start, hgreatest, hle, ahead, rfl, hiff, -⟩ :=
    (ctx.position_of_duplicate_attribute hlength hmark hhandler rfl htoken rfl hnamed htwice hblank hinside (by decide)).2
      hpattern
  refine ⟨hlength, hmark, hhandler, htoken, hnamed, htwice, hblank, hinside, by decide, hposition, hsecond, start, hgreatest,
    hle, (hiff.mp hposition).resolve_left ?_⟩
  rintro ⟨-, herror⟩
  exact absurd (herror.trans hsecond) (by decide)

/-- **The first attribute.** A value before both attributes has the text of one, so the second appearance is the first
attribute. -/
theorem position_at_first_of_duplicates :
    let ctx := ofText "<a x=' n=' n='1' n='2'/>".toList
    let error : ValidationError :=
      { kind := .duplicateAttribute, message := "", position := ⟨1, 1⟩, attributeName := some ⟨"", "n"⟩ }
    let tag : Tag := ⟨"a x=' n=' n='1' n='2'".toList⟩
    (Markup.tokens ctx.text).tokens = [⟨.emptyTag tag, 0, 24⟩] ∧
      (tag.occurrences.filter fun raw => raw.key = ['n']) = [⟨['n'], 10, ['1']⟩, ⟨['n'], 16, ['2']⟩] ∧
      (ctx.handle error).primary = some ⟨.attributeDuplicated, ["n"]⟩ ∧
      positionAt ctx.text (0 + 1 + 16) = ⟨1, 18⟩ ∧ positionAt ctx.text (0 + 1 + 10) = ⟨1, 12⟩ ∧
      (ctx.handle error).position = ⟨1, 12⟩ := by
  decide +kernel

end Context

end XmlDiagnostics
