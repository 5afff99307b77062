import XmlDiagnostics.Markup.Attribute
import XmlDiagnostics.Proofs.Except
import XmlDiagnostics.Proofs.Markup.Bracketing

/-! # Where attributes stand

What `readAttribute` reads is a piece of the text that it is given: separators, the key, an equals sign among
separators, and the value between two marks of one kind (`readAttribute_eq_some`). So every attribute of a tag has its
place in the text of the document (`exists_placedAttribute`), with its key at the octet that the attribute
remembers. -/

namespace XmlDiagnostics.Markup

open Text

/-- Whether a character is a quotation mark. -/
def isMark (c : Char) : Bool := c = '"' || c = '\''

/-- The place of an attribute in a text, with what is written around its key and its value. -/
structure AttributeAt (text : List Char) (a : RawAttribute) where
  before : List Char
  beforeSign : List Char
  afterSign : List Char
  mark : Char
  after : List Char
  text_eq : text = before ++ (a.key ++ (beforeSign ++ '=' :: (afterSign ++ mark :: (a.value ++ mark :: after))))
  all_isSeparator_beforeSign : beforeSign.all isSeparator = true
  all_isSeparator_afterSign : afterSign.all isSeparator = true
  isMark_mark : isMark mark = true
  mark_not_mem_value : mark ∉ a.value
  not_isSeparator_head_key : ∃ c more, a.key = c :: more ∧ isSeparator c = false

/-- A text ends with a separator or a quotation mark, so that a key can follow. -/
def Delimited (text : List Char) : Prop := ∃ former c, text = former ++ [c] ∧ (isSeparator c = true ∨ isMark c = true)

theorem Delimited.append_left {text : List Char} (h : Delimited text) (former : List Char) :
    Delimited (former ++ text) := by
  obtain ⟨more, c, rfl, hc⟩ := h
  exact ⟨former ++ more, c, by rw [List.append_assoc], hc⟩

theorem delimited_concat (former : List Char) {c : Char} (h : isSeparator c = true ∨ isMark c = true) :
    Delimited (former ++ [c]) := ⟨former, c, rfl, h⟩

/-! ### Reading attributes -/

theorem utf8Size_of_isSeparator {c : Char} (h : isSeparator c = true) : c.utf8Size = 1 := by
  simp only [isSeparator, Bool.or_eq_true, decide_eq_true_eq] at h
  rcases h with ((rfl | rfl) | rfl) | rfl <;> rfl

/-- Skipping goes over separators. -/
theorem exists_blanks_of_skipSeparators {offset o : Nat} {text rest : List Char}
    (h : skipSeparators offset text = (o, rest)) :
    ∃ blanks, text = blanks ++ rest ∧ blanks.all isSeparator = true ∧ o = offset + byteLength blanks ∧
      ∀ c, rest.head? = some c → isSeparator c = false := by
  induction text generalizing offset with
  | nil =>
      obtain ⟨rfl, rfl⟩ := Prod.mk.inj h
      exact ⟨[], rfl, rfl, rfl, fun c hc => by cases hc⟩
  | cons c text ih =>
      rw [skipSeparators] at h
      split at h
      · rename_i hc
        obtain ⟨blanks, rfl, hall, rfl, hhead⟩ := ih h
        refine ⟨c :: blanks, rfl, by rw [List.all_cons, hc, hall]; rfl, ?_, hhead⟩
        rw [byteLength, utf8Size_of_isSeparator hc]
        omega
      · rename_i hc
        obtain ⟨rfl, rfl⟩ := Prod.mk.inj h
        refine ⟨[], rfl, rfl, rfl, fun d hd => ?_⟩
        obtain rfl := Option.some.inj hd
        exact Bool.not_eq_true _ ▸ hc

theorem splitBefore_eq_cons {p : Char → Bool} {text before rest : List Char} {c : Char}
    (h : splitBefore p text = (before, c :: rest)) :
    text = before ++ c :: rest ∧ p c = true ∧ ∀ d ∈ before, p d = false := by
  have htext := splitBefore_append p text
  rw [h] at htext
  obtain ⟨rfl, hdrop⟩ := Prod.mk.inj h
  refine ⟨htext.symm, ?_, ?_⟩
  · have hhead := List.head_dropWhile_not (fun c => !p c) (l := text) (by rw [hdrop]; exact List.cons_ne_nil _ _)
    simp only [hdrop, List.head_cons] at hhead
    simpa using hhead
  · intro d hd
    simpa using List.mem_takeWhile_imp hd

/-- **One attribute.** What is read is written at the beginning of the text, and the octets are counted over it. -/
theorem readAttribute_eq_some {earlier : List RawAttribute} {offset offset' : Nat} {text rest : List Char}
    {a : RawAttribute} (h : readAttribute earlier offset text = .ok (some (a, offset', rest))) :
    ∃ place : AttributeAt text a, place.before.all isSeparator = true ∧ place.after = rest ∧
      a.start = offset + byteLength place.before ∧ offset' + byteLength rest = offset + byteLength text ∧
      ∀ c ∈ a.key, isSeparator c = false := by
  unfold readAttribute at h
  dsimp only at h
  split at h
  · cases h
  · rename_i start first afterFirst hfirst
    obtain ⟨blanks, rfl, hblanks, rfl, hhead⟩ := exists_blanks_of_skipSeparators hfirst
    have hkey := splitBefore_append (fun c => c = '=' || isSeparator c) afterFirst
    have hmore : ∀ c ∈ (splitBefore (fun c => c = '=' || isSeparator c) afterFirst).1, isSeparator c = false := by
      intro c hc
      have := List.mem_takeWhile_imp hc
      simp at this
      exact this.2
    generalize splitBefore (fun c => c = '=' || isSeparator c) afterFirst = parts at h hkey hmore
    obtain ⟨more, afterKey⟩ := parts
    subst hkey
    split at h
    · cases h
    · rename_i position sign afterEquals hsign
      obtain ⟨beforeSign, rfl, hbeforeSign, rfl, -⟩ := exists_blanks_of_skipSeparators hsign
      split at h
      · cases h
      · rename_i hequals
        obtain rfl : sign = '=' := Decidable.not_not.mp hequals
        split at h
        · cases h
        · split at h
          · cases h
          · rename_i position' mark afterMark hmark
            obtain ⟨afterSign, rfl, hafterSign, rfl, -⟩ := exists_blanks_of_skipSeparators hmark
            split at h
            · cases h
            · rename_i hquotation
              split at h
              · cases h
              · rename_i value closing rest' hvalue
                obtain ⟨rfl, hclosing, hnot⟩ := splitBefore_eq_cons hvalue
                obtain rfl : closing = mark := of_decide_eq_true hclosing
                simp only [Except.ok.injEq, Option.some.injEq, Prod.mk.injEq] at h
                obtain ⟨rfl, rfl, rfl⟩ := h
                have hismark : isMark closing = true := by
                  rw [isMark, Bool.or_eq_true, decide_eq_true_eq, decide_eq_true_eq]
                  by_contra hne
                  exact hquotation (not_or.mp hne)
                have hmem : closing ∉ value := by
                  intro hmem
                  have := hnot closing hmem
                  simp at this
                refine ⟨⟨blanks, beforeSign, afterSign, closing, rest', by simp, hbeforeSign, hafterSign, hismark, hmem, first,
                  more, rfl, hhead first rfl⟩, hblanks, rfl, rfl, ?_, List.forall_mem_cons.mpr ⟨hhead first rfl, hmore⟩⟩
                have hsize : closing.utf8Size = 1 := by
                  rw [isMark, Bool.or_eq_true, decide_eq_true_eq, decide_eq_true_eq] at hismark
                  rcases hismark with rfl | rfl <;> rfl
                have hequalsSize : '='.utf8Size = 1 := rfl
                simp only [byteLength_append, byteLength, hsize, hequalsSize]
                omega

/-- Reading attributes stops without one more, or reads one and goes on behind it. -/
theorem readAttributes_succ_eq_ok {n offset : Nat} {earlier : List RawAttribute} {text : List Char}
    {written : List (RawAttribute × List Char)} (h : readAttributes (n + 1) earlier offset text = .ok written) :
    written = [] ∨ ∃ a value offset' rest more, readAttribute earlier offset text = .ok (some (a, offset', rest)) ∧
      unescape a.value = .ok value ∧ readAttributes n (a :: earlier) offset' rest = .ok more ∧
      written = (a, value) :: more := by
  rw [readAttributes] at h
  obtain ⟨result, hread, h⟩ := bind_eq_ok.mp h
  cases result with
  | none => exact .inl (Except.ok.inj h).symm
  | some result =>
      obtain ⟨a, offset', rest⟩ := result
      obtain ⟨value, hvalue, h⟩ := bind_eq_ok.mp h
      obtain ⟨more, hmore, h⟩ := bind_eq_ok.mp h
      exact .inr ⟨a, value, offset', rest, more, hread, mapError_eq_ok.mp hvalue, hmore, (Except.ok.inj h).symm⟩

/-- An attribute behind some more text. -/
def AttributeAt.behind {text : List Char} {a : RawAttribute} (place : AttributeAt text a) (former : List Char) :
    AttributeAt (former ++ text) a where
  before := former ++ place.before
  beforeSign := place.beforeSign
  afterSign := place.afterSign
  mark := place.mark
  after := place.after
  text_eq := by
    conv => lhs; rw [place.text_eq]
    rw [List.append_assoc]
  all_isSeparator_beforeSign := place.all_isSeparator_beforeSign
  all_isSeparator_afterSign := place.all_isSeparator_afterSign
  isMark_mark := place.isMark_mark
  mark_not_mem_value := place.mark_not_mem_value
  not_isSeparator_head_key := place.not_isSeparator_head_key

/-- An attribute before some more text. -/
def AttributeAt.ahead {text : List Char} {a : RawAttribute} (place : AttributeAt text a) (latter : List Char) :
    AttributeAt (text ++ latter) a where
  before := place.before
  beforeSign := place.beforeSign
  afterSign := place.afterSign
  mark := place.mark
  after := place.after ++ latter
  text_eq := by
    conv => lhs; rw [place.text_eq]
    simp
  all_isSeparator_beforeSign := place.all_isSeparator_beforeSign
  all_isSeparator_afterSign := place.all_isSeparator_afterSign
  isMark_mark := place.isMark_mark
  mark_not_mem_value := place.mark_not_mem_value
  not_isSeparator_head_key := place.not_isSeparator_head_key

/-- A key stands behind separators, or behind what is before these. -/
theorem AttributeAt.delimited {text former : List Char} {a : RawAttribute} (place : AttributeAt text a)
    (hblanks : place.before.all isSeparator = true)
    (hstart : Delimited former ∨ ∀ c, text.head? = some c → isSeparator c = true) :
    Delimited (former ++ place.before) := by
  rcases List.eq_nil_or_concat place.before with hnil | ⟨blanks, c, hconcat⟩
  · obtain ⟨c, more, hkey, hc⟩ := place.not_isSeparator_head_key
    have hhead : text.head? = some c := by rw [place.text_eq, hnil, hkey]; rfl
    rcases hstart with hformer | hseparator
    · rw [hnil, List.append_nil]
      exact hformer
    · rw [hseparator c hhead] at hc
      cases hc
  · rw [List.concat_eq_append] at hconcat
    have hc : isSeparator c = true := List.all_eq_true.mp hblanks c (by simp [hconcat])
    rw [hconcat]
    exact (delimited_concat blanks (.inl hc)).append_left former

/-! ### Repeated keys -/

/-- Without attributes before it an attribute is read as well. -/
theorem readAttribute_nil {earlier : List RawAttribute} {offset : Nat} {text : List Char}
    {result : Option (RawAttribute × Nat × List Char)} (h : readAttribute earlier offset text = .ok result) :
    readAttribute [] offset text = .ok result := by
  unfold readAttribute at h ⊢
  dsimp only at h ⊢
  split at h
  · exact h
  · split at h
    · cases h
    · split at h
      · cases h
      · split at h
        · cases h
        · simp_all

/-- At most `n` attributes that are written one after the other, whether or not their keys are repeated. -/
def occurrencesIn : Nat → Nat → List Char → List RawAttribute
  | 0, _, _ => []
  | n + 1, offset, text =>
    match readAttribute [] offset text with
    | .ok (some (a, offset, rest)) => a :: occurrencesIn n offset rest
    | _ => []

/-- The attributes that are written in a tag one after the other, whether or not their keys are repeated. -/
def Tag.occurrences (tag : Tag) : List RawAttribute :=
  occurrencesIn (tag.afterName.length + 1) (byteLength tag.name) tag.afterName

/-- What is read without flaw is what is written, and the values are unescaped. -/
theorem mem_occurrencesIn {n offset : Nat} {earlier : List RawAttribute} {text value : List Char}
    {written : List (RawAttribute × List Char)} {a : RawAttribute} (h : readAttributes n earlier offset text = .ok written)
    (hmem : (a, value) ∈ written) : a ∈ occurrencesIn n offset text ∧ unescape a.value = .ok value := by
  induction n generalizing offset earlier text written with
  | zero =>
      obtain rfl := Except.ok.inj h
      cases hmem
  | succ n ih =>
      rcases readAttributes_succ_eq_ok h with rfl | ⟨first, firstValue, offset', rest, more, hread, hvalue, hmore, rfl⟩
      · cases hmem
      · rw [occurrencesIn, readAttribute_nil hread]
        rcases List.mem_cons.mp hmem with heq | hmem
        · obtain ⟨rfl, rfl⟩ := Prod.mk.inj heq
          exact ⟨List.mem_cons_self, hvalue⟩
        · obtain ⟨hlater, hunescape⟩ := ih hmore hmem
          exact ⟨List.mem_cons_of_mem _ hlater, hunescape⟩

/-- An attribute is only read if its key is none of those before it. -/
theorem key_notMem_of_readAttribute {earlier : List RawAttribute} {offset offset' : Nat} {text rest : List Char}
    {a : RawAttribute} (h : readAttribute earlier offset text = .ok (some (a, offset', rest))) :
    a.key ∉ earlier.map RawAttribute.key := by
  unfold readAttribute at h
  dsimp only at h
  split at h
  · cases h
  · split at h
    · cases h
    · split at h
      · cases h
      · split at h
        · cases h
        · rename_i hnew
          split at h
          · cases h
          · split at h
            · cases h
            · split at h
              · cases h
              · simp only [Except.ok.injEq, Option.some.injEq, Prod.mk.injEq] at h
                obtain ⟨rfl, -, -⟩ := h
                intro hmem
                obtain ⟨b, hb, hsame⟩ := List.mem_map.mp hmem
                exact List.find?_eq_none.mp hnew b hb (decide_eq_true hsame)

theorem nodup_keys_of_readAttributes {n offset : Nat} {earlier : List RawAttribute} {text : List Char}
    {written : List (RawAttribute × List Char)} (h : readAttributes n earlier offset text = .ok written) :
    (written.map fun entry => entry.1.key).Nodup ∧
      ∀ entry ∈ written, entry.1.key ∉ earlier.map RawAttribute.key := by
  induction n generalizing offset earlier text written with
  | zero =>
      obtain rfl := Except.ok.inj h
      exact ⟨List.nodup_nil, fun entry hmem => absurd hmem List.not_mem_nil⟩
  | succ n ih =>
      rcases readAttributes_succ_eq_ok h with rfl | ⟨a, value, offset', rest, more, hread, -, hmore, rfl⟩
      · exact ⟨List.nodup_nil, fun entry hmem => absurd hmem List.not_mem_nil⟩
      · obtain ⟨hnodup, hnew⟩ := ih hmore
        refine ⟨List.nodup_cons.mpr ⟨fun hmem => ?_, hnodup⟩, List.forall_mem_cons.mpr ⟨key_notMem_of_readAttribute hread, ?_⟩⟩
        · obtain ⟨entry, hentry, hsame⟩ := List.mem_map.mp hmem
          exact hnew entry hentry (hsame ▸ List.mem_cons_self)
        · exact fun entry hentry hmem => hnew entry hentry (List.mem_cons_of_mem _ hmem)

/-- **The keys of a tag are distinct.** -/
theorem nodup_keys_of_attributes {tag : Tag} {pairs : List (List Char × List Char)} (h : tag.attributes = .ok pairs) :
    (pairs.map Prod.fst).Nodup := by
  rw [Tag.attributes] at h
  cases hwritten : tag.writtenAttributes with
  | error flaw =>
      rw [hwritten] at h
      cases h
  | ok written =>
      rw [hwritten] at h
      obtain rfl := Except.ok.inj h
      rw [List.map_map]
      exact (nodup_keys_of_readAttributes hwritten).1

/-- An attribute that is read begins before the octet at which reading goes on. -/
theorem start_bounds_of_readAttribute {earlier : List RawAttribute} {offset offset' : Nat} {text rest : List Char}
    {a : RawAttribute} (h : readAttribute earlier offset text = .ok (some (a, offset', rest))) :
    offset ≤ a.start ∧ a.start < offset' := by
  obtain ⟨place, -, rfl, hstart, hoffset, -⟩ := readAttribute_eq_some h
  obtain ⟨c, more, hkey, -⟩ := place.not_isSeparator_head_key
  have hpos := c.utf8Size_pos
  have hbytes := congrArg byteLength place.text_eq
  rw [hkey] at hbytes
  simp only [byteLength_append, byteLength, List.cons_append] at hbytes
  omega

theorem le_start_of_mem_occurrencesIn {n offset : Nat} {text : List Char} {a : RawAttribute}
    (h : a ∈ occurrencesIn n offset text) : offset ≤ a.start := by
  induction n generalizing offset text with
  | zero => cases h
  | succ n ih =>
      rw [occurrencesIn] at h
      split at h
      case h_2 => cases h
      case h_1 first offset' rest hread =>
        obtain ⟨hle, hlt⟩ := start_bounds_of_readAttribute hread
        rcases List.mem_cons.mp h with rfl | hmem
        · exact hle
        · exact hle.trans (hlt.le.trans (ih hmem))

/-- What is written later begins later. -/
theorem pairwise_start_occurrencesIn (n offset : Nat) (text : List Char) :
    (occurrencesIn n offset text).Pairwise fun a b => a.start < b.start := by
  induction n generalizing offset text with
  | zero => exact .nil
  | succ n ih =>
      rw [occurrencesIn]
      split
      case h_2 => exact .nil
      case h_1 first offset' rest hread =>
        refine List.pairwise_cons.mpr ⟨fun later hlater => ?_, ih offset' rest⟩
        exact (start_bounds_of_readAttribute hread).2.trans_le (le_start_of_mem_occurrencesIn hlater)

/-- **All attributes.** What is written in a text stands there, each key behind a separator or a quotation mark if the
text begins with a separator or stands behind one of these. -/
theorem exists_attributeAt_of_mem {n offset : Nat} {former text latter whole : List Char} {a : RawAttribute}
    (hmem : a ∈ occurrencesIn n offset text) (hwhole : whole = former ++ (text ++ latter))
    (hstart : Delimited former ∨ ∀ c, text.head? = some c → isSeparator c = true) :
    ∃ place : AttributeAt whole a, Delimited place.before ∧
      a.start + byteLength former = offset + byteLength place.before ∧ a.start < offset + byteLength text ∧
      ∀ c ∈ a.key, isSeparator c = false := by
  induction n generalizing offset former text with
  | zero => cases hmem
  | succ n ih =>
      rw [occurrencesIn] at hmem
      split at hmem
      case h_2 => cases hmem
      case h_1 first offset' rest hread =>
        obtain ⟨place, hblanks, rfl, hfirst, hoffset, hkey⟩ := readAttribute_eq_some hread
        have hlt := (start_bounds_of_readAttribute hread).2
        rcases List.mem_cons.mp hmem with rfl | hmem
        · subst hwhole
          have hbefore : ((place.ahead latter).behind former).before = former ++ place.before := rfl
          refine ⟨(place.ahead latter).behind former, place.delimited hblanks hstart, ?_, by omega, hkey⟩
          rw [hfirst, hbefore, byteLength_append]
          omega
        · -- the next attribute is read behind the mark that ends this one
          obtain ⟨passed, hpassed⟩ : ∃ passed, passed = former ++ (place.before ++ (first.key ++ (place.beforeSign ++
            '=' :: (place.afterSign ++ place.mark :: (first.value ++ [place.mark]))))) := ⟨_, rfl⟩
          have hsplit : former ++ text = passed ++ place.after := by
            conv => lhs; rw [place.text_eq]
            rw [hpassed]
            simp
          have hmark : Delimited passed := by
            have := delimited_concat (former ++ (place.before ++ (first.key ++ (place.beforeSign ++
              '=' :: (place.afterSign ++ place.mark :: first.value))))) (.inr place.isMark_mark)
            rw [hpassed]
            simpa using this
          have hwhole' : whole = passed ++ (place.after ++ latter) := by
            rw [hwhole, ← List.append_assoc, hsplit, List.append_assoc]
          obtain ⟨later, hdelimited, hstart', hlt, hkey'⟩ := ih hmem hwhole' (.inl hmark)
          have hlength : byteLength former + byteLength text = byteLength passed + byteLength place.after := by
            rw [← byteLength_append, ← byteLength_append, hsplit]
          exact ⟨later, hdelimited, by omega, by omega, hkey'⟩

/-- What stands behind the name of a tag begins with a separator. -/
theorem isSeparator_of_head?_afterName {tag : Tag} {c : Char} (h : tag.afterName.head? = some c) : isSeparator c = true := by
  have := List.head?_dropWhile_not (fun c => !isSeparator c) tag.content
  rw [Tag.afterName] at h
  rw [h] at this
  simpa using this

/-- **Every attribute of a tag has its place** where the tag is written. -/
theorem exists_attributeAt_of_mem_occurrences {text before rest : List Char} {tag : Tag} {a : RawAttribute}
    (htext : text = before ++ '<' :: (tag.content ++ rest)) (hmem : a ∈ tag.occurrences) :
    ∃ place : AttributeAt text a, Delimited place.before ∧ byteLength place.before = byteLength before + 1 + a.start ∧
      a.start < byteLength tag.content ∧ ∀ c ∈ a.key, isSeparator c = false := by
  have hcontent : tag.content = tag.name ++ tag.afterName := List.takeWhile_append_dropWhile.symm
  have hwhole : text = (before ++ '<' :: tag.name) ++ (tag.afterName ++ rest) := by
    rw [htext, hcontent]
    simp
  obtain ⟨place, hdelimited, hoffset, hlt, hkey⟩ :=
    exists_attributeAt_of_mem hmem hwhole (.inr fun c hc => isSeparator_of_head?_afterName hc)
  have hbracket : '<'.utf8Size = 1 := rfl
  simp only [byteLength_append, byteLength, hbracket] at hoffset
  refine ⟨place, hdelimited, by omega, ?_, hkey⟩
  rw [hcontent, byteLength_append]
  exact hlt

/-! ### Attributes of a document -/

theorem exists_mark (text : List Char) : ∃ mark, text = mark ++ withoutMark text := by
  unfold withoutMark
  split
  · exact ⟨['\ufeff'], rfl⟩
  · exact ⟨[], rfl⟩

/-- An attribute of a tag of a document, with its place in the text. -/
structure PlacedAttribute (text : List Char) where
  token : PlacedToken
  tag : Tag
  raw : RawAttribute
  value : List Char
  place : AttributeAt text raw
  mem_tokens : token ∈ (tokens text).tokens
  tag_eq : token.token.tag? = some tag
  mem_written : ∃ written, tag.writtenAttributes = .ok written ∧ (raw, value) ∈ written
  unescape_eq : unescape raw.value = .ok value
  delimited : Delimited place.before
  start_eq : ∃ mark, text = mark ++ withoutMark text ∧
    byteLength place.before = byteLength mark + token.start + 1 + raw.start

/-- Every attribute of a tag has its place in the text. -/
theorem exists_placedAttribute {text value : List Char} {token : PlacedToken} {tag : Tag} {raw : RawAttribute}
    {written : List (RawAttribute × List Char)} (hmem : token ∈ (tokens text).tokens)
    (htag : token.token.tag? = some tag) (hwritten : tag.writtenAttributes = .ok written)
    (hraw : (raw, value) ∈ written) :
    ∃ p : PlacedAttribute text, p.token = token ∧ p.tag = tag ∧ p.raw = raw ∧ p.value = value := by
  obtain ⟨mark, hmark⟩ := exists_mark text
  have hcover : Cover 0 (tokens text).tokens (withoutMark text) := cover_cut _ _ _ _
  obtain ⟨before, written', rest, htext, htoken, hstart, -⟩ := hcover.exists_written hmem
  obtain ⟨slash, -, rfl⟩ := written_of_tag htag htoken
  have hwhole : text = (mark ++ before) ++ '<' :: (tag.content ++ (slash ++ '>' :: rest)) := by
    rw [hmark, htext]
    simp
  obtain ⟨hoccurs, hunescape⟩ := mem_occurrencesIn hwritten hraw
  obtain ⟨place, hdelimited, hoffset, -⟩ := exists_attributeAt_of_mem_occurrences hwhole hoccurs
  have hplace : byteLength place.before = byteLength mark + token.start + 1 + raw.start := by
    rw [byteLength_append] at hoffset
    omega
  exact ⟨⟨token, tag, raw, value, place, hmem, htag, ⟨written, hwritten, hraw⟩, hunescape, hdelimited, mark, hmark, hplace⟩,
    rfl, rfl, rfl, rfl⟩

/-- The keys and values of a tag are those of attributes that have their places in the text. -/
theorem exists_placedAttribute_of_attributes {text : List Char} {token : PlacedToken} {tag : Tag}
    {attributes : List (List Char × List Char)} {key value : List Char} (hmem : token ∈ (tokens text).tokens)
    (htag : token.token.tag? = some tag) (hattributes : tag.attributes = .ok attributes)
    (hpair : (key, value) ∈ attributes) :
    ∃ p : PlacedAttribute text, p.token = token ∧ p.raw.key = key ∧ p.value = value := by
  rw [Tag.attributes] at hattributes
  cases hwritten : tag.writtenAttributes with
  | error flaw =>
      rw [hwritten] at hattributes
      cases hattributes
  | ok written =>
      rw [hwritten] at hattributes
      obtain rfl := Except.ok.inj hattributes
      obtain ⟨⟨raw, value'⟩, hraw, heq⟩ := List.mem_map.mp hpair
      obtain ⟨rfl, rfl⟩ := Prod.mk.inj heq
      obtain ⟨p, rfl, -, rfl, rfl⟩ := exists_placedAttribute hmem htag hwritten hraw
      exact ⟨p, rfl, rfl, rfl⟩

/-- The place of an attribute is within its tag, and its key has no separators. -/
theorem PlacedAttribute.within_tag {text : List Char} (p : PlacedAttribute text) (hmark : withoutMark text = text) :
    byteLength p.place.before = p.token.start + 1 + p.raw.start ∧ p.raw.start < byteLength p.tag.content ∧
      ∀ c ∈ p.raw.key, isSeparator c = false := by
  obtain ⟨mark, htext, hstart⟩ := p.start_eq
  obtain ⟨written, hwritten, hraw⟩ := p.mem_written
  have hwhole : '<' :: (p.tag.content ++ []) = [] ++ '<' :: (p.tag.content ++ []) := rfl
  obtain ⟨-, -, -, hlt, hkey⟩ := exists_attributeAt_of_mem_occurrences hwhole (mem_occurrencesIn hwritten hraw).1
  rw [hmark] at htext
  obtain rfl := List.append_left_eq_self.mp htext.symm
  exact ⟨by rw [hstart, byteLength, Nat.zero_add], hlt, hkey⟩

/-! ### Values without entities -/

theorem unescapeFrom_of_not_mem {value : List Char} (h : '&' ∉ value) (stop offset : Nat) :
    unescapeFrom stop offset none value = .ok value := by
  induction value generalizing offset with
  | nil => rfl
  | cons c value ih =>
      obtain ⟨hc, hvalue⟩ := not_or.mp (mt List.mem_cons.mpr h)
      rw [unescapeFrom, if_neg (Ne.symm hc), ih hvalue]
      rfl

/-- Without an ampersand the text of a value is as it is written. -/
theorem PlacedAttribute.value_eq {text : List Char} (p : PlacedAttribute text) (h : '&' ∉ p.raw.value) :
    p.value = p.raw.value := by
  have heq := p.unescape_eq
  rw [unescape, unescapeFrom_of_not_mem h] at heq
  exact (Except.ok.inj heq).symm

end XmlDiagnostics.Markup
