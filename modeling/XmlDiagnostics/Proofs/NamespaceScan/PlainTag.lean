import Mathlib.Algebra.BigOperators.Group.List.Basic
import XmlDiagnostics.Document
import XmlDiagnostics.Proofs.Markup.Printing
import XmlDiagnostics.Proofs.NamespaceScan.StartTag

/-! # Plain tags

A search that knows nothing of quotation marks and entities can be misled by a tag. A tag is plain if nothing in it does
that: its name is made of the characters that the pattern of a start tag knows, each attribute has white space before it,
no value holds a bracket, a quotation mark, or something that looks like a declaration, and namespaces are
written without entities. Reading a plain tag gives its name (`name_tag`) and the keys and values of its attributes
(`attributes_tag`). -/

namespace XmlDiagnostics.NamespaceScan

open Markup Text Document

/-! ### Attributes -/

/-- The characters of a plain key. -/
def isPlainKeyChar (c : Char) : Bool := !isBlank c && !(['<', '>', '=', '"', '\''].contains c)

/-- The characters of a plain value, as it is written. -/
def isPlainValueChar (c : Char) : Bool := !(['<', '>', '"', '\''].contains c)

/-- Whether a text does not begin like a declaration of a namespace. -/
def opensNoDeclaration (text : List Char) : Bool := !"xmlns".toList.isPrefixOf text

/-- An attribute as it is written, with the text of its value. -/
structure PlainAttribute where
  blanks : List Char
  key : List Char
  beforeSign : List Char
  afterSign : List Char
  quote : Quote
  raw : List Char
  value : List Char
  blanks_ne_nil : blanks ≠ []
  key_ne_nil : key ≠ []
  key_ne_declarationMark : key ≠ declarationMark
  all_isSeparator_blanks : blanks.all isSeparator = true
  all_isSeparator_beforeSign : beforeSign.all isSeparator = true
  all_isSeparator_afterSign : afterSign.all isSeparator = true
  all_isPlainKeyChar : key.all isPlainKeyChar = true
  all_isPlainValueChar : raw.all isPlainValueChar = true
  declaresNothing : behind isBlank opensNoDeclaration raw = true
  unescape_raw : unescape raw = .ok value
  raw_eq_value : (declaredName? key).isSome = true → raw = value

theorem isPlainKeyChar_iff {c : Char} :
    isPlainKeyChar c = true ↔ isBlank c = false ∧ c ∉ ['<', '>', '=', '"', '\''] := by
  rw [isPlainKeyChar, Bool.and_eq_true, Bool.not_eq_true', Bool.not_eq_true', ← Bool.not_eq_true (List.contains _ _),
    List.contains_iff_mem]

theorem isPlainValueChar_iff {c : Char} : isPlainValueChar c = true ↔ c ∉ ['<', '>', '"', '\''] := by
  rw [isPlainValueChar, Bool.not_eq_true', ← Bool.not_eq_true, List.contains_iff_mem]

namespace PlainAttribute

variable (a : PlainAttribute)

/-- What is written behind the key of an attribute. -/
def afterKey : List Char := a.beforeSign ++ '=' :: (a.afterSign ++ a.quote.char :: (a.raw ++ [a.quote.char]))

/-- The text of an attribute. -/
def print : List Char := a.blanks ++ (a.key ++ a.afterKey)

theorem not_isSeparator_of_mem_key {c : Char} (h : c ∈ a.key) : isSeparator c = false := by
  have hblank := (isPlainKeyChar_iff.mp (List.all_eq_true.mp a.all_isPlainKeyChar c h)).1
  rw [← Bool.not_eq_true]
  intro hc
  rw [isBlank_of_isSeparator hc] at hblank
  cases hblank

theorem not_mem_key {sign : Char} (h : sign ∈ ['<', '>', '=', '"', '\'']) : sign ∉ a.key :=
  fun hmem => (isPlainKeyChar_iff.mp (List.all_eq_true.mp a.all_isPlainKeyChar sign hmem)).2 h

theorem not_mem_raw {sign : Char} (h : sign ∈ ['<', '>', '"', '\'']) : sign ∉ a.raw :=
  fun hmem => isPlainValueChar_iff.mp (List.all_eq_true.mp a.all_isPlainValueChar sign hmem) h

theorem quote_not_mem_raw : a.quote.char ∉ a.raw := by
  refine a.not_mem_raw ?_
  rcases a.quote.char_eq with h | h <;> rw [h] <;> decide

/-- An attribute holds no bracket. -/
theorem not_mem_print {sign : Char} (h : sign ∈ ['<', '>']) : sign ∉ a.print := by
  have hseparator : isSeparator sign = false := by
    rcases List.mem_pair.mp h with rfl | rfl <;> rfl
  have hnot : ∀ blanks : List Char, blanks.all isSeparator = true → sign ∉ blanks := by
    intro blanks hall hmem
    rw [List.all_eq_true.mp hall sign hmem] at hseparator
    cases hseparator
  have hquote : sign ≠ a.quote.char := by
    rcases a.quote.char_eq with hq | hq <;> rw [hq] <;> rintro rfl <;> revert h <;> decide
  have hsign : sign ≠ '=' := by
    rintro rfl
    revert h
    decide
  simp only [print, afterKey, List.mem_append, List.mem_cons, List.not_mem_nil, or_false, not_or]
  exact ⟨hnot _ a.all_isSeparator_blanks, a.not_mem_key (List.mem_append_left _ h), hnot _ a.all_isSeparator_beforeSign, hsign,
    hnot _ a.all_isSeparator_afterSign, hquote, a.not_mem_raw (List.mem_append_left _ h), hquote⟩

/-- A plain attribute is read as it is written if its key is new. -/
theorem exists_readAttribute_print {earlier : List RawAttribute} (hnew : ∀ b ∈ earlier, b.key ≠ a.key) (offset : Nat)
    (rest : List Char) :
    ∃ start offset', readAttribute earlier offset (a.print ++ rest) = .ok (some (⟨a.key, start, a.raw⟩, offset', rest)) := by
  obtain ⟨first, more, hkey⟩ := List.exists_cons_of_ne_nil a.key_ne_nil
  obtain ⟨value, hvalue⟩ : ∃ value, value = a.quote.char :: (a.raw ++ a.quote.char :: rest) := ⟨_, rfl⟩
  have htext : a.print ++ rest = a.blanks ++ first :: (more ++ (a.beforeSign ++ '=' :: (a.afterSign ++ value))) := by
    simp [print, afterKey, hkey, hvalue]
  have hmem : ∀ c ∈ first :: more, isSeparator c = false ∧ c ≠ '=' := by
    intro c hc
    rw [← hkey] at hc
    exact ⟨a.not_isSeparator_of_mem_key hc, fun heq => a.not_mem_key (by decide) (heq ▸ hc)⟩
  have hquote : isSeparator a.quote.char = false := by cases a.quote <;> rfl
  have hmark : ¬(a.quote.char ≠ '"' ∧ a.quote.char ≠ '\'') := fun h => a.quote.char_eq.elim h.1 h.2
  have hfind : (earlier.find? fun b => b.key = first :: more) = none :=
    List.find?_eq_none.mpr fun b hb => by simpa [← hkey] using hnew b hb
  obtain ⟨start, hstart⟩ := skipSeparators_append a.all_isSeparator_blanks offset
    (first :: (more ++ (a.beforeSign ++ '=' :: (a.afterSign ++ value))))
  rw [skipSeparators_cons (hmem first List.mem_cons_self).1] at hstart
  have hsplit : splitBefore (fun c => c = '=' || isSeparator c) (more ++ (a.beforeSign ++ '=' :: (a.afterSign ++ value))) =
      (more, a.beforeSign ++ '=' :: (a.afterSign ++ value)) := by
    refine splitBefore_eq_of_append (fun c hc => ?_) fun c hc => ?_
    · obtain ⟨hseparator, hsign⟩ := hmem c (List.mem_cons_of_mem _ hc)
      simp [hseparator, hsign]
    · cases hbefore : a.beforeSign with
      | nil =>
          rw [hbefore] at hc
          obtain rfl := Option.some.inj hc
          rfl
      | cons d before =>
          rw [hbefore] at hc
          obtain rfl := Option.some.inj hc
          have hseparator := List.all_eq_true.mp a.all_isSeparator_beforeSign d (hbefore ▸ List.mem_cons_self)
          simp [hseparator]
  obtain ⟨position, hposition⟩ := skipSeparators_append a.all_isSeparator_beforeSign (start + byteLength (first :: more))
    ('=' :: (a.afterSign ++ value))
  rw [skipSeparators_cons (show isSeparator '=' = false from rfl)] at hposition
  obtain ⟨begin, hbegin⟩ := skipSeparators_append a.all_isSeparator_afterSign (position + 1) value
  rw [hvalue, skipSeparators_cons hquote, ← hvalue] at hbegin
  have hend : splitBefore (· = a.quote.char) (a.raw ++ a.quote.char :: rest) = (a.raw, a.quote.char :: rest) := by
    refine splitBefore_eq_of_append (fun c hc => ?_) fun c hc => ?_
    · exact decide_eq_false fun heq => a.quote_not_mem_raw (heq ▸ hc)
    · exact decide_eq_true (Option.some.inj hc).symm
  refine ⟨start, begin + byteLength a.raw + 2, ?_⟩
  subst hvalue
  unfold readAttribute
  rw [htext]
  simp only [hstart, hsplit, hposition, hbegin, ne_eq, not_true_eq_false, if_false, hfind, if_neg hmark, hend, hkey]

end PlainAttribute

/-! ### Tags -/

/-- A name, perhaps with a colon in it, and attributes with distinct keys. -/
structure PlainTag where
  space : Option (List Char)
  localName : List Char
  attributes : List PlainAttribute
  ending : List Char
  isPlainName_space : ∀ name, space = some name → isPlainName name = true
  space_ne_xml : space ≠ some "xml".toList
  isPlainName_localName : isPlainName localName = true
  nodup_keys : (attributes.map PlainAttribute.key).Nodup
  all_isSeparator_ending : ending.all isSeparator = true

/-- No sign of markup is in a plain name. -/
theorem not_mem_of_isPlainName {name : List Char} (h : isPlainName name = true) {sign : Char} (hsign : sign ∈ signs) :
    sign ∉ name := by
  have hsigns : signs.all (fun sign => !nameStart.contains sign && !nameRest.contains sign) = true := by decide +kernel
  have hnot := List.all_eq_true.mp hsigns sign hsign
  simp only [Bool.and_eq_true, Bool.not_eq_true'] at hnot
  cases name with
  | nil => exact List.not_mem_nil
  | cons c rest =>
      obtain ⟨hc, hrest⟩ := Bool.and_eq_true_iff.mp h
      intro hmem
      rcases List.mem_cons.mp hmem with rfl | hmem
      · rw [hnot.1] at hc
        cases hc
      · have hcontains := List.all_eq_true.mp hrest sign hmem
        rw [hnot.2] at hcontains
        cases hcontains

namespace PlainTag

variable (tag : PlainTag)

/-- The name of a tag as it is written. -/
def name : List Char := writtenName tag.space tag.localName

/-- What is written behind the name. -/
def afterName : List Char := tag.attributes.flatMap PlainAttribute.print ++ tag.ending

/-- The tag as it is cut from a text. -/
def written : Tag := ⟨tag.name ++ tag.afterName⟩

/-- The keys and values of the attributes. -/
def pairs : List (List Char × List Char) := tag.attributes.map fun a => (a.key, a.value)

/-- Of the signs of markup only a colon can be in the name of a tag. -/
theorem not_mem_name {sign : Char} (hsign : sign ∈ signs) (hcolon : sign ≠ ':') : sign ∉ tag.name := by
  unfold name writtenName
  have hlocal := not_mem_of_isPlainName tag.isPlainName_localName hsign
  cases hspace : tag.space with
  | none => exact hlocal
  | some space =>
      have hname := not_mem_of_isPlainName (tag.isPlainName_space space hspace) hsign
      simp only [List.mem_append, List.mem_cons, not_or]
      exact ⟨hname, hcolon, hlocal⟩

theorem not_isSeparator_of_mem_name {c : Char} (hc : c ∈ tag.name) : isSeparator c = false := by
  rw [← Bool.not_eq_true]
  intro h
  simp only [isSeparator, Bool.or_eq_true, decide_eq_true_eq] at h
  rcases h with ((rfl | rfl) | rfl) | rfl
  all_goals exact tag.not_mem_name (by decide) (by decide) hc

/-- What is written behind the name begins with a separator, if with anything. -/
theorem isSeparator_of_head?_afterName {c : Char} (h : tag.afterName.head? = some c) : isSeparator c = true := by
  unfold afterName at h
  cases hattributes : tag.attributes with
  | nil =>
      rw [hattributes] at h
      exact List.all_eq_true.mp tag.all_isSeparator_ending c (List.mem_of_mem_head? h)
  | cons a attributes =>
      obtain ⟨first, blanks, hblanks⟩ := List.exists_cons_of_ne_nil a.blanks_ne_nil
      rw [hattributes, List.flatMap_cons, PlainAttribute.print, hblanks] at h
      obtain rfl := Option.some.inj h
      exact List.all_eq_true.mp a.all_isSeparator_blanks first (hblanks ▸ List.mem_cons_self)

/-- A tag holds no bracket. -/
theorem not_mem_content {sign : Char} (h : sign ∈ ['<', '>']) : sign ∉ tag.written.content := by
  have hname : sign ∉ tag.name := by
    rcases List.mem_pair.mp h with rfl | rfl
    · exact tag.not_mem_name (by decide) (by decide)
    · exact tag.not_mem_name (by decide) (by decide)
  have hending : sign ∉ tag.ending := by
    intro hmem
    have hseparator := List.all_eq_true.mp tag.all_isSeparator_ending sign hmem
    rcases List.mem_pair.mp h with rfl | rfl <;> cases hseparator
  simp only [written, afterName, List.mem_append, List.mem_flatMap, not_or, not_exists, not_and]
  exact ⟨hname, fun a _ => a.not_mem_print h, hending⟩

/-- A name begins with something other than an exclamation mark. -/
theorem exists_name_eq_cons : ∃ c rest, tag.name = c :: rest ∧ c ≠ '!' := by
  have hbang : '!' ∉ tag.name := tag.not_mem_name (by decide) (by decide)
  cases hname : tag.name with
  | nil =>
      have hlocal := tag.isPlainName_localName
      unfold name writtenName at hname
      split at hname
      · rw [hname] at hlocal
        cases hlocal
      · cases List.append_eq_nil_iff.mp hname |>.2
  | cons c rest =>
      refine ⟨c, rest, rfl, ?_⟩
      rintro rfl
      exact hbang (hname ▸ List.mem_cons_self)

variable {slash : List Char}

/-- What stands behind the name of a tag ends it. -/
theorem endsName_afterName (hslash : slash = [] ∨ slash = ['/']) : EndsName (tag.afterName ++ slash) := by
  have hseparators : [' ', '\t', '\r', '\n', '/'].all (fun c => c ≠ ':' && !nameRest.contains c) = true := by
    decide +kernel
  intro c hc
  have hmem : c ∈ [' ', '\t', '\r', '\n', '/'] := by
    rw [List.head?_append] at hc
    rcases Option.or_eq_some_iff.mp hc with hafter | ⟨-, hslash'⟩
    · have hseparator := tag.isSeparator_of_head?_afterName hafter
      simp only [isSeparator, Bool.or_eq_true, decide_eq_true_eq] at hseparator
      rcases hseparator with ((rfl | rfl) | rfl) | rfl <;> decide
    · rcases hslash with rfl | rfl
      · cases hslash'
      · obtain rfl := Option.some.inj hslash'
        decide
  simpa using List.all_eq_true.mp hseparators c hmem

/-! ### Reading a tag -/

theorem splitBefore_content : splitBefore isSeparator tag.written.content = (tag.name, tag.afterName) :=
  splitBefore_eq_of_append (fun _ hc => tag.not_isSeparator_of_mem_name hc) fun _ hc =>
    tag.isSeparator_of_head?_afterName hc

theorem name_written : tag.written.name = tag.name := congrArg Prod.fst tag.splitBefore_content

theorem splitName_name : splitName tag.name = (tag.space.getD [], tag.localName) := by
  unfold name writtenName
  cases hspace : tag.space with
  | none => exact splitName_of_no_colon (not_mem_of_isPlainName tag.isPlainName_localName (by decide))
  | some space => exact splitName_append (not_mem_of_isPlainName (tag.isPlainName_space space hspace) (by decide)) _

theorem exists_readAttributes_print {attributes : List PlainAttribute} {n : Nat} (hn : attributes.length < n)
    (hnodup : (attributes.map PlainAttribute.key).Nodup) {earlier : List RawAttribute}
    (hnew : ∀ b ∈ earlier, ∀ a ∈ attributes, b.key ≠ a.key) {ending : List Char} (hending : ending.all isSeparator = true)
    (offset : Nat) :
    ∃ written, readAttributes n earlier offset (attributes.flatMap PlainAttribute.print ++ ending) = .ok written ∧
      written.map (fun (a, value) => (a.key, value)) = attributes.map fun a => (a.key, a.value) := by
  induction attributes generalizing n earlier offset with
  | nil =>
      obtain ⟨n, rfl⟩ := Nat.exists_eq_add_one.mpr hn
      have hread := readAttribute_ending earlier offset hending
      exact ⟨[], by simp only [readAttributes, List.flatMap_nil, List.nil_append, hread]; rfl, rfl⟩
  | cons a attributes ih =>
      obtain ⟨n, rfl⟩ := Nat.exists_eq_add_one.mpr (Nat.lt_of_le_of_lt (Nat.zero_le _) hn)
      obtain ⟨hfresh, hnodup⟩ := List.nodup_cons.mp hnodup
      obtain ⟨start, offset', hread⟩ := a.exists_readAttribute_print (fun b hb => hnew b hb a List.mem_cons_self) offset
        (attributes.flatMap PlainAttribute.print ++ ending)
      have hlater : ∀ b ∈ ⟨a.key, start, a.raw⟩ :: earlier, ∀ other ∈ attributes, b.key ≠ other.key := by
        intro b hb other hother
        rcases List.mem_cons.mp hb with rfl | hb
        · exact fun heq => hfresh (List.mem_map.mpr ⟨other, hother, heq.symm⟩)
        · exact hnew b hb other (List.mem_cons_of_mem _ hother)
      obtain ⟨written, hrest, hwritten⟩ := ih (Nat.lt_of_succ_lt_succ hn) hnodup hlater offset'
      refine ⟨(⟨a.key, start, a.raw⟩, a.value) :: written, ?_, by rw [List.map_cons, List.map_cons, hwritten]⟩
      rw [List.flatMap_cons, List.append_assoc, readAttributes, hread]
      simp only [bind, Except.bind, a.unescape_raw, hrest, Except.mapError]
      rfl

/-- **Reading a plain tag** gives its keys and values. -/
theorem attributes_written : tag.written.attributes = .ok tag.pairs := by
  have hafter : tag.written.afterName = tag.afterName := congrArg Prod.snd tag.splitBefore_content
  have hlength : tag.attributes.length ≤ tag.afterName.length := by
    have hpos : ∀ n ∈ tag.attributes.map fun a => a.print.length, 1 ≤ n := by
      intro n hn
      obtain ⟨a, -, rfl⟩ := List.mem_map.mp hn
      exact List.length_pos_iff.mpr (List.append_ne_nil_of_left_ne_nil a.blanks_ne_nil _)
    have hle := List.length_le_sum_of_one_le _ hpos
    rw [List.length_map] at hle
    rw [afterName, List.length_append, List.length_flatMap]
    exact Nat.le_add_right_of_le hle
  obtain ⟨written, hread, hwritten⟩ := exists_readAttributes_print (Nat.lt_succ_of_le hlength) tag.nodup_keys
    (fun b (hb : b ∈ []) => by cases hb) tag.all_isSeparator_ending (byteLength tag.name)
  rw [Tag.attributes, Tag.writtenAttributes, hafter, name_written]
  unfold afterName at hread ⊢
  rw [hread]
  exact congrArg Except.ok hwritten

end PlainTag

end XmlDiagnostics.NamespaceScan
