import XmlDiagnostics.Encoding.Detect
import XmlDiagnostics.Proofs.NamespaceScan.Assigned

/-! # Encodings that a line declares

Without a mark, the encoding is told by the first place of the first line with a blank, the word and an assignment, wherever it
is. In an XML declaration this is the pseudo-attribute with the word as its key, if there is one, whatever stands behind it
(`XmlDeclaration.exists_firstDeclared`). If there is none, then no such place is in the declaration
(`XmlDeclaration.undeclared_print`), but one may be behind it; and it need not be in a declaration at all. -/

namespace XmlDiagnostics.Encoding

open Pattern Automaton Text NamespaceScan
open Markup (isMark)

/-! ### The scan -/

/-- The word that declares an encoding. -/
def encodingKey : List Char := "encoding".toList

/-- A text begins with a blank, the word and an assignment whose value ends on its line. -/
def Declares (text : List Char) (a : Assignment) : Prop :=
  ∃ blank rest, isBlank blank = true ∧ '\n' ∉ a.value ∧ text = blank :: (encodingKey ++ a.print) ++ rest

/-- Behind some text an encoding is declared. -/
def DeclaredAt (line before : List Char) (a : Assignment) : Prop := ∃ text, line = before ++ text ∧ Declares text a

/-- The first place at which an encoding is declared. -/
def FirstDeclared (line before : List Char) (a : Assignment) : Prop :=
  DeclaredAt line before a ∧ ∀ before' a', DeclaredAt line before' a' → before.length ≤ before'.length

variable {text before rest line : List Char} {a : Assignment}

theorem declarationPattern_eq : declarationPattern = seq (one .blank) (seq (literal encodingKey) (seq (anyOf .blank)
    (seq (char '=') (seq (anyOf .blank) (seq Pattern.quote
      (seq (group 1 (many (one .notLineFeed) 0 none false)) (seq Pattern.quote empty))))))) := rfl

theorem isSteady_declarationPattern : declarationPattern.isSteady = true := by decide

theorem contains_notLineFeed {c : Char} : CharSet.notLineFeed.contains c = true ↔ c ≠ '\n' := by
  rw [CharSet.notLineFeed, CharSet.contains, Bool.not_eq_true', ← Bool.not_eq_true, CharSet.contains_single]

theorem refuses_mark {c : Char} (h : isMark c = false) (p : Pattern) (rest : List Char) :
    Refuses (seq Pattern.quote p) (c :: rest) := by
  intro s hs
  have hnone : Pattern.quote.ways s = [] := by
    apply ways_one_eq_nil
    intro d hd
    rw [hs] at hd
    obtain rfl := Option.some.inj hd
    rw [← Bool.not_eq_true, CharSet.contains_ofList, ← isMark_iff, h]
    exact Bool.false_ne_true
  rw [ways_seq, hnone, List.flatMap_nil]

/-- A declaration is taken with its value as the group, for the value ends at the first mark. -/
theorem takes_declarationPattern {blank : Char} (hblank : isBlank blank = true) (a : Assignment) (hline : '\n' ∉ a.value)
    (rest : List Char) :
    Takes declarationPattern (blank :: (encodingKey ++ a.print)) rest fun index =>
      let start := index + 1 + encodingKey.length + a.head.length
      [(1, ⟨start, start + a.value.length⟩)] := by
  have hclosing : Skips (seq Pattern.quote empty) [a.closing] rest :=
    (skips_mark a.isMark_closing rest).seq (skips_empty rest)
  have hchars : ∀ c ∈ a.value, CharSet.notLineFeed.contains c = true :=
    fun c hc => contains_notLineFeed.mpr fun heq => hline (heq ▸ hc)
  have hvalue := hclosing.lazy_group hchars (fun k hk => by
    rw [List.drop_eq_getElem_cons hk, List.cons_append]
    exact refuses_mark (a.not_isMark_value _ (List.getElem_mem hk)) _ _) 1
  have hkeyed := (skips_literal encodingKey _).takes.seq (takes_head a hvalue)
  have hcontains : CharSet.blank.contains blank = true := hblank
  have hall := (skips_one hcontains _).takes.seq hkeyed
  exact hall.congr fun index => by simp

/-- What the pattern can take is a declaration. Its value may hold marks, but declares with what stands before the first. -/
theorem exists_declares_of_fits {taken : List Char} (htaken : taken <+: text) (h : declarationPattern.Fits taken) :
    ∃ a, Declares text a := by
  rw [declarationPattern_eq] at h
  obtain ⟨_, _, rfl, ⟨blank, rfl, hblank⟩, _, _, rfl, hkey, beforeSign, _, rfl, hbefore, _, _, rfl, hsign, afterSign, _, rfl,
    hafter, _, _, rfl, ⟨opening, rfl, hopening⟩, value, _, rfl, hvalue, _, _, rfl, ⟨closing, rfl, hclosing⟩, rfl⟩ := h
  have hvalue : (many (one .notLineFeed) 0 none false).Fits value := hvalue
  have hmark (c : Char) (hc : (CharSet.ofList ['"', '\'']).contains c = true) : isMark c = true :=
    isMark_iff.mpr (CharSet.contains_ofList.mp hc)
  obtain ⟨first, more, hfirst, hsplit⟩ := exists_beforeMark value (hmark closing hclosing)
  obtain ⟨rest, rfl⟩ := htaken
  rw [fits_literal_iff.mp hkey, fits_char_iff.mp hsign]
  let a : Assignment := {
    beforeSign, afterSign, opening, closing := first
    value := beforeMark value
    all_isBlank_beforeSign := List.all_eq_true.mpr (all_contains_of_fits_many hbefore).1
    all_isBlank_afterSign := List.all_eq_true.mpr (all_contains_of_fits_many hafter).1
    isMark_opening := hmark opening hopening
    isMark_closing := hfirst
    not_isMark_value := fun c hc => by simpa using List.mem_takeWhile_imp hc }
  refine ⟨a, blank, more ++ rest, hblank, fun hmem => ?_, ?_⟩
  · have hline := (all_contains_of_fits_many hvalue).1 '\n' ((List.takeWhile_sublist _).subset hmem)
    exact contains_notLineFeed.mp hline rfl
  · have hquoted : value ++ [closing] ++ rest = beforeMark value ++ first :: (more ++ rest) := by
      rw [hsplit, List.append_assoc, List.cons_append]
    simpa [Assignment.print, Assignment.head, a] using hquoted

/-- Before the first place the pattern has no way. -/
theorem dead_declarationPattern {n : Nat} (h : ∀ before a, DeclaredAt line before a → n ≤ before.length) :
    Dead declarationPattern (startOf line) n := by
  apply dead_of_not_fits
  intro k hk taken htaken hfits
  obtain ⟨a, ha⟩ := exists_declares_of_fits htaken hfits
  have hn := h (line.take k) a ⟨line.drop k, (List.take_append_drop k line).symm, ha⟩
  rw [List.length_take] at hn
  omega

/-- **The first place decides.** -/
theorem ofDeclaration?_of_firstDeclared (h : FirstDeclared (trim isBlank line) before a) :
    ofDeclaration? line = ofLabel? (String.ofList a.value) := by
  obtain ⟨⟨_, htext, blank, rest, hblank, hline, rfl⟩, hfirst⟩ := h
  rw [← List.append_assoc] at htext
  have hfind := find?_of_takes isSteady_declarationPattern (htext ▸ dead_declarationPattern hfirst)
    (takes_declarationPattern hblank a hline rest)
  have hkeyed : trim isBlank line = (before ++ [blank]) ++ (encodingKey ++ a.print) ++ rest := by
    rw [htext]
    simp
  have hgroup := groupText?_assignment a hkeyed ⟨before.length, before.length + (blank :: (encodingKey ++ a.print)).length⟩
  rw [List.length_append, List.length_singleton] at hgroup
  unfold ofDeclaration?
  simp only [htext ▸ hfind, Option.bind_eq_bind, Option.bind_some]
  rw [hgroup, Option.bind_some]

theorem ofDeclaration?_eq_none (h : ∀ before a, ¬DeclaredAt (trim isBlank line) before a) : ofDeclaration? line = none := by
  have hfind : declarationPattern.find? (trim isBlank line) = none := by
    apply find?_eq_none isSteady_declarationPattern
    intro n hn
    exact dead_declarationPattern (n := n + 1) (fun before a hat => absurd hat (h before a)) n (Nat.lt_succ_self n)
  unfold ofDeclaration?
  simp only [hfind, Option.bind_eq_bind, Option.bind_none]

theorem ofDeclaration?_eq_some_iff {encoding : Encoding} : ofDeclaration? line = some encoding ↔
    ∃ before a, FirstDeclared (trim isBlank line) before a ∧ ofLabel? (String.ofList a.value) = some encoding := by
  constructor
  · intro h
    have hany : ∃ before a, DeclaredAt (trim isBlank line) before a := by
      by_contra hnone
      push Not at hnone
      rw [ofDeclaration?_eq_none hnone] at h
      cases h
    obtain ⟨before, a, hat⟩ := hany
    obtain ⟨first, a', hfirst⟩ := exists_first hat
    exact ⟨first, a', hfirst, by rw [← ofDeclaration?_of_firstDeclared hfirst, h]⟩
  · rintro ⟨before, a, hfirst, hlabel⟩
    rw [ofDeclaration?_of_firstDeclared hfirst, hlabel]

/-! ### Pieces that declare no encoding -/

/-- In a text with `rest` behind it no declaration begins. -/
def Undeclared (text rest : List Char) : Prop := ∀ k < text.length, ∀ a, ¬Declares ((text ++ rest).drop k) a

theorem Declares.isBlank_head {c : Char} (h : Declares (c :: text) a) :
    isBlank c = true ∧ ∃ rest, text = encodingKey ++ (a.print ++ rest) := by
  obtain ⟨blank, rest, hblank, -, htext⟩ := h
  obtain ⟨rfl, hrest⟩ := List.cons.inj htext
  exact ⟨hblank, rest, hrest.trans (List.append_assoc _ _ _)⟩

theorem undeclared_nil : Undeclared [] rest := fun _ hk => absurd hk (Nat.not_lt_zero _)

theorem Undeclared.append {more : List Char} (h : Undeclared text (more ++ rest)) (h' : Undeclared more rest) :
    Undeclared (text ++ more) rest := by
  intro k hk a hdeclares
  rw [List.length_append] at hk
  rw [List.append_assoc] at hdeclares
  by_cases hin : k < text.length
  · exact h k hin a hdeclares
  · have hlength : text.length ≤ k := Nat.not_lt.mp hin
    rw [List.drop_append, List.drop_eq_nil_of_le hlength, List.nil_append] at hdeclares
    exact h' (k - text.length) (by omega) a hdeclares

theorem forall_eq_false_of_any {p : Char → Bool} (h : text.any p = false) : ∀ c ∈ text, p c = false := by simpa using h

theorem undeclared_of_not_isBlank (h : ∀ c ∈ text, isBlank c = false) : Undeclared text rest := by
  intro k hk a hdeclares
  rw [List.drop_append_of_le_length hk.le, List.drop_eq_getElem_cons hk, List.cons_append] at hdeclares
  have hblank := hdeclares.isBlank_head.1
  rw [h _ (List.getElem_mem hk)] at hblank
  cases hblank

/-- Among blanks no declaration begins if the word does not follow. -/
theorem undeclared_of_all_isBlank (h : text.all isBlank = true) (hrest : ∀ c, rest.head? = some c → c ≠ 'e') :
    Undeclared text rest := by
  intro k hk a hdeclares
  rw [List.drop_append_of_le_length hk.le, List.drop_eq_getElem_cons hk, List.cons_append] at hdeclares
  obtain ⟨more, hmore⟩ := hdeclares.isBlank_head.2
  have hhead : (text.drop (k + 1) ++ rest).head? = some 'e' := congrArg List.head? hmore
  cases hdrop : text.drop (k + 1) with
  | nil =>
      rw [hdrop, List.nil_append] at hhead
      exact hrest 'e' hhead rfl
  | cons c blanks =>
      rw [hdrop] at hhead
      obtain rfl : c = 'e' := Option.some.inj hhead
      have hmem : 'e' ∈ text := List.mem_of_mem_drop (hdrop ▸ List.mem_cons_self)
      cases List.all_eq_true.mp h 'e' hmem

theorem ne_of_isBlank {c : Char} (h : isBlank c = true) : c ≠ 'e' := by
  rintro rfl
  cases h

/-- Every declaration is behind a piece that declares none. -/
theorem Undeclared.length_le (h : Undeclared text rest) (hat : DeclaredAt (text ++ rest) before a) :
    text.length ≤ before.length := by
  obtain ⟨more, hmore, hdeclares⟩ := hat
  by_contra hlt
  refine h before.length (Nat.not_le.mp hlt) a ?_
  rwa [hmore, List.drop_left]

/-- Behind its key, an assignment declares no encoding if there is no blank in its value. -/
theorem undeclared_print (a : Assignment) (hvalue : ∀ c ∈ a.value, isBlank c = false) (rest : List Char) :
    Undeclared a.print rest := by
  have hopening := not_isBlank_of_isMark a.isMark_opening
  have hquoted : Undeclared ([a.opening] ++ (a.value ++ [a.closing])) rest := by
    refine undeclared_of_not_isBlank fun c hc => ?_
    simp only [List.singleton_append, List.mem_cons, List.mem_append, List.not_mem_nil, or_false] at hc
    rcases hc with rfl | hc | rfl
    · exact hopening
    · exact hvalue c hc
    · exact not_isBlank_of_isMark a.isMark_closing
  have hafter : Undeclared a.afterSign ([a.opening] ++ (a.value ++ [a.closing]) ++ rest) := by
    refine undeclared_of_all_isBlank a.all_isBlank_afterSign fun c hc => ?_
    obtain rfl := Option.some.inj hc
    rcases List.mem_pair.mp (isMark_iff.mp a.isMark_opening) with h | h <;> rw [h] <;> decide
  have hsign : Undeclared ['='] (a.afterSign ++ ([a.opening] ++ (a.value ++ [a.closing])) ++ rest) :=
    undeclared_of_not_isBlank fun c hc => List.mem_singleton.mp hc ▸ rfl
  have hbefore : Undeclared a.beforeSign (['='] ++ (a.afterSign ++ ([a.opening] ++ (a.value ++ [a.closing]))) ++ rest) :=
    undeclared_of_all_isBlank a.all_isBlank_beforeSign fun c hc => Option.some.inj hc ▸ by decide
  have hall := hbefore.append (hsign.append (hafter.append hquoted))
  have hprint : a.beforeSign ++ (['='] ++ (a.afterSign ++ ([a.opening] ++ (a.value ++ [a.closing])))) = a.print := by
    simp [Assignment.print, Assignment.head]
  rwa [hprint] at hall

/-! ### XML declarations -/

/-- A pseudo-attribute of an XML declaration: a key with a value in which there are no blanks. -/
structure PseudoAttribute where
  blanks : List Char
  key : List Char
  assigned : Assignment
  blanks_ne_nil : blanks ≠ []
  all_isBlank_blanks : blanks.all isBlank = true
  not_isBlank_key : ∀ c ∈ key, isBlank c = false
  not_mem_key : '=' ∉ key
  not_isBlank_value : ∀ c ∈ assigned.value, isBlank c = false

/-- An XML declaration. -/
structure XmlDeclaration where
  attributes : List PseudoAttribute
  blanks : List Char
  all_isBlank_blanks : blanks.all isBlank = true

/-- The text of a pseudo-attribute. -/
def PseudoAttribute.print (p : PseudoAttribute) : List Char := p.blanks ++ (p.key ++ p.assigned.print)

namespace XmlDeclaration

/-- What an XML declaration begins with. -/
def opening : List Char := "<?xml".toList

/-- What an XML declaration ends with. -/
def closing : List Char := "?>".toList

/-- The text of an XML declaration. -/
def print (d : XmlDeclaration) : List Char :=
  opening ++ (d.attributes.flatMap PseudoAttribute.print ++ (d.blanks ++ closing))

/-- The label that an XML declaration gives. -/
def label? (d : XmlDeclaration) : Option (List Char) :=
  (d.attributes.find? fun p => p.key = encodingKey).map fun p => p.assigned.value

end XmlDeclaration

/-- What stands before the first blank or equals sign. -/
def untilSign (text : List Char) : List Char := text.takeWhile fun c => !isBlank c && c ≠ '='

theorem not_isBlank_encodingKey : ∀ c ∈ encodingKey, isBlank c = false := forall_eq_false_of_any rfl

theorem untilSign_append_print {key : List Char} (hkey : ∀ c ∈ key, isBlank c = false) (hsign : '=' ∉ key) (a : Assignment)
    (rest : List Char) : untilSign (key ++ (a.print ++ rest)) = key := by
  have hprint : untilSign (a.print ++ rest) = [] := by
    unfold untilSign Assignment.print Assignment.head
    cases hbefore : a.beforeSign with
    | nil => rfl
    | cons c blanks =>
        have hc : isBlank c = true := List.all_eq_true.mp a.all_isBlank_beforeSign c (hbefore ▸ List.mem_cons_self)
        simp [hc]
  have hall : ∀ c ∈ key, (!isBlank c && decide (c ≠ '=')) = true := by
    intro c hc
    have hne : c ≠ '=' := fun heq => hsign (heq ▸ hc)
    simp [hkey c hc, hne]
  unfold untilSign at hprint ⊢
  rw [List.takeWhile_append_of_pos hall, hprint, List.append_nil]

namespace PseudoAttribute

variable (p : PseudoAttribute)

/-- A pseudo-attribute with another key declares no encoding. -/
theorem undeclared_print (hkey : p.key ≠ encodingKey) (rest : List Char) : Undeclared p.print rest := by
  obtain ⟨blanks, blank, hblanks, hall, hblank⟩ := exists_concat_of_all p.blanks_ne_nil p.all_isBlank_blanks
  have hkeyed : Undeclared p.key (p.assigned.print ++ rest) := undeclared_of_not_isBlank p.not_isBlank_key
  -- only behind the last blank can the word stand, and up to a blank or a sign the key stands there
  have hlast : Undeclared [blank] (p.key ++ p.assigned.print ++ rest) := by
    intro k hk a hdeclares
    obtain rfl : k = 0 := Nat.lt_one_iff.mp hk
    have hblanked : Declares (blank :: (p.key ++ (p.assigned.print ++ rest))) a := by simpa using hdeclares
    obtain ⟨more, hmore⟩ := hblanked.isBlank_head.2
    have huntil := congrArg untilSign hmore
    rw [untilSign_append_print p.not_isBlank_key p.not_mem_key,
      untilSign_append_print not_isBlank_encodingKey (by decide)] at huntil
    exact hkey huntil
  have hfirst : Undeclared blanks ([blank] ++ (p.key ++ p.assigned.print) ++ rest) :=
    undeclared_of_all_isBlank hall fun c hc => Option.some.inj hc ▸ ne_of_isBlank hblank
  rw [print, hblanks, List.append_assoc]
  exact hfirst.append (hlast.append (hkeyed.append (Encoding.undeclared_print p.assigned p.not_isBlank_value rest)))

theorem undeclared_flatMap {attributes : List PseudoAttribute} (hkeys : ∀ p ∈ attributes, p.key ≠ encodingKey)
    (rest : List Char) : Undeclared (attributes.flatMap print) rest := by
  induction attributes with
  | nil => exact undeclared_nil
  | cons p attributes ih =>
      obtain ⟨hkey, hkeys⟩ := List.forall_mem_cons.mp hkeys
      exact (p.undeclared_print hkey _).append (ih hkeys)

end PseudoAttribute

namespace XmlDeclaration

theorem undeclared_opening (rest : List Char) : Undeclared opening rest :=
  undeclared_of_not_isBlank (forall_eq_false_of_any rfl)

variable (d : XmlDeclaration)

/-- An XML declaration without the key declares no encoding. -/
theorem undeclared_print (h : d.label? = none) (rest : List Char) : Undeclared d.print rest := by
  have hkeys : ∀ p ∈ d.attributes, p.key ≠ encodingKey := by
    rw [label?, Option.map_eq_none_iff, List.find?_eq_none] at h
    exact fun p hp => by simpa using h p hp
  have hclosing : Undeclared closing rest := undeclared_of_not_isBlank (forall_eq_false_of_any rfl)
  have hblanks : Undeclared d.blanks (closing ++ rest) :=
    undeclared_of_all_isBlank d.all_isBlank_blanks fun c hc => Option.some.inj hc ▸ by decide
  exact (undeclared_opening _).append ((PseudoAttribute.undeclared_flatMap hkeys _).append (hblanks.append hclosing))

/-- In an XML declaration with the key, the first declaration is that with the key. -/
theorem exists_firstDeclared {label : List Char} (h : d.label? = some label) (rest : List Char) :
    ∃ before a, FirstDeclared (d.print ++ rest) before a ∧ a.value = label := by
  obtain ⟨p, hfind, rfl⟩ := Option.map_eq_some_iff.mp h
  obtain ⟨hkey, former, latter, hattributes, hformer⟩ := List.find?_eq_some_iff_append.mp hfind
  have hkey : p.key = encodingKey := of_decide_eq_true hkey
  obtain ⟨blanks, blank, hblanks, hall, hblank⟩ := exists_concat_of_all p.blanks_ne_nil p.all_isBlank_blanks
  obtain ⟨before, hbefore⟩ : ∃ before, before = opening ++ (former.flatMap PseudoAttribute.print ++ blanks) := ⟨_, rfl⟩
  obtain ⟨more, hmore⟩ : ∃ more, more = latter.flatMap PseudoAttribute.print ++ (d.blanks ++ closing) ++ rest := ⟨_, rfl⟩
  have htext : d.print ++ rest = before ++ (blank :: (encodingKey ++ p.assigned.print) ++ more) := by
    simp [print, hattributes, PseudoAttribute.print, hblanks, hkey, hbefore, hmore]
  have hvalue : '\n' ∉ p.assigned.value := fun hmem => by cases p.not_isBlank_value '\n' hmem
  have hfree : Undeclared before (blank :: (encodingKey ++ p.assigned.print) ++ more) := by
    rw [hbefore]
    refine (undeclared_opening _).append ((PseudoAttribute.undeclared_flatMap (fun q hq => ?_) _).append ?_)
    · simpa using hformer q hq
    · exact undeclared_of_all_isBlank hall fun c hc => Option.some.inj hc ▸ ne_of_isBlank hblank
  rw [htext]
  exact ⟨before, p.assigned, ⟨⟨_, rfl, blank, more, hblank, hvalue, rfl⟩, fun before' a hat => hfree.length_le hat⟩, rfl⟩

/-- Leaving out blanks at both ends keeps an XML declaration at the beginning. -/
theorem exists_trim_eq (rest : List Char) : ∃ rest', trim isBlank (d.print ++ rest) = d.print ++ rest' := by
  have hfirst : (d.print ++ rest).dropWhile isBlank = d.print ++ rest := rfl
  have hlast : d.print.reverse.dropWhile isBlank = d.print.reverse := by
    unfold print
    simp only [List.reverse_append]
    rfl
  rw [trim, hfirst, List.reverse_append, List.dropWhile_append, hlast]
  split
  · exact ⟨[], by rw [List.reverse_reverse, List.append_nil]⟩
  · exact ⟨(rest.reverse.dropWhile isBlank).reverse, by rw [List.reverse_append, List.reverse_reverse]⟩

end XmlDeclaration

/-! ### Detection -/

/-- **What the first line declares.** Let octets have no mark. Their encoding is the one whose label the first declaration on
the first line gives, and the one to fall back on if that gives no known label or nothing is declared. If the line
begins with an XML declaration with a label, that is the label; if it is one without, all that is declared is behind it. -/
theorem detect_declared {config : EncodingConfig} (hdeclaration : config.detectDeclaration = true) {bytes : List UInt8}
    (hmark : ofMark? bytes = none) :
    let line := decodeUtf8 (firstLine bytes)
    let other := (ofLabel? config.fallback).getD utf8
    (∀ encoding, detect config bytes = encoding ↔
      (∃ before a, FirstDeclared (trim isBlank line) before a ∧ ofLabel? (String.ofList a.value) = some encoding) ∨
      (encoding = other ∧
        ∀ before a, FirstDeclared (trim isBlank line) before a → ofLabel? (String.ofList a.value) = none)) ∧
    ∀ (d : XmlDeclaration) rest, line = d.print ++ rest →
      (∀ label, d.label? = some label → detect config bytes = (ofLabel? (String.ofList label)).getD other) ∧
      (d.label? = none → ∀ before a, DeclaredAt (trim isBlank line) before a → d.print.length ≤ before.length) := by
  intro line other
  have hdetect : detect config bytes = (ofDeclaration? line).getD other := by
    simp [detect, hmark, hdeclaration, fallback, line, other]
  constructor
  · intro encoding
    rw [hdetect, ← ofDeclaration?_eq_some_iff]
    cases hdeclared : ofDeclaration? line with
    | some declared =>
        obtain ⟨before, a, hfirst, hlabel⟩ := ofDeclaration?_eq_some_iff.mp hdeclared
        have hknown : ¬∀ before a, FirstDeclared (trim isBlank line) before a → ofLabel? (String.ofList a.value) = none := by
          intro hnone
          rw [hnone before a hfirst] at hlabel
          cases hlabel
        rw [Option.getD_some, Option.some.injEq, or_iff_left fun h => hknown h.2]
    | none =>
        have hnone : ∀ before a, FirstDeclared (trim isBlank line) before a → ofLabel? (String.ofList a.value) = none := by
          intro before a hfirst
          rw [← ofDeclaration?_of_firstDeclared hfirst, hdeclared]
        rw [Option.getD_none, or_iff_right (Option.some_ne_none encoding).symm, and_iff_left hnone, eq_comm]
  · intro d rest hline
    obtain ⟨rest', htrim⟩ := d.exists_trim_eq rest
    rw [← hline] at htrim
    rw [htrim]
    refine ⟨fun label hlabel => ?_, fun hnone before a hat => (d.undeclared_print hnone rest').length_le hat⟩
    obtain ⟨before, a, hfirst, rfl⟩ := d.exists_firstDeclared hlabel rest'
    rw [hdetect, ofDeclaration?_of_firstDeclared (htrim ▸ hfirst)]

/-- The declaration decides, and not the attribute behind it. -/
theorem detect_declared_behind_version :
    let text := "<?xml version='1.0'  encoding = \"latin1\"?><a encoding='koi8-r'/>".toList
    let config : EncodingConfig := { fallback := "utf-16" }
    config.detectDeclaration = true ∧ ofMark? (encodeUtf8 text) = none ∧
      ∃ (d : XmlDeclaration) (rest : List Char), decodeUtf8 (firstLine (encodeUtf8 text)) = d.print ++ rest ∧
        d.label? = some "latin1".toList ∧ detect config (encodeUtf8 text) = .singleByte .windows1252 := by
  intro text config
  have hmark : ofMark? (encodeUtf8 text) = none := by decide +kernel
  let version : PseudoAttribute := {
    blanks := " ".toList, key := "version".toList, blanks_ne_nil := by decide, all_isBlank_blanks := by decide
    assigned := ⟨[], [], '\'', "1.0".toList, '\'', rfl, rfl, rfl, rfl, forall_eq_false_of_any rfl⟩
    not_isBlank_key := forall_eq_false_of_any rfl, not_mem_key := by decide, not_isBlank_value := forall_eq_false_of_any rfl }
  let encoding : PseudoAttribute := {
    blanks := "  ".toList, key := encodingKey, blanks_ne_nil := by decide, all_isBlank_blanks := by decide
    assigned := ⟨" ".toList, " ".toList, '"', "latin1".toList, '"', rfl, rfl, rfl, rfl, forall_eq_false_of_any rfl⟩
    not_isBlank_key := forall_eq_false_of_any rfl, not_mem_key := by decide, not_isBlank_value := forall_eq_false_of_any rfl }
  let d : XmlDeclaration := ⟨[version, encoding], [], by decide⟩
  have hline : decodeUtf8 (firstLine (encodeUtf8 text)) = d.print ++ "<a encoding='koi8-r'/>".toList := by decide +kernel
  have hlabel : d.label? = some "latin1".toList := by decide +kernel
  have hdeclaration : config.detectDeclaration = true := rfl
  have hdetect := ((detect_declared hdeclaration hmark).2 d _ hline).1 _ hlabel
  have hknown : ofLabel? (String.ofList "latin1".toList) = some (.singleByte .windows1252) := by decide +kernel
  rw [hknown, Option.getD_some] at hdetect
  exact ⟨hdeclaration, hmark, d, _, hline, hlabel, hdetect⟩

/-- An attribute on the first line tells the encoding without any XML declaration. -/
theorem detect_attribute :
    let bytes := encodeUtf8 "<a encoding='latin1'/>".toList
    ofMark? bytes = none ∧ ¬XmlDeclaration.opening <+: decodeUtf8 (firstLine bytes) ∧
      detect {} bytes ≠ (ofLabel? ({} : EncodingConfig).fallback).getD utf8 := by
  decide +kernel

end XmlDiagnostics.Encoding
