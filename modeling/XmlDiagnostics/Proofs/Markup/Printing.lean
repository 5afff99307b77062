import XmlDiagnostics.Markup.Attribute
import XmlDiagnostics.Proofs.Markup.Cutting

/-! # Printed tags

A tag is printed as its name and its attributes, each with separators before it and with its value in
quotation marks and escaped. Reading undoes this:

* the text of an escaped value is the value (`unescape_escape`);
* the end of a printed tag is found behind all of it, whatever its values hold (`readTag_printTag`,
  `readTag_printTag_empty`);
* its attributes are those that were printed, in their order (`attributes_printTag`). -/

namespace XmlDiagnostics.Markup

open Text

/-! ### Names -/

/-- Whether the number of a character is in one of some ranges. -/
def isInRanges (ranges : List (Nat × Nat)) (c : Char) : Bool :=
  ranges.any fun (first, last) => first ≤ c.toNat && c.toNat ≤ last

/-- The characters that begin a name, without the colon. -/
def isNameStart : Char → Bool :=
  isInRanges [(0x41, 0x5a), (0x5f, 0x5f), (0x61, 0x7a), (0xc0, 0xd6), (0xd8, 0xf6), (0xf8, 0x2ff), (0x370, 0x37d),
    (0x37f, 0x1fff), (0x200c, 0x200d), (0x2070, 0x218f), (0x2c00, 0x2fef), (0x3001, 0xd7ff), (0xf900, 0xfdcf),
    (0xfdf0, 0xfffd), (0x10000, 0xeffff)]

/-- The characters of a name, without the colon: those that begin it, hyphen, period, digits, and some more. -/
def isNameChar (c : Char) : Bool :=
  isNameStart c || isInRanges [(0x2d, 0x2e), (0x30, 0x39), (0xb7, 0xb7), (0x300, 0x36f), (0x203f, 0x2040)] c

/-- Whether a text is a name without a colon. -/
def isName : List Char → Bool
  | [] => false
  | c :: rest => isNameStart c && rest.all isNameChar

/-- The signs of markup that no name holds. -/
def signs : List Char := ['<', '>', '/', '!', '?', '=', '"', '\'', ':', ' ', '\t', '\r', '\n']

theorem not_mem_signs {c : Char} (h : isNameChar c = true) : c ∉ signs := by
  have hsigns : signs.all (fun sign => !isNameChar sign) = true := by decide
  intro hmem
  have hnot := List.all_eq_true.mp hsigns c hmem
  rw [h] at hnot
  cases hnot

theorem isNameChar_of_mem {name : List Char} (h : isName name = true) {c : Char} (hc : c ∈ name) :
    isNameChar c = true := by
  cases name with
  | nil => cases hc
  | cons first rest =>
      simp only [isName, Bool.and_eq_true, List.all_eq_true] at h
      rcases List.mem_cons.mp hc with rfl | hc
      · rw [isNameChar, h.1, Bool.true_or]
      · exact h.2 c hc

theorem exists_cons_of_isName {name : List Char} (h : isName name = true) : ∃ c rest, name = c :: rest := by
  cases name with
  | nil => cases h
  | cons c rest => exact ⟨c, rest, rfl⟩

/-- A name holds no sign of markup. -/
theorem not_mem_of_isName {name : List Char} (h : isName name = true) {sign : Char} (hsign : sign ∈ signs) :
    sign ∉ name :=
  fun hmem => not_mem_signs (isNameChar_of_mem h hmem) hsign

theorem not_isSeparator_of_isName {name : List Char} (h : isName name = true) {c : Char} (hc : c ∈ name) :
    isSeparator c = false := by
  have hsign := not_mem_signs (isNameChar_of_mem h hc)
  simp only [signs, List.mem_cons, not_or] at hsign
  simp [isSeparator, hsign]

/-! ### Values -/

/-- A character of a value: those with a name are written by it. -/
def escapeChar : Char → List Char
  | '&' => "&amp;".toList
  | '<' => "&lt;".toList
  | '>' => "&gt;".toList
  | '"' => "&quot;".toList
  | '\'' => "&apos;".toList
  | c => [c]

/-- A value as it is written. -/
def escape (value : List Char) : List Char := value.flatMap escapeChar

/-- What is written for a character is read as it. -/
theorem unescapeFrom_escapeChar (stop offset : Nat) (c : Char) (rest : List Char) :
    ∃ offset', unescapeFrom stop offset none (escapeChar c ++ rest) =
      (unescapeFrom stop offset' none rest).map (c :: ·) := by
  unfold escapeChar
  split
  case h_6 hc _ _ _ _ =>
    refine ⟨offset + c.utf8Size, ?_⟩
    rw [List.singleton_append, unescapeFrom, if_neg hc]
  -- the five characters with a name
  all_goals exact ⟨_, rfl⟩

theorem unescapeFrom_escape (stop offset : Nat) (value : List Char) :
    unescapeFrom stop offset none (escape value) = .ok value := by
  induction value generalizing offset with
  | nil => rfl
  | cons c value ih =>
      obtain ⟨offset', hread⟩ := unescapeFrom_escapeChar stop offset c (escape value)
      rw [escape, List.flatMap_cons, ← escape, hread, ih]
      rfl

/-- **Values**: the text of an escaped value is the value. -/
theorem unescape_escape (value : List Char) : unescape (escape value) = .ok value :=
  unescapeFrom_escape _ _ _

/-- The marks that can stand around a value. -/
inductive Quote where
  | single
  | double
deriving DecidableEq, Repr

/-- The mark as it is written. -/
def Quote.char : Quote → Char
  | single => '\''
  | double => '"'

theorem Quote.char_eq (quote : Quote) : quote.char = '"' ∨ quote.char = '\'' := by
  cases quote with
  | single => exact .inr rfl
  | double => exact .inl rfl

/-- Neither mark is in an escaped value. -/
theorem Quote.not_mem_escape (quote : Quote) (value : List Char) : quote.char ∉ escape value := by
  rw [escape, List.mem_flatMap]
  rintro ⟨c, -, hmem⟩
  unfold escapeChar at hmem
  split at hmem
  case h_6 hdouble hsingle =>
    obtain rfl := List.mem_singleton.mp hmem
    rcases quote.char_eq with h | h
    · exact hdouble h
    · exact hsingle h
  -- the letters of a name and the signs around it
  all_goals cases quote <;> simp [char] at hmem

/-! ### Tags -/

/-- How a tag is laid out: the separators before each of its attributes, those before its end, and the marks
around its values. -/
structure Layout where
  blanks : List Char
  ending : List Char
  quote : Quote
  blanks_ne_nil : blanks ≠ []
  all_isSeparator_blanks : blanks.all isSeparator = true
  all_isSeparator_ending : ending.all isSeparator = true

/-- A key and a value as they are written. -/
def Layout.printPair (layout : Layout) (pair : List Char × List Char) : List Char :=
  layout.blanks ++ (pair.1 ++ '=' :: layout.quote.char :: (escape pair.2 ++ [layout.quote.char]))

/-- The attributes of a tag as they are written, with what is left before its end. -/
def Layout.printPairs (layout : Layout) (pairs : List (List Char × List Char)) : List Char :=
  pairs.flatMap layout.printPair ++ layout.ending

/-- A tag with a name and attributes. -/
def Layout.printTag (layout : Layout) (name : List Char) (pairs : List (List Char × List Char)) : Tag :=
  ⟨name ++ layout.printPairs pairs⟩

theorem Layout.printPairs_cons (layout : Layout) (pair : List Char × List Char) (pairs : List (List Char × List Char)) :
    layout.printPairs (pair :: pairs) = layout.printPair pair ++ layout.printPairs pairs := by
  rw [printPairs, List.flatMap_cons, List.append_assoc]
  rfl

/-! ### The end of a tag -/

/-- A text leaves no quotation mark open and has no closing bracket outside of quotation marks. -/
def Closed (text : List Char) : Prop :=
  ∀ before rest, splitAtTagEnd none before (text ++ rest) = splitAtTagEnd none (text.reverse ++ before) rest

theorem Closed.append {a b : List Char} (ha : Closed a) (hb : Closed b) : Closed (a ++ b) := by
  intro before rest
  rw [List.append_assoc, ha, hb, List.reverse_append, List.append_assoc]

theorem closed_of_forall_ne {text : List Char} (h : ∀ c ∈ text, c ≠ '>' ∧ c ≠ '"' ∧ c ≠ '\'') : Closed text := by
  intro before rest
  induction text generalizing before with
  | nil => rfl
  | cons c text ih =>
      obtain ⟨⟨hbracket, hdouble, hsingle⟩, htext⟩ := List.forall_mem_cons.mp h
      rw [List.cons_append, splitAtTagEnd]
      simp only [hbracket, hdouble, hsingle, or_self, if_false]
      rw [ih htext, List.reverse_cons, List.append_assoc]
      rfl

theorem closed_singleton {c : Char} (h : c ≠ '>' ∧ c ≠ '"' ∧ c ≠ '\'') : Closed [c] :=
  closed_of_forall_ne fun _ hmem => List.mem_singleton.mp hmem ▸ h

/-- Up to the mark that is open nothing else counts. -/
theorem splitAtTagEnd_some_append {quote : Char} {value : List Char} (h : quote ∉ value) (before rest : List Char) :
    splitAtTagEnd (some quote) before (value ++ quote :: rest) =
      splitAtTagEnd none (quote :: (value.reverse ++ before)) rest := by
  induction value generalizing before with
  | nil => simp [splitAtTagEnd]
  | cons c value ih =>
      obtain ⟨hc, hvalue⟩ := List.ne_and_not_mem_of_not_mem_cons h
      rw [List.cons_append, splitAtTagEnd, if_neg hc.symm, ih hvalue, List.reverse_cons, List.append_assoc]
      rfl

/-- A value between quotation marks can hold anything but these. -/
theorem closed_quoted (quote : Quote) {value : List Char} (h : quote.char ∉ value) :
    Closed (quote.char :: (value ++ [quote.char])) := by
  intro before rest
  have hopen : splitAtTagEnd none before (quote.char :: (value ++ quote.char :: rest)) =
      splitAtTagEnd (some quote.char) (quote.char :: before) (value ++ quote.char :: rest) := by
    cases quote <;> simp [splitAtTagEnd, Quote.char]
  have happend : quote.char :: (value ++ [quote.char]) ++ rest = quote.char :: (value ++ quote.char :: rest) := by simp
  rw [happend, hopen, splitAtTagEnd_some_append h]
  simp

theorem closed_of_isName {name : List Char} (h : isName name = true) : Closed name := by
  refine closed_of_forall_ne fun c hc => ⟨?_, ?_, ?_⟩
  · rintro rfl
    exact not_mem_of_isName h (by decide) hc
  · rintro rfl
    exact not_mem_of_isName h (by decide) hc
  · rintro rfl
    exact not_mem_of_isName h (by decide) hc

theorem closed_of_all_isSeparator {text : List Char} (h : text.all isSeparator = true) : Closed text := by
  refine closed_of_forall_ne fun c hc => ?_
  have hsep := List.all_eq_true.mp h c hc
  simp only [isSeparator, Bool.or_eq_true, decide_eq_true_eq] at hsep
  rcases hsep with ((rfl | rfl) | rfl) | rfl <;> decide

variable (layout : Layout) {pairs : List (List Char × List Char)} {name : List Char}

theorem closed_printPair {pair : List Char × List Char} (h : isName pair.1 = true) : Closed (layout.printPair pair) := by
  refine (closed_of_all_isSeparator layout.all_isSeparator_blanks).append ((closed_of_isName h).append ?_)
  exact (closed_singleton (by decide : '=' ≠ '>' ∧ '=' ≠ '"' ∧ '=' ≠ '\'')).append
    (closed_quoted layout.quote (layout.quote.not_mem_escape pair.2))

theorem closed_printPairs (h : ∀ pair ∈ pairs, isName pair.1 = true) : Closed (layout.printPairs pairs) := by
  induction pairs with
  | nil => exact closed_of_all_isSeparator layout.all_isSeparator_ending
  | cons pair pairs ih =>
      obtain ⟨hpair, hpairs⟩ := List.forall_mem_cons.mp h
      rw [Layout.printPairs_cons]
      exact (closed_printPair layout hpair).append (ih hpairs)

theorem closed_printTag (hname : isName name = true) (h : ∀ pair ∈ pairs, isName pair.1 = true) :
    Closed (layout.printTag name pairs).content :=
  (closed_of_isName hname).append (closed_printPairs layout h)

/-- The last character of a printed tag is a mark, a separator or one of its name, and so no slash. -/
theorem getLast?_printTag (hname : isName name = true) : (layout.printTag name pairs).content.getLast? ≠ some '/' := by
  have hpair (pair : List Char × List Char) : (layout.printPair pair).getLast? = some layout.quote.char := by
    have hconcat : layout.printPair pair =
        layout.blanks ++ pair.1 ++ '=' :: layout.quote.char :: escape pair.2 ++ [layout.quote.char] := by
      simp [Layout.printPair]
    rw [hconcat, List.getLast?_concat]
  have hpairs : (pairs.flatMap layout.printPair).getLast? ≠ some '/' := by
    induction pairs with
    | nil => simp
    | cons pair pairs ih =>
        rw [List.flatMap_cons, List.getLast?_append, hpair]
        rcases Option.eq_none_or_eq_some (pairs.flatMap layout.printPair).getLast? with hlast | ⟨c, hlast⟩
        · rw [hlast]
          rcases layout.quote.char_eq with h | h <;> rw [h] <;> decide
        · rw [hlast] at ih ⊢
          exact ih
  intro hlast
  simp only [Layout.printTag, Layout.printPairs, List.getLast?_append] at hlast
  rcases Option.or_eq_some_iff.mp hlast with hlast | ⟨-, hlast⟩
  · rcases Option.or_eq_some_iff.mp hlast with hlast | ⟨-, hlast⟩
    · have hsep := List.all_eq_true.mp layout.all_isSeparator_ending _ (List.mem_of_getLast? hlast)
      cases hsep
    · exact hpairs hlast
  · exact not_mem_of_isName hname (by decide) (List.mem_of_getLast? hlast)

/-- **The end of a tag**: a printed start tag is read as a whole. -/
theorem readTag_printTag (hname : isName name = true) (h : ∀ pair ∈ pairs, isName pair.1 = true) (rest : List Char) :
    ∃ length, readTag ((layout.printTag name pairs).content ++ '>' :: rest) =
      .read (.startTag (layout.printTag name pairs)) length rest := by
  have hsplit := closed_printTag layout hname h [] ('>' :: rest)
  rw [splitAtTagEnd, if_pos rfl, List.append_nil, List.reverse_reverse] at hsplit
  refine ⟨byteLength (layout.printTag name pairs).content + 1, ?_⟩
  unfold readTag
  simp only [hsplit, if_neg (getLast?_printTag layout hname)]

/-- An empty tag is read as a whole, and the slash is left out. -/
theorem readTag_printTag_empty (hname : isName name = true) (h : ∀ pair ∈ pairs, isName pair.1 = true)
    (rest : List Char) :
    ∃ length, readTag ((layout.printTag name pairs).content ++ '/' :: '>' :: rest) =
      .read (.emptyTag (layout.printTag name pairs)) length rest := by
  have hclosed := (closed_printTag layout hname h).append
    (closed_singleton (by decide : '/' ≠ '>' ∧ '/' ≠ '"' ∧ '/' ≠ '\''))
  have hsplit := hclosed [] ('>' :: rest)
  rw [splitAtTagEnd, if_pos rfl, List.append_nil, List.reverse_reverse, List.append_assoc] at hsplit
  refine ⟨byteLength ((layout.printTag name pairs).content ++ ['/']) + 1, ?_⟩
  unfold readTag
  rw [show '/' :: '>' :: rest = ['/'] ++ '>' :: rest from rfl]
  simp only [hsplit, List.getLast?_concat, List.dropLast_concat, if_true]

/-! ### The name of a tag -/

/-- A text begins with a separator if with anything. -/
theorem isSeparator_of_head?_printPairs {c : Char} (h : (layout.printPairs pairs).head? = some c) :
    isSeparator c = true := by
  have hmem : c ∈ layout.blanks ∨ c ∈ layout.ending := by
    cases pairs with
    | nil => exact .inr (List.mem_of_mem_head? h)
    | cons pair pairs =>
        refine .inl (List.mem_of_mem_head? (?_ : layout.blanks.head? = some c))
        obtain ⟨first, blanks, hblanks⟩ := List.exists_cons_of_ne_nil layout.blanks_ne_nil
        rw [Layout.printPairs_cons, Layout.printPair, hblanks] at h
        rw [hblanks]
        exact h
  rcases hmem with hmem | hmem
  · exact List.all_eq_true.mp layout.all_isSeparator_blanks c hmem
  · exact List.all_eq_true.mp layout.all_isSeparator_ending c hmem

theorem splitBefore_eq_of_append {p : Char → Bool} {a b : List Char} (ha : ∀ c ∈ a, p c = false)
    (hb : ∀ c, b.head? = some c → p c = true) : splitBefore p (a ++ b) = (a, b) := by
  have hnot : ∀ c ∈ a, (!p c) = true := fun c hc => by rw [ha c hc]; rfl
  rw [splitBefore, List.takeWhile_append_of_pos hnot, List.dropWhile_append_of_pos hnot]
  cases b with
  | nil => simp
  | cons c b => simp [hb c rfl]

/-- The name reaches to the first separator. -/
theorem splitBefore_printTag (hname : isName name = true) :
    splitBefore isSeparator (layout.printTag name pairs).content = (name, layout.printPairs pairs) :=
  splitBefore_eq_of_append (fun _ hc => not_isSeparator_of_isName hname hc) fun _ hc => isSeparator_of_head?_printPairs layout hc

theorem name_printTag (hname : isName name = true) : (layout.printTag name pairs).name = name :=
  congrArg Prod.fst (splitBefore_printTag layout hname)

theorem afterName_printTag (hname : isName name = true) :
    (layout.printTag name pairs).afterName = layout.printPairs pairs :=
  congrArg Prod.snd (splitBefore_printTag layout hname)

/-! ### The attributes of a tag -/

theorem skipSeparators_append {blanks : List Char} (h : blanks.all isSeparator = true) (offset : Nat) (rest : List Char) :
    ∃ offset', skipSeparators offset (blanks ++ rest) = skipSeparators offset' rest := by
  induction blanks generalizing offset with
  | nil => exact ⟨offset, rfl⟩
  | cons c blanks ih =>
      obtain ⟨hc, hblanks⟩ := Bool.and_eq_true_iff.mp (List.all_cons ▸ h)
      rw [List.cons_append, skipSeparators, if_pos hc]
      exact ih hblanks (offset + 1)

theorem skipSeparators_cons {c : Char} (h : isSeparator c = false) (offset : Nat) (rest : List Char) :
    skipSeparators offset (c :: rest) = (offset, c :: rest) := by
  rw [skipSeparators, h, if_neg Bool.false_ne_true]

/-- Nothing but separators makes no attribute. -/
theorem readAttribute_ending (earlier : List RawAttribute) (offset : Nat) {ending : List Char}
    (h : ending.all isSeparator = true) : readAttribute earlier offset ending = .ok none := by
  obtain ⟨offset', hskip⟩ := skipSeparators_append h offset []
  rw [List.append_nil, skipSeparators] at hskip
  unfold readAttribute
  simp only [hskip]

/-- A key reaches to the equals sign. -/
theorem splitBefore_key {first : Char} {more : List Char} (hkey : isName (first :: more) = true) (rest : List Char) :
    splitBefore (fun c => c = '=' || isSeparator c) (more ++ '=' :: rest) = (more, '=' :: rest) := by
  refine splitBefore_eq_of_append (fun c hc => ?_) fun c hc => ?_
  · have hne : c ≠ '=' := by
      rintro rfl
      exact not_mem_of_isName hkey (by decide) (List.mem_cons_of_mem _ hc)
    simp [hne, not_isSeparator_of_isName hkey (List.mem_cons_of_mem _ hc)]
  · obtain rfl : '=' = c := Option.some.inj hc
    rfl

/-- An escaped value reaches to the mark behind it. -/
theorem splitBefore_escape (quote : Quote) (value rest : List Char) :
    splitBefore (· = quote.char) (escape value ++ quote.char :: rest) = (escape value, quote.char :: rest) := by
  refine splitBefore_eq_of_append (fun c hc => ?_) fun c hc => ?_
  · refine decide_eq_false ?_
    rintro rfl
    exact quote.not_mem_escape value hc
  · exact decide_eq_true (Option.some.inj hc).symm

/-- A printed attribute is read as it was printed if its key is new. -/
theorem readAttribute_printPair {pair : List Char × List Char} (hkey : isName pair.1 = true)
    {earlier : List RawAttribute} (hnew : ∀ a ∈ earlier, a.key ≠ pair.1) (offset : Nat) (rest : List Char) :
    ∃ start offset', readAttribute earlier offset (layout.printPair pair ++ rest) =
      .ok (some (⟨pair.1, start, escape pair.2⟩, offset', rest)) := by
  obtain ⟨key, value⟩ := pair
  obtain ⟨first, more, rfl⟩ := exists_cons_of_isName hkey
  obtain ⟨start, hskip⟩ := skipSeparators_append layout.all_isSeparator_blanks offset
    (first :: (more ++ '=' :: layout.quote.char :: (escape value ++ layout.quote.char :: rest)))
  rw [skipSeparators_cons (not_isSeparator_of_isName hkey (List.mem_cons_self ..))] at hskip
  have hsplit := splitBefore_key hkey (layout.quote.char :: (escape value ++ layout.quote.char :: rest))
  have hvalue := splitBefore_escape layout.quote value rest
  have hfind : (earlier.find? fun a => a.key = first :: more) = none :=
    List.find?_eq_none.mpr fun a ha => by simpa using hnew a ha
  have hquote : isSeparator layout.quote.char = false := by cases layout.quote <;> rfl
  have hmark : ¬ (layout.quote.char ≠ '"' ∧ layout.quote.char ≠ '\'') := fun h =>
    layout.quote.char_eq.elim h.1 h.2
  have htext : layout.printPair (first :: more, value) ++ rest = layout.blanks ++
      first :: (more ++ '=' :: layout.quote.char :: (escape value ++ layout.quote.char :: rest)) := by
    simp [Layout.printPair]
  refine ⟨start, start + byteLength (first :: more) + 1 + byteLength (escape value) + 2, ?_⟩
  unfold readAttribute
  rw [htext]
  simp only [hskip, hsplit, skipSeparators_cons (show isSeparator '=' = false from rfl), ne_eq, not_true_eq_false,
    if_false, hfind, skipSeparators_cons hquote, if_neg hmark, hvalue]

theorem readAttributes_printPairs {n : Nat} (hn : pairs.length < n) (h : ∀ pair ∈ pairs, isName pair.1 = true)
    (hnodup : (pairs.map Prod.fst).Nodup) (earlier : List RawAttribute)
    (hnew : ∀ a ∈ earlier, ∀ pair ∈ pairs, a.key ≠ pair.1) (offset : Nat) :
    ∃ written, readAttributes n earlier offset (layout.printPairs pairs) = .ok written ∧
      written.map (fun (a, value) => (a.key, value)) = pairs := by
  induction pairs generalizing n earlier offset with
  | nil =>
      obtain ⟨n, rfl⟩ := Nat.exists_eq_add_one.mpr hn
      have hread := readAttribute_ending earlier offset layout.all_isSeparator_ending
      exact ⟨[], by simp only [readAttributes, Layout.printPairs, List.flatMap_nil, List.nil_append, hread]; rfl, rfl⟩
  | cons pair pairs ih =>
      obtain ⟨n, rfl⟩ := Nat.exists_eq_add_one.mpr (Nat.lt_of_le_of_lt (Nat.zero_le _) hn)
      obtain ⟨hpair, hpairs⟩ := List.forall_mem_cons.mp h
      obtain ⟨hfresh, hnodup⟩ := List.nodup_cons.mp hnodup
      obtain ⟨start, offset', hread⟩ := readAttribute_printPair layout hpair
        (fun a ha => hnew a ha pair (List.mem_cons_self ..)) offset (layout.printPairs pairs)
      have hlater : ∀ a ∈ ⟨pair.1, start, escape pair.2⟩ :: earlier, ∀ other ∈ pairs, a.key ≠ other.1 := by
        intro a ha other hother
        rcases List.mem_cons.mp ha with rfl | ha
        · rintro heq
          exact hfresh (List.mem_map.mpr ⟨other, hother, heq.symm⟩)
        · exact hnew a ha other (List.mem_cons_of_mem _ hother)
      obtain ⟨written, hrest, hwritten⟩ := ih (Nat.lt_of_succ_lt_succ hn) hpairs hnodup _ hlater offset'
      refine ⟨(⟨pair.1, start, escape pair.2⟩, pair.2) :: written, ?_, by rw [List.map_cons, hwritten]⟩
      rw [Layout.printPairs_cons, readAttributes, hread]
      simp only [bind, Except.bind, unescape_escape, hrest, Except.mapError]
      rfl

theorem length_le_length_printPairs (pairs : List (List Char × List Char)) :
    pairs.length ≤ (layout.printPairs pairs).length := by
  induction pairs with
  | nil => exact Nat.zero_le _
  | cons pair pairs ih =>
      have hpos : 0 < (layout.printPair pair).length := by
        simp only [Layout.printPair, List.length_append, List.length_cons]
        omega
      rw [Layout.printPairs_cons, List.length_append, List.length_cons]
      omega

/-- **The attributes of a tag**: they are those that were printed. -/
theorem attributes_printTag (hname : isName name = true) (h : ∀ pair ∈ pairs, isName pair.1 = true)
    (hnodup : (pairs.map Prod.fst).Nodup) : (layout.printTag name pairs).attributes = .ok pairs := by
  have hlength := length_le_length_printPairs layout pairs
  obtain ⟨written, hread, hwritten⟩ := readAttributes_printPairs layout (Nat.lt_succ_of_le hlength) h hnodup
    [] (fun a ha => by cases ha) (byteLength name)
  rw [Tag.attributes, Tag.writtenAttributes, afterName_printTag layout hname, name_printTag layout hname, hread]
  exact congrArg Except.ok hwritten

/-! ### Cutting printed tags -/

/-- Some tokens in front of others. -/
def Tokens.after (placed : List PlacedToken) (tokens : Tokens) : Tokens := ⟨placed ++ tokens.tokens, tokens.flaw⟩

/-- Markup that can be read is the next token. -/
theorem cut_of_readMarkup {n offset length : Nat} {opened : List (List Char)} {text rest : List Char} {token : Token}
    (h : readMarkup opened text = .read token length rest) :
    cut (n + 1) offset opened ('<' :: text) =
      (cut n (offset + 1 + length) (openedAfter opened token) rest).cons ⟨token, offset, offset + 1 + length⟩ := by
  cases text with
  | nil => cases h
  | cons c text =>
      rw [cut]
      · rw [h]
      · simp

/-- Markup that can be read is cut off in front; what remains is cut with room for a token for each character. -/
theorem exists_cut_of_readMarkup {n length : Nat} {opened : List (List Char)} {text rest : List Char} {token : Token}
    (h : readMarkup opened text = .read token length rest) (hn : ('<' :: text).length < n) (offset : Nat) :
    ∃ m offset' placed, rest.length < m ∧ placed.token = token ∧
      cut n offset opened ('<' :: text) = (cut m offset' (openedAfter opened token) rest).cons placed := by
  obtain ⟨written, htext, hwritten, -, -⟩ := readMarkup_eq_read h
  obtain ⟨m, rfl⟩ := Nat.exists_eq_add_one.mpr (Nat.lt_of_le_of_lt (Nat.zero_le _) hn)
  refine ⟨m, _, _, ?_, rfl, cut_of_readMarkup h⟩
  have hne : written ≠ [] := by
    rintro rfl
    simp only [byteLength] at hwritten
    omega
  have hlength := congrArg List.length htext
  have hpos := List.length_pos_iff.mpr hne
  rw [List.length_append] at hlength
  omega

/-- What begins with a name is a tag. -/
theorem readMarkup_of_isName (hname : isName name = true) (opened : List (List Char)) (more : List Char) :
    readMarkup opened (name ++ more) = readTag (name ++ more) := by
  obtain ⟨c, rest, rfl⟩ := exists_cons_of_isName hname
  have hsign {sign : Char} (h : sign ∈ signs) : c ≠ sign := by
    rintro rfl
    exact not_mem_of_isName hname h (List.mem_cons_self ..)
  have hbang : c ≠ '!' := hsign (by decide)
  have hslash : c ≠ '/' := hsign (by decide)
  have hquestion : c ≠ '?' := hsign (by decide)
  rw [List.cons_append]
  unfold readMarkup
  split <;> simp_all

theorem readMarkup_startTag (hname : isName name = true) (h : ∀ pair ∈ pairs, isName pair.1 = true)
    (opened : List (List Char)) (rest : List Char) :
    ∃ length, readMarkup opened ((layout.printTag name pairs).content ++ '>' :: rest) =
      .read (.startTag (layout.printTag name pairs)) length rest := by
  have hread := readTag_printTag layout hname h rest
  rw [Layout.printTag, List.append_assoc] at hread ⊢
  rw [readMarkup_of_isName hname]
  exact hread

theorem readMarkup_emptyTag (hname : isName name = true) (h : ∀ pair ∈ pairs, isName pair.1 = true)
    (opened : List (List Char)) (rest : List Char) :
    ∃ length, readMarkup opened ((layout.printTag name pairs).content ++ '/' :: '>' :: rest) =
      .read (.emptyTag (layout.printTag name pairs)) length rest := by
  have hread := readTag_printTag_empty layout hname h rest
  rw [Layout.printTag, List.append_assoc] at hread ⊢
  rw [readMarkup_of_isName hname]
  exact hread

/-- An end tag is read where its name is that of the innermost open tag. -/
theorem readMarkup_endTag (hname : isName name = true) (opened : List (List Char)) (rest : List Char) :
    ∃ length, readMarkup (name :: opened) ('/' :: (name ++ '>' :: rest)) = .read (.endTag name) length rest := by
  have hbracket : ∀ c ∈ '/' :: name, decide (c ≠ '>') = true := by
    intro c hc
    refine decide_eq_true ?_
    rintro rfl
    rcases List.mem_cons.mp hc with hc | hc
    · cases hc
    · exact not_mem_of_isName hname (by decide) hc
  have hsplit : splitAtCloseOrEnd ('/' :: (name ++ '>' :: rest)) = ('/' :: name, 1, rest) := by
    rw [splitAtCloseOrEnd, ← List.cons_append, List.dropWhile_append_of_pos hbracket,
      List.takeWhile_append_of_pos hbracket]
    simp
  have hall : name.all isSeparator = false := by
    obtain ⟨c, rest, rfl⟩ := exists_cons_of_isName hname
    rw [List.all_cons, not_isSeparator_of_isName hname (List.mem_cons_self ..), Bool.false_and]
  have htrim : (name.reverse.dropWhile isSeparator).reverse = name := by
    have hnone : name.reverse.dropWhile isSeparator = name.reverse := by
      cases hreverse : name.reverse with
      | nil => rfl
      | cons c rest =>
          have hc : c ∈ name := by
            rw [← List.mem_reverse, hreverse]
            exact List.mem_cons_self ..
          rw [List.dropWhile_cons, not_isSeparator_of_isName hname hc, if_neg Bool.false_ne_true]
    rw [hnone, List.reverse_reverse]
  refine ⟨byteLength ('/' :: name) + 1, ?_⟩
  unfold readMarkup readEndTag
  simp only [hsplit, List.tail_cons, hall, htrim, Bool.false_eq_true, if_false, if_true]

end XmlDiagnostics.Markup
