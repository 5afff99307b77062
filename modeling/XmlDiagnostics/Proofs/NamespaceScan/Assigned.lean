import XmlDiagnostics.NamespaceScan
import XmlDiagnostics.Proofs.Markup.Attributes
import XmlDiagnostics.Proofs.Pattern.Languages

/-! # Assigned values

The patterns for declarations end with the same part: an equals sign among blanks and a value between quotation marks, where the
marks need not be the same and the value holds neither. An `Assignment` is such a text; they are the language of the part
(`exists_assignment_of_fits`), and each is taken with its value as the group (`takes_valuePattern`).

An attribute is an assignment behind its key. Its value as the scan sees it ends at the first quotation mark of
either kind (`exists_assignment_of_attributeAt`). -/

namespace XmlDiagnostics.NamespaceScan

open Pattern Automaton Markup Text

/-- An equals sign among blanks, and a value between quotation marks. -/
structure Assignment where
  beforeSign : List Char
  afterSign : List Char
  opening : Char
  value : List Char
  closing : Char
  all_isBlank_beforeSign : beforeSign.all isBlank = true
  all_isBlank_afterSign : afterSign.all isBlank = true
  isMark_opening : isMark opening = true
  isMark_closing : isMark closing = true
  not_isMark_value : ∀ c ∈ value, isMark c = false

namespace Assignment

variable (a : Assignment)

/-- What is written up to the opening mark. -/
def head : List Char := a.beforeSign ++ '=' :: (a.afterSign ++ [a.opening])

/-- What is written. -/
def print : List Char := a.head ++ (a.value ++ [a.closing])

end Assignment

theorem isMark_iff {c : Char} : isMark c = true ↔ c ∈ ['"', '\''] := by simp [isMark]

theorem not_isBlank_of_isMark {c : Char} (h : isMark c = true) : isBlank c = false := by
  rcases List.mem_pair.mp (isMark_iff.mp h) with rfl | rfl <;> rfl

/-- What is not empty has a last character. -/
theorem exists_concat_of_all {p : Char → Bool} {text : List Char} (hne : text ≠ []) (hall : text.all p = true) :
    ∃ init last, text = init ++ [last] ∧ init.all p = true ∧ p last = true := by
  obtain ⟨init, last, rfl⟩ := List.eq_nil_or_concat text |>.resolve_left hne
  rw [List.concat_eq_append, List.all_append, List.all_cons, List.all_nil, Bool.and_true, Bool.and_eq_true] at hall
  exact ⟨init, last, List.concat_eq_append, hall.1, hall.2⟩

theorem all_isBlank_of_all_isSeparator {blanks : List Char} (h : blanks.all isSeparator = true) : blanks.all isBlank = true :=
  List.all_eq_true.mpr fun c hc => isBlank_of_isSeparator (List.all_eq_true.mp h c hc)

theorem contains_complement_marks {c : Char} :
    (CharSet.complement (.ofList ['"', '\''])).contains c = true ↔ isMark c = false := by
  rw [CharSet.contains, Bool.not_eq_true', ← Bool.not_eq_true, CharSet.contains_ofList, ← isMark_iff, Bool.not_eq_true]

theorem valuePattern_eq (number : Nat) :
    valuePattern number = seq (anyOf .blank) (seq (char '=') (seq (anyOf .blank) (seq Pattern.quote
      (seq (group number (anyOf (.complement (.ofList ['"', '\''])))) (seq Pattern.quote empty))))) := rfl

variable {rest : List Char}

theorem skips_blanks {blanks : List Char} (h : blanks.all isBlank = true) {c : Char} (hc : isBlank c = false) :
    Skips (anyOf .blank) blanks (c :: rest) := by
  apply skips_anyOf
  · exact List.all_eq_true.mp h
  · intro d hd
    obtain rfl := Option.some.inj hd
    exact hc

theorem skips_mark {c : Char} (h : isMark c = true) (rest : List Char) : Skips Pattern.quote [c] rest :=
  skips_one (CharSet.contains_ofList.mpr (isMark_iff.mp h)) rest

/-- A value is taken up to its opening mark, and then what stands behind the mark. -/
theorem takes_head (a : Assignment) {p : Pattern} {text : List Char} {pieces : Nat → List (Nat × Piece)}
    (h : Takes p text rest pieces) :
    Takes (seq (anyOf .blank) (seq (char '=') (seq (anyOf .blank) (seq Pattern.quote p)))) (a.head ++ text) rest fun index =>
      pieces (index + a.head.length) := by
  have hmark : isBlank a.opening = false := not_isBlank_of_isMark a.isMark_opening
  have hquoted := (skips_mark a.isMark_opening _).takes.seq h
  have hsigned := (skips_char '=' _).takes.seq ((skips_blanks a.all_isBlank_afterSign hmark).takes.seq hquoted)
  have hall := (skips_blanks a.all_isBlank_beforeSign rfl).takes.seq hsigned
  have htext : a.beforeSign ++ (['='] ++ (a.afterSign ++ ([a.opening] ++ text))) = a.head ++ text := by
    simp [Assignment.head]
  rw [htext] at hall
  refine hall.congr fun index => ?_
  have hindex : index + a.beforeSign.length + 1 + a.afterSign.length + 1 = index + a.head.length := by
    simp only [Assignment.head, List.length_append, List.length_cons, List.length_nil]
    omega
  simp only [List.length_singleton, List.append_nil, hindex]

/-- **A value is taken** with what stands between the quotation marks as its group. -/
theorem takes_valuePattern (a : Assignment) (rest : List Char) :
    Takes (valuePattern 1) a.print rest fun index =>
      [(1, ⟨index + a.head.length, index + a.head.length + a.value.length⟩)] := by
  have hvalue : Skips (anyOf (.complement (.ofList ['"', '\'']))) a.value ([a.closing] ++ rest) := by
    apply skips_anyOf
    · exact fun c hc => contains_complement_marks.mpr (a.not_isMark_value c hc)
    · intro c hc
      obtain rfl := Option.some.inj hc
      rw [← Bool.not_eq_true, contains_complement_marks, a.isMark_closing]
      simp
  have hclosing := ((skips_mark a.isMark_closing rest).seq (skips_empty rest)).takes
  exact takes_head a ((hvalue.group 1).seq hclosing)

/-- **The texts of a value** are assignments. -/
theorem exists_assignment_of_fits {number : Nat} {text : List Char} (h : (valuePattern number).Fits text) :
    ∃ a : Assignment, text = a.print := by
  rw [valuePattern_eq] at h
  obtain ⟨beforeSign, _, rfl, hbefore, _, _, rfl, hsign, afterSign, _, rfl, hafter, _, _, rfl, hopening, value, _, rfl,
    hvalue, _, _, rfl, hclosing, rfl⟩ := h
  obtain ⟨opening, rfl, hopening⟩ := hopening
  obtain ⟨closing, rfl, hclosing⟩ := hclosing
  have hvalue : (anyOf (.complement (.ofList ['"', '\'']))).Fits value := hvalue
  rw [fits_char_iff.mp hsign]
  refine ⟨⟨beforeSign, afterSign, opening, value, closing, ?_, ?_, ?_, ?_, ?_⟩, ?_⟩
  · exact List.all_eq_true.mpr (all_contains_of_fits_many hbefore).1
  · exact List.all_eq_true.mpr (all_contains_of_fits_many hafter).1
  · exact isMark_iff.mpr (CharSet.contains_ofList.mp hopening)
  · exact isMark_iff.mpr (CharSet.contains_ofList.mp hclosing)
  · intro c hc
    exact contains_complement_marks.mp ((all_contains_of_fits_many hvalue).1 c hc)
  · simp [Assignment.print, Assignment.head]

/-- The group of a value that is taken behind a key is the value. -/
theorem groupText?_assignment {text before key : List Char} (a : Assignment)
    (htext : text = before ++ (key ++ a.print) ++ rest) (piece : Piece) :
    (Match.mk piece [(1, ⟨before.length + key.length + a.head.length,
      before.length + key.length + a.head.length + a.value.length⟩)]).groupText? text.toArray 1 = some a.value := by
  have hpiece : text = (before ++ key ++ a.head) ++ a.value ++ (a.closing :: rest) := by
    rw [htext, Assignment.print]
    simp
  refine congrArg some (Piece.of_eq hpiece ?_ rfl)
  rw [List.length_append, List.length_append]

/-- Of the places behind which there is an assignment of a kind, one is the first. -/
theorem exists_first {stands : List Char → Assignment → Prop} {before : List Char} {a : Assignment} (h : stands before a) :
    ∃ before a, stands before a ∧ ∀ before' a', stands before' a' → before.length ≤ before'.length := by
  obtain ⟨first, ⟨a', hfirst⟩, hmin⟩ := (measure List.length).wf.has_min {before | ∃ a, stands before a} ⟨before, a, h⟩
  exact ⟨first, a', hfirst, fun before' a'' h' => Nat.not_lt.mp (hmin before' ⟨a'', h'⟩)⟩

/-! ### Attributes -/

/-- What stands before the first quotation mark of either kind. -/
def beforeMark (text : List Char) : List Char := text.takeWhile fun c => !isMark c

theorem beforeMark_eq_self {text : List Char} (h : ∀ c ∈ text, isMark c = false) : beforeMark text = text :=
  List.takeWhile_eq_self_iff.mpr fun c hc => by rw [h c hc]; rfl

/-- A value and the mark behind it hold a first mark. -/
theorem exists_beforeMark (value : List Char) {mark : Char} (hmark : isMark mark = true) :
    ∃ closing more, isMark closing = true ∧ value ++ [mark] = beforeMark value ++ closing :: more := by
  induction value with
  | nil => exact ⟨mark, [], hmark, rfl⟩
  | cons c value ih =>
      by_cases hc : isMark c = true
      · refine ⟨c, value ++ [mark], hc, ?_⟩
        rw [beforeMark, List.takeWhile_cons_of_neg (by simp [hc])]
        rfl
      · obtain ⟨closing, more, hclosing, heq⟩ := ih
        refine ⟨closing, more, hclosing, ?_⟩
        rw [beforeMark, List.takeWhile_cons_of_pos (by simp [hc]), List.cons_append, heq]
        rfl

/-- **An attribute is an assignment** behind its key: of what stands in its value up to the first quotation mark of
either kind. -/
theorem exists_assignment_of_attributeAt {text : List Char} {raw : RawAttribute} (place : AttributeAt text raw) :
    ∃ (a : Assignment) (rest : List Char), text = place.before ++ (raw.key ++ (a.print ++ rest)) ∧
      a.head = place.beforeSign ++ '=' :: (place.afterSign ++ [place.mark]) ∧ a.value = beforeMark raw.value := by
  obtain ⟨closing, more, hclosing, hvalue⟩ := exists_beforeMark raw.value place.isMark_mark
  have hnot : ∀ c ∈ beforeMark raw.value, isMark c = false := by
    intro c hc
    simpa using List.mem_takeWhile_imp hc
  refine ⟨⟨place.beforeSign, place.afterSign, place.mark, beforeMark raw.value, closing,
    all_isBlank_of_all_isSeparator place.all_isSeparator_beforeSign, all_isBlank_of_all_isSeparator place.all_isSeparator_afterSign,
    place.isMark_mark, hclosing, hnot⟩, more ++ place.after, ?_, rfl, rfl⟩
  have hquoted : raw.value ++ place.mark :: place.after = beforeMark raw.value ++ closing :: (more ++ place.after) := by
    have := congrArg (· ++ place.after) hvalue
    simpa using this
  conv => lhs; rw [place.text_eq, hquoted]
  simp [Assignment.print, Assignment.head]

end XmlDiagnostics.NamespaceScan
