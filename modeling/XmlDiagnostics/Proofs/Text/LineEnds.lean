import Mathlib.Data.List.Chain
import XmlDiagnostics.Proofs.Text.Places

/-! # Lines and their ends

Texts are laid out in lines, each with a line end of one of three kinds, and possibly a last line without one. Cutting
a text finds the lines that it was laid out in, whatever ends they have, and every text is laid out in the lines that
it is cut into (`splitLines_inverts_layout`). Only a carriage return that stands right in front of a line feed does not
end a line, and so no layout has one there (`Parted`). -/

namespace XmlDiagnostics.Text

/-! ### Layouts -/

/-- What ends a line. -/
inductive LineEnd where
  | lineFeed
  | carriageReturn
  /-- a carriage return with a line feed behind it -/
  | both
deriving DecidableEq, Repr

/-- The characters of a line end. -/
def LineEnd.text : LineEnd → List Char
  | lineFeed => ['\n']
  | carriageReturn => ['\r']
  | both => ['\r', '\n']

/-- A line with what ends it. -/
structure EndedLine where
  line : List Char
  stop : LineEnd
deriving DecidableEq, Repr

/-- The text of a line with its end. -/
def EndedLine.text (l : EndedLine) : List Char := l.line ++ l.stop.text

/-- Whether the ends of two lines that follow each other stay apart: a carriage return is not followed by the line feed
of an empty line. -/
def Parted (l next : EndedLine) : Prop := ¬ (l.stop = .carriageReturn ∧ next = ⟨[], .lineFeed⟩)

/-- Lines with their ends, and the last line if it has none. -/
structure Layout where
  ended : List EndedLine
  last : Option (List Char)
  clean : ∀ line ∈ ended.map EndedLine.line ++ last.toList, ∀ c ∈ line, isLineEnd c = false
  last_ne_nil : ∀ line ∈ last, line ≠ []
  parted : ended.IsChain Parted

namespace Layout

/-- The lines of a layout. -/
def lines (l : Layout) : List (List Char) := l.ended.map EndedLine.line ++ l.last.toList

/-- The text that is laid out. -/
def text (l : Layout) : List Char := l.ended.flatMap EndedLine.text ++ l.last.getD []

end Layout

/-! ### From the layout to the lines -/

theorem isLineEnd_eq_false_iff {c : Char} : isLineEnd c = false ↔ c ≠ '\n' ∧ c ≠ '\r' := by
  simp [isLineEnd]

/-- A line goes on to its end. -/
theorem splitLines_append_of_head? {line rest : List Char} (hline : ∀ c ∈ line, isLineEnd c = false) {first : List Char}
    (hrest : (splitLines rest).head? = some first) :
    splitLines (line ++ rest) = (line ++ first) :: (splitLines rest).tail := by
  induction line with
  | nil => exact (List.cons_head?_tail hrest).symm
  | cons c line ih =>
      obtain ⟨hc, hline⟩ := List.forall_mem_cons.mp hline
      rw [List.cons_append, splitLines_cons_of_not_isLineEnd hc, ih hline]
      rfl

/-- A line with its end is cut off as a line. -/
theorem splitLines_endedLine {l : EndedLine} (hclean : ∀ c ∈ l.line, isLineEnd c = false) {rest : List Char}
    (hrest : l.stop = .carriageReturn → rest.head? ≠ some '\n') :
    splitLines (l.text ++ rest) = l.line :: splitLines rest := by
  obtain ⟨line, stop⟩ := l
  have hcut : splitLines (stop.text ++ rest) = [] :: splitLines rest := by
    cases stop with
    | lineFeed => exact splitLines_cons_of_isLineEnd rfl fun h => absurd h (by decide)
    | carriageReturn => exact splitLines_cons_of_isLineEnd rfl fun _ => hrest rfl
    | both => rfl
  rw [EndedLine.text, List.append_assoc, splitLines_append_of_head? hclean (by rw [hcut]; rfl), hcut, List.append_nil]
  rfl

/-- What begins with a line feed is an empty line that ends with it. -/
theorem head?_text_ne {l : EndedLine} (hclean : ∀ c ∈ l.line, isLineEnd c = false) (hne : l ≠ ⟨[], .lineFeed⟩)
    (rest : List Char) : (l.text ++ rest).head? ≠ some '\n' := by
  obtain ⟨line, stop⟩ := l
  cases line with
  | nil =>
      cases stop with
      | lineFeed => exact absurd rfl hne
      | carriageReturn | both => simp [EndedLine.text, LineEnd.text]
  | cons c line =>
      have hc := isLineEnd_eq_false_iff.mp (hclean c List.mem_cons_self)
      simp [EndedLine.text, hc.1]

theorem splitLines_last {last : Option (List Char)} (hclean : ∀ line ∈ last, ∀ c ∈ line, isLineEnd c = false)
    (hne : ∀ line ∈ last, line ≠ []) : splitLines (last.getD []) = last.toList := by
  cases last with
  | none => rfl
  | some line => exact splitLines_of_all_not_isLineEnd (hne line rfl) (hclean line rfl)

theorem splitLines_flatMap {ended : List EndedLine} {last : Option (List Char)}
    (hended : ∀ l ∈ ended, ∀ c ∈ l.line, isLineEnd c = false) (hlast : ∀ line ∈ last, ∀ c ∈ line, isLineEnd c = false)
    (hne : ∀ line ∈ last, line ≠ []) (hparted : ended.IsChain Parted) :
    splitLines (ended.flatMap EndedLine.text ++ last.getD []) = ended.map EndedLine.line ++ last.toList := by
  induction ended with
  | nil => exact splitLines_last hlast hne
  | cons l ended ih =>
      obtain ⟨hl, hended⟩ := List.forall_mem_cons.mp hended
      rw [List.flatMap_cons, List.append_assoc, splitLines_endedLine hl, ih hended hparted.tail]
      · rfl
      · -- what follows a carriage return does not begin with a line feed
        intro hstop
        cases ended with
        | nil =>
            cases last with
            | none => exact nofun
            | some line =>
                obtain ⟨c, line, rfl⟩ := List.exists_cons_of_ne_nil (hne line rfl)
                have hc := isLineEnd_eq_false_iff.mp (hlast _ rfl c List.mem_cons_self)
                simpa using hc.1
        | cons next ended =>
            have hnext : next ≠ ⟨[], .lineFeed⟩ := fun h => (List.isChain_cons_cons.mp hparted).1 ⟨hstop, h⟩
            rw [List.flatMap_cons, List.append_assoc]
            exact head?_text_ne (hended next List.mem_cons_self) hnext _

/-- **From the layout to the lines**: a text that is laid out is cut into the lines of its layout. -/
theorem Layout.splitLines_text (l : Layout) : splitLines l.text = l.lines := by
  refine splitLines_flatMap (fun ended hmem c hc => ?_) (fun line hmem c hc => ?_) l.last_ne_nil l.parted
  · exact l.clean _ (List.mem_append_left _ (List.mem_map_of_mem hmem)) c hc
  · exact l.clean _ (List.mem_append_right _ (Option.mem_toList.mpr hmem)) c hc

/-! ### From the text to the layout -/

namespace Layout

/-- The layout of no text. -/
def empty : Layout := ⟨[], none, nofun, nofun, .nil⟩

/-- Put an empty line with its end in front. -/
def endFirst (stop : LineEnd) (l : Layout) (h : stop = .carriageReturn → l.text.head? ≠ some '\n') : Layout where
  ended := ⟨[], stop⟩ :: l.ended
  last := l.last
  clean := List.forall_mem_cons.mpr ⟨nofun, l.clean⟩
  last_ne_nil := l.last_ne_nil
  parted := by
    refine List.isChain_cons.mpr ⟨fun next hnext => ?_, l.parted⟩
    rintro ⟨hstop, rfl⟩
    obtain ⟨ended, hended⟩ := List.head?_eq_some_iff.mp (Option.mem_def.mp hnext)
    refine h hstop ?_
    rw [text, hended]
    rfl

theorem text_endFirst (stop : LineEnd) (l : Layout) (h : stop = .carriageReturn → l.text.head? ≠ some '\n') :
    (l.endFirst stop h).text = stop.text ++ l.text := by
  rw [text, text, endFirst, List.flatMap_cons, List.append_assoc]
  rfl

/-- A character in front belongs to the first line. -/
theorem exists_text_cons (l : Layout) {c : Char} (hc : isLineEnd c = false) :
    ∃ l' : Layout, l'.text = c :: l.text := by
  obtain ⟨ended, last, hclean, hne, hparted⟩ := l
  cases ended with
  | nil =>
      have hline : ∀ d ∈ c :: last.getD [], isLineEnd d = false := by
        refine List.forall_mem_cons.mpr ⟨hc, fun d hd => ?_⟩
        cases last with
        | none => cases hd
        | some line => exact hclean line List.mem_cons_self d hd
      refine ⟨⟨[], some (c :: last.getD []), ?_, ?_, .nil⟩, rfl⟩
      · exact List.forall_mem_singleton.mpr hline
      · rintro line hline
        obtain rfl := Option.some.inj hline
        exact List.cons_ne_nil _ _
  | cons first ended =>
      obtain ⟨hfirst, hclean⟩ := List.forall_mem_cons.mp hclean
      refine ⟨⟨⟨c :: first.line, first.stop⟩ :: ended, last, ?_, hne, ?_⟩, rfl⟩
      · exact List.forall_mem_cons.mpr ⟨List.forall_mem_cons.mpr ⟨hc, hfirst⟩, hclean⟩
      · obtain ⟨hnext, hparted⟩ := List.isChain_cons.mp hparted
        exact List.isChain_cons.mpr ⟨hnext, hparted⟩

/-- **From the text to the layout**: every text is laid out in lines. -/
theorem exists_text_eq (text : List Char) : ∃ l : Layout, l.text = text := by
  induction text using splitLines.induct with
  | case1 => exact ⟨empty, rfl⟩
  | case2 rest ih =>
      obtain ⟨l, rfl⟩ := ih
      exact ⟨l.endFirst .both (by simp), text_endFirst _ _ _⟩
  | case3 c rest hpair hc ih =>
      obtain ⟨l, rfl⟩ := ih
      rcases hc with rfl | rfl
      · exact ⟨l.endFirst .lineFeed (by simp), text_endFirst _ _ _⟩
      · refine ⟨l.endFirst .carriageReturn fun _ hhead => ?_, text_endFirst _ _ _⟩
        obtain ⟨rest, hrest⟩ := List.head?_eq_some_iff.mp hhead
        exact hpair rest rfl hrest
  | case4 c rest hpair hc ih =>
      obtain ⟨l, rfl⟩ := ih
      exact l.exists_text_cons (isLineEnd_eq_false_iff.mpr (not_or.mp hc))

end Layout

/-- Cutting a text into lines leaves out the line ends and nothing else. -/
theorem flatten_splitLines (text : List Char) : (splitLines text).flatten = text.filter fun c => !isLineEnd c := by
  induction text using splitLines.induct with
  | case1 => rfl
  | case2 rest ih => exact ih
  | case3 c rest hpair hc ih =>
      have hend : isLineEnd c = true := by simpa [isLineEnd] using hc
      have hnext : c = '\r' → rest.head? ≠ some '\n' := fun hcr hhead =>
        (List.head?_eq_some_iff.mp hhead).elim fun rest' hrest => hpair rest' hcr hrest
      rw [splitLines_cons_of_isLineEnd hend hnext, List.flatten_cons, List.nil_append, ih]
      simp [hend]
  | case4 c rest hpair hc ih =>
      have hend : isLineEnd c = false := isLineEnd_eq_false_iff.mpr (not_or.mp hc)
      have hcons : (consFirst c (splitLines rest)).flatten = c :: (splitLines rest).flatten := by
        cases splitLines rest <;> rfl
      rw [splitLines_cons_of_not_isLineEnd hend, hcons, ih]
      simp [hend]

/-- **Lines and layouts.** Whatever ends lines have, a text is cut into the lines that it is laid out in; every text is
laid out in the lines that it is cut into; and these have all of its characters in their order but the line ends. -/
theorem splitLines_inverts_layout :
    (∀ l : Layout, splitLines l.text = l.lines) ∧
    (∀ text, ∃ l : Layout, l.text = text ∧ l.lines = splitLines text) ∧
    ∀ text, (splitLines text).flatten = text.filter fun c => !isLineEnd c := by
  refine ⟨Layout.splitLines_text, fun text => ?_, flatten_splitLines⟩
  obtain ⟨l, rfl⟩ := Layout.exists_text_eq text
  exact ⟨l, rfl, l.splitLines_text.symm⟩

/-- All three kinds of line ends, an empty line, and a last line without end. -/
example : splitLines "a\r\nb\r\r\n\nc".toList = [['a'], ['b'], [], [], ['c']] := by decide

end XmlDiagnostics.Text
