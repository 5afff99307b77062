import Mathlib.Algebra.Group.Nat.Defs
import Mathlib.Data.List.DropRight
import XmlDiagnostics.Proofs.Position
import XmlDiagnostics.Text.Lines

/-! # Places in a text

`positionAt` counts lines and columns up to an octet, `splitLines` cuts the text at its line ends.
Both see the same places:

* **Order.** A later octet has no earlier position (`positionAt_mono`). Lines and columns beyond the
  largest nameable one are cut off there; a text with fewer than `2 ^ 31` characters is too short for
  that to disturb the order, since a place with so many lines before it has only line ends before it.
* **Lines.** A character that is no line end stands in the line and at the column that are counted
  for the octets before it (`fromPlace_countsAt`). So what stands in one line is found in this line, behind what
  stands before it there (`mem_splitLines`). -/

namespace XmlDiagnostics.Text

/-- The characters at which lines can end. -/
def isLineEnd (c : Char) : Bool := c = '\n' || c = '\r'

theorem isSeparator_of_isLineEnd {c : Char} (h : isLineEnd c) : c = ' ' ∨ c = '\t' ∨ c = '\r' ∨ c = '\n' := by
  simp only [isLineEnd, Bool.or_eq_true, decide_eq_true_eq] at h
  rcases h with rfl | rfl <;> simp

/-- No place is after itself; more lines before a place outweigh columns. -/
def CountsLE (p q : Nat × Nat) : Prop := p.1 < q.1 ∨ (p.1 = q.1 ∧ p.2 ≤ q.2)

theorem CountsLE.refl (p : Nat × Nat) : CountsLE p p := .inr ⟨rfl, Nat.le_refl _⟩

theorem CountsLE.trans {p q r : Nat × Nat} (h₁ : CountsLE p q) (h₂ : CountsLE q r) : CountsLE p r := by
  unfold CountsLE at *
  omega

/-! ### Order -/

theorem countsLE_countsAt (line column offset : Nat) (text : List Char) :
    CountsLE (line, column) (countsAt line column offset text) := by
  fun_induction countsAt line column offset text with
  | case1 | case2 => exact .refl _
  | case3 line column offset c rest h hc ih =>
      have hnext : CountsLE (line, column) (line + 1, 0) := .inl (Nat.lt_succ_self line)
      exact hnext.trans ih
  | case4 line column offset c rest h hc ih =>
      have hnext : CountsLE (line, column) (line, column + 1) := .inr ⟨rfl, Nat.le_succ column⟩
      exact hnext.trans ih

theorem countsAt_mono {o o' : Nat} (h : o ≤ o') (line column : Nat) (text : List Char) :
    CountsLE (countsAt line column o text) (countsAt line column o' text) := by
  induction text generalizing line column o o' with
  | nil => exact .refl _
  | cons c rest ih =>
      by_cases hc : o < c.utf8Size
      · rw [countsAt, if_pos hc]
        exact countsLE_countsAt line column o' (c :: rest)
      · have hc' : ¬ o' < c.utf8Size := by omega
        have hsub : o - c.utf8Size ≤ o' - c.utf8Size := by omega
        rw [countsAt, if_neg hc, countsAt, if_neg hc']
        split
        · exact ih hsub _ _
        · exact ih hsub _ _

theorem lines_countsAt_le (line column offset : Nat) (text : List Char) :
    (countsAt line column offset text).1 ≤ line + text.length := by
  fun_induction countsAt line column offset text with
  | case1 => simp
  | case2 => simp
  | case3 line column offset c rest h hc ih => simp only [List.length_cons]; omega
  | case4 line column offset c rest h hc ih => simp only [List.length_cons]; omega

/-- Every character before a place adds a line or a column, and the columns before an earlier place are no
lines: a text that has to be all line ends leaves no columns. -/
theorem column_add_lines_countsAt_le {o o' : Nat} (h : o ≤ o') (line column : Nat) (text : List Char) :
    (countsAt line column o text).2 + (countsAt line column o' text).1 ≤ line + column + text.length := by
  induction text generalizing line column o o' with
  | nil => simp [countsAt]; omega
  | cons c rest ih =>
      by_cases hc : o < c.utf8Size
      · have hl := lines_countsAt_le line column o' (c :: rest)
        rw [countsAt, if_pos hc]
        omega
      · have hc' : ¬ o' < c.utf8Size := by omega
        have hsub : o - c.utf8Size ≤ o' - c.utf8Size := by omega
        rw [countsAt, if_neg hc, countsAt, if_neg hc', List.length_cons]
        split
        · have := ih hsub (line + 1) 0
          omega
        · have := ih hsub line (column + 1)
          omega

theorem ofCounts_le_ofCounts {p q : Nat × Nat} (h : CountsLE p q)
    (hlimit : p.2 + q.1 ≤ Position.limit) : Position.ofCounts p.1 p.2 ≤ Position.ofCounts q.1 q.2 := by
  change (Position.ofCounts p.1 p.2).point ≤ (Position.ofCounts q.1 q.2).point
  rw [Position.point_ofCounts, Position.point_ofCounts, Point.le_def]
  simp only [Position.limit, CountsLE] at *
  omega

/-- **Order of positions**: in a text with fewer than `2 ^ 31` characters a later octet has no earlier
position. -/
theorem positionAt_mono {text : List Char} (hlength : text.length < 2 ^ 31) {o o' : Nat} (h : o ≤ o') :
    positionAt text o ≤ positionAt text o' := by
  refine ofCounts_le_ofCounts (countsAt_mono h 0 0 text) ?_
  have := column_add_lines_countsAt_le h 0 0 text
  simp only [Position.limit]
  omega

/-! ### Counting up to a character -/

theorem countsAt_zero (line column : Nat) (text : List Char) : countsAt line column 0 text = (line, column) := by
  cases text with
  | nil => rfl
  | cons c rest => rw [countsAt, if_pos c.utf8Size_pos]

/-- Counting can be interrupted between two characters. -/
theorem countsAt_append (line column offset : Nat) (before rest : List Char) :
    countsAt line column (byteLength before + offset) (before ++ rest) =
      countsAt (countsAt line column (byteLength before) (before ++ rest)).1
        (countsAt line column (byteLength before) (before ++ rest)).2 offset rest := by
  induction before generalizing line column with
  | nil => simp [byteLength, countsAt_zero]
  | cons c before ih =>
      have h₁ : ¬ c.utf8Size + byteLength before + offset < c.utf8Size := by omega
      have h₂ : ¬ c.utf8Size + byteLength before < c.utf8Size := by omega
      have e₁ : c.utf8Size + byteLength before + offset - c.utf8Size = byteLength before + offset := by omega
      have e₂ : c.utf8Size + byteLength before - c.utf8Size = byteLength before := by omega
      simp only [List.cons_append, byteLength, countsAt, if_neg h₁, if_neg h₂, e₁, e₂]
      split
      · exact ih _ _
      · exact ih _ _

/-- A carriage return with a line feed behind it is one line end. -/
theorem countsAt_pair (line column offset : Nat) (rest : List Char) :
    countsAt line column ('\r'.utf8Size + ('\n'.utf8Size + offset)) ('\r' :: '\n' :: rest) =
      countsAt (line + 1) 0 offset rest := by
  have hcr : ¬ '\r'.utf8Size + ('\n'.utf8Size + offset) < '\r'.utf8Size := by omega
  have hlf : ¬ '\n'.utf8Size + offset < '\n'.utf8Size := by omega
  rw [countsAt, if_neg hcr, if_neg (by simp), Nat.add_sub_cancel_left, countsAt, if_neg hlf, if_pos (.inl rfl),
    Nat.add_sub_cancel_left]

theorem countsAt_cons_of_isLineEnd (line column offset : Nat) {c : Char} (hc : isLineEnd c) {rest : List Char}
    (hrest : c = '\r' → rest.head? ≠ some '\n') :
    countsAt line column (c.utf8Size + offset) (c :: rest) = countsAt (line + 1) 0 offset rest := by
  have hpast : ¬ c.utf8Size + offset < c.utf8Size := by omega
  have hend : c = '\n' ∨ (c = '\r' ∧ rest.head? ≠ some '\n') := by
    simp only [isLineEnd, Bool.or_eq_true, decide_eq_true_eq] at hc
    exact hc.imp_right fun h => ⟨h, hrest h⟩
  rw [countsAt, if_neg hpast, if_pos hend, Nat.add_sub_cancel_left]

theorem countsAt_cons_of_not_isLineEnd (line column offset : Nat) {c : Char} (hc : isLineEnd c = false)
    (rest : List Char) :
    countsAt line column (c.utf8Size + offset) (c :: rest) = countsAt line (column + 1) offset rest := by
  have hpast : ¬ c.utf8Size + offset < c.utf8Size := by omega
  have hend : ¬ (c = '\n' ∨ (c = '\r' ∧ rest.head? ≠ some '\n')) := by
    simp only [isLineEnd, Bool.or_eq_false_iff, decide_eq_false_iff_not] at hc
    rintro (h | ⟨h, -⟩)
    · exact hc.1 h
    · exact hc.2 h
  rw [countsAt, if_neg hpast, if_neg hend, Nat.add_sub_cancel_left]

/-- A character that is no line end takes one column. -/
theorem countsAt_append_cons (line column : Nat) (before : List Char) {c : Char} (hc : isLineEnd c = false)
    (rest : List Char) :
    countsAt line column (byteLength (before ++ [c])) (before ++ c :: rest) =
      ((countsAt line column (byteLength before) (before ++ c :: rest)).1,
        (countsAt line column (byteLength before) (before ++ c :: rest)).2 + 1) := by
  rw [byteLength_append, countsAt_append, byteLength, countsAt_cons_of_not_isLineEnd _ _ _ hc, byteLength,
    countsAt_zero]

/-- Behind a line end a line begins. -/
theorem countsAt_append_lineEnd (line column : Nat) (before : List Char) {c : Char} (hc : isLineEnd c)
    {rest : List Char} (hrest : rest.head? ≠ some '\n') :
    (countsAt line column (byteLength (before ++ [c])) (before ++ c :: rest)).2 = 0 := by
  rw [byteLength_append, countsAt_append, byteLength, countsAt_cons_of_isLineEnd _ _ _ hc (fun _ => hrest),
    byteLength, countsAt_zero]

theorem counts_le_length (line column : Nat) (before rest : List Char) :
    (countsAt line column (byteLength before) (before ++ rest)).1 +
      (countsAt line column (byteLength before) (before ++ rest)).2 ≤ line + column + before.length := by
  induction before generalizing line column with
  | nil => simp [byteLength, countsAt_zero]
  | cons c before ih =>
      have h : ¬ c.utf8Size + byteLength before < c.utf8Size := by omega
      have e : c.utf8Size + byteLength before - c.utf8Size = byteLength before := by omega
      simp only [List.cons_append, byteLength, countsAt, if_neg h, e, List.length_cons]
      split
      · have := ih (line + 1) 0
        omega
      · have := ih line (column + 1)
        omega

/-- A line end takes no column of the places behind it. -/
theorem column_lt_of_mem_lineEnd (line column : Nat) {before : List Char} {c : Char} (hmem : c ∈ before)
    (hc : isLineEnd c) {rest : List Char} (hrest : rest.head? ≠ some '\n') :
    (countsAt line column (byteLength before) (before ++ rest)).2 < column + before.length := by
  induction before generalizing line column c with
  | nil => cases hmem
  | cons d before ih =>
      have h : ¬ d.utf8Size + byteLength before < d.utf8Size := by omega
      have e : d.utf8Size + byteLength before - d.utf8Size = byteLength before := by omega
      simp only [List.cons_append, byteLength, countsAt, if_neg h, e, List.length_cons]
      split
      · have hle := counts_le_length (line + 1) 0 before rest
        have hge := countsLE_countsAt (line + 1) 0 (byteLength before) (before ++ rest)
        simp only [CountsLE] at hge
        omega
      · rename_i hend
        have hlater : ∃ c' ∈ before, isLineEnd c' = true := by
          rcases List.mem_cons.mp hmem with rfl | hmem
          · simp only [isLineEnd, Bool.or_eq_true, decide_eq_true_eq] at hc
            obtain ⟨hn, hr⟩ := not_or.mp hend
            have hnext : (before ++ rest).head? = some '\n' :=
              Decidable.byContradiction fun hne => hr ⟨hc.resolve_left hn, hne⟩
            cases before with
            | nil => exact absurd hnext hrest
            | cons c' before =>
                obtain rfl : c' = '\n' := by simpa using hnext
                exact ⟨'\n', List.mem_cons_self .., rfl⟩
          · exact ⟨c, hmem, hc⟩
        obtain ⟨c', hmem', hc'⟩ := hlater
        have := ih line (column + 1) hmem' hc'
        omega

/-! ### Lines -/

/-- Counts that begin at a place are added to those before it; columns only while no line has ended. -/
theorem countsAt_eq_add (line column offset : Nat) (text : List Char) :
    countsAt line column offset text =
      (line + (countsAt 0 0 offset text).1,
        if (countsAt 0 0 offset text).1 = 0 then column + (countsAt 0 0 offset text).2
        else (countsAt 0 0 offset text).2) := by
  induction text generalizing line column offset with
  | nil => simp [countsAt]
  | cons c rest ih =>
      simp only [countsAt]
      split
      · simp
      · split
        · rw [ih (line + 1) 0, ih (0 + 1) 0]
          simp
          omega
        · rw [ih line (column + 1), ih 0 (0 + 1)]
          simp
          split <;> omega

/-- After a line end the columns begin anew. -/
theorem countsAt_line (line offset : Nat) (text : List Char) :
    countsAt line 0 offset text = (line + (countsAt 0 0 offset text).1, (countsAt 0 0 offset text).2) := by
  rw [countsAt_eq_add line]
  simp

theorem splitLines_cons_of_isLineEnd {c : Char} (hc : isLineEnd c) {rest : List Char}
    (hrest : c = '\r' → rest.head? ≠ some '\n') : splitLines (c :: rest) = [] :: splitLines rest := by
  simp only [isLineEnd, Bool.or_eq_true, decide_eq_true_eq] at hc
  rw [splitLines]
  · rw [if_pos hc]
  · rintro rest' rfl rfl
    exact hrest rfl rfl

theorem splitLines_cons_of_not_isLineEnd {c : Char} (hc : isLineEnd c = false) (rest : List Char) :
    splitLines (c :: rest) = consFirst c (splitLines rest) := by
  simp only [isLineEnd, Bool.or_eq_false_iff, decide_eq_false_iff_not] at hc
  rw [splitLines]
  · rw [if_neg (not_or.mpr hc)]
  · rintro rest' rfl
    exact absurd rfl hc.2

theorem head?_splitLines_of_isLineEnd {c : Char} (hc : isLineEnd c) (rest : List Char) :
    (splitLines (c :: rest)).head? = some [] := by
  by_cases hpair : c = '\r' ∧ rest.head? = some '\n'
  · obtain ⟨rfl, hn⟩ := hpair
    obtain ⟨rest', rfl⟩ := List.head?_eq_some_iff.mp hn
    rfl
  · rw [splitLines_cons_of_isLineEnd hc (fun h hn => hpair ⟨h, hn⟩)]
    rfl

theorem splitLines_ne_nil {text : List Char} (h : text ≠ []) : splitLines text ≠ [] := by
  obtain ⟨c, rest, rfl⟩ := List.exists_cons_of_ne_nil h
  by_cases hc : isLineEnd c = true
  · have := head?_splitLines_of_isLineEnd hc rest
    rintro hnil
    simp [hnil] at this
  · rw [splitLines_cons_of_not_isLineEnd (Bool.not_eq_true _ ▸ hc)]
    cases splitLines rest <;> simp [consFirst]

theorem head?_consFirst (c : Char) (lines : List (List Char)) :
    (consFirst c lines).head? = some (c :: lines.headD []) := by
  cases lines <;> rfl

/-- The first line goes on to the first line end. -/
theorem head?_splitLines {c : Char} (hc : isLineEnd c = false) (rest : List Char) :
    (splitLines (c :: rest)).head? = some (c :: rest.takeWhile fun d => !isLineEnd d) := by
  induction rest generalizing c with
  | nil => rw [splitLines_cons_of_not_isLineEnd hc, head?_consFirst]; rfl
  | cons d rest ih =>
      rw [splitLines_cons_of_not_isLineEnd hc, head?_consFirst, List.headD_eq_head?_getD]
      by_cases hd : isLineEnd d = true
      · rw [head?_splitLines_of_isLineEnd hd]
        simp [hd]
      · rw [Bool.not_eq_true] at hd
        rw [ih hd]
        simp [hd]

/-- What stands in the line of a place from its column on. -/
def fromPlace (lines : List (List Char)) (p : Nat × Nat) : Option (List Char) := lines[p.1]?.map (·.drop p.2)

/-- A character in front of a text moves the columns of its first line. -/
theorem fromPlace_consFirst (c : Char) {lines : List (List Char)} (h : lines ≠ []) (l k : Nat) :
    fromPlace (consFirst c lines) (l, if l = 0 then 1 + k else k) = fromPlace lines (l, k) := by
  obtain ⟨line, lines, rfl⟩ := List.exists_cons_of_ne_nil h
  cases l with
  | zero => simp [fromPlace, consFirst, Nat.add_comm 1 k]
  | succ l => simp [fromPlace, consFirst]

/-- A line end in front of a text moves its lines. -/
theorem fromPlace_cons (line : List Char) (lines : List (List Char)) (l k : Nat) :
    fromPlace (line :: lines) (1 + l, k) = fromPlace lines (l, k) := by
  simp [fromPlace, Nat.add_comm 1 l]

/-- **Positions and lines agree**: from the place counted for the octets before a character that is no line
end, its line goes on with this character and what follows up to the next line end. -/
theorem fromPlace_countsAt (before : List Char) {c : Char} (hc : isLineEnd c = false) (rest : List Char) :
    fromPlace (splitLines (before ++ c :: rest)) (countsAt 0 0 (byteLength before) (before ++ c :: rest)) =
      some (c :: rest.takeWhile fun d => !isLineEnd d) := by
  -- along the recursion of `splitLines`; the shift of the counts is `countsAt_eq_add`
  induction before using splitLines.induct with
  | case1 =>
      rw [byteLength, countsAt_zero, ← head?_splitLines hc]
      simp [fromPlace, List.head?_eq_getElem?]
  | case2 before ih =>
      rw [byteLength, byteLength, List.cons_append, List.cons_append, splitLines, countsAt_pair, countsAt_line,
        Nat.zero_add, fromPlace_cons]
      exact ih
  | case3 d before hpair hd ih =>
      have hend : isLineEnd d = true := by simpa [isLineEnd] using hd
      have hrest : d = '\r' → (before ++ c :: rest).head? ≠ some '\n' := by
        rintro rfl hn
        cases before with
        | nil =>
            rw [List.nil_append, List.head?_cons, Option.some.injEq] at hn
            rw [hn] at hc
            cases hc
        | cons e before =>
            rw [List.cons_append, List.head?_cons, Option.some.injEq] at hn
            exact hpair before rfl (by rw [hn])
      rw [byteLength, List.cons_append, splitLines_cons_of_isLineEnd hend hrest,
        countsAt_cons_of_isLineEnd _ _ _ hend hrest, countsAt_line, Nat.zero_add, fromPlace_cons]
      exact ih
  | case4 d before hpair hd ih =>
      have hend : isLineEnd d = false := by simpa [isLineEnd] using hd
      rw [byteLength, List.cons_append, splitLines_cons_of_not_isLineEnd hend,
        countsAt_cons_of_not_isLineEnd _ _ _ hend, countsAt_eq_add, Nat.zero_add, Nat.zero_add,
        fromPlace_consFirst d (splitLines_ne_nil (by simp))]
      exact ih

/-- The place of a character that is no line end has a position, and the character and its line stand there. Behind the
character only the column can be beyond the largest nameable one. -/
theorem exists_place {text before rest : List Char} {c : Char} (hlength : text.length < 2 ^ 31)
    (htext : text = before ++ c :: rest) (hc : isLineEnd c = false) :
    ∃ l k : Nat, countsAt 0 0 (byteLength before) text = (l, k) ∧ l + k ≤ before.length ∧
      (positionAt text (byteLength before)).point = ⟨l + 1, k + 1⟩ ∧
      (positionAt text (byteLength (before ++ [c]))).point = ⟨l + 1, (min (k + 2) Position.limit : Nat)⟩ ∧
      fromPlace (splitLines text) (l, k) = some (c :: rest.takeWhile fun d => !isLineEnd d) := by
  subst htext
  have hplace := fromPlace_countsAt before hc rest
  have hnext := countsAt_append_cons 0 0 before hc rest
  have hle := counts_le_length 0 0 before (c :: rest)
  simp only [positionAt, hnext]
  generalize countsAt 0 0 (byteLength before) (before ++ c :: rest) = place at *
  obtain ⟨l, k⟩ := place
  simp only [Nat.zero_add, List.length_append, List.length_cons] at hle hlength
  refine ⟨l, k, rfl, hle, ?_, ?_, hplace⟩
  · rw [Position.point_ofCounts, Point.mk.injEq, Position.limit]
    omega
  · rw [Position.point_ofCounts, Point.mk.injEq, Position.limit]
    omega

/-- A text without line ends is one line, whose places are counted in columns alone. -/
theorem countsAt_of_all_not_isLineEnd {before : List Char} (h : ∀ c ∈ before, isLineEnd c = false)
    (line column : Nat) (rest : List Char) :
    countsAt line column (byteLength before) (before ++ rest) = (line, column + before.length) := by
  induction before generalizing column with
  | nil => exact countsAt_zero line column rest
  | cons c before ih =>
      have hc := h c (List.mem_cons_self ..)
      have hnext := countsAt_append_cons line column [] hc (before ++ rest)
      rw [List.nil_append, byteLength, countsAt_zero, List.nil_append] at hnext
      have hsplit := countsAt_append line column (byteLength before) [c] (before ++ rest)
      rw [List.singleton_append, hnext, ← byteLength_append, List.singleton_append] at hsplit
      rw [List.cons_append, hsplit, ih (fun d hd => h d (List.mem_cons_of_mem _ hd)), List.length_cons]
      simp only [Prod.mk.injEq, true_and]
      omega

theorem splitLines_of_all_not_isLineEnd {text : List Char} (hne : text ≠ []) (h : ∀ c ∈ text, isLineEnd c = false) :
    splitLines text = [text] := by
  induction text with
  | nil => exact absurd rfl hne
  | cons c rest ih =>
      rw [splitLines_cons_of_not_isLineEnd (h c (List.mem_cons_self ..))]
      cases rest with
      | nil => rfl
      | cons d rest =>
          rw [ih (by simp) (fun e he => h e (List.mem_cons_of_mem _ he))]
          rfl

/-! ### The line of a place -/

/-- What stands before a place in its line. -/
def lineUpTo (before : List Char) : List Char := before.rtakeWhile fun c => !isLineEnd c

theorem not_isLineEnd_of_mem_lineUpTo {before : List Char} {c : Char} (h : c ∈ lineUpTo before) : isLineEnd c = false := by
  simpa using List.mem_rtakeWhile_imp h

theorem lineUpTo_concat (before : List Char) {c : Char} (hc : isLineEnd c = false) :
    lineUpTo (before ++ [c]) = lineUpTo before ++ [c] := by
  unfold lineUpTo
  rw [List.rtakeWhile_concat_pos]
  rw [hc]
  rfl

theorem lineUpTo_concat_lineEnd (before : List Char) {c : Char} (hc : isLineEnd c = true) :
    lineUpTo (before ++ [c]) = [] := by
  unfold lineUpTo
  rw [List.rtakeWhile_concat_neg]
  simp [hc]

/-- Before its line a place has nothing or a line end. -/
theorem exists_lineEnd_before (before : List Char) :
    ∃ former, before = former ++ lineUpTo before ∧ (former = [] ∨ ∃ more c, former = more ++ [c] ∧ isLineEnd c = true) := by
  refine ⟨before.rdropWhile fun c => !isLineEnd c, List.rdropWhile_append_rtakeWhile.symm, ?_⟩
  rcases List.eq_nil_or_concat (before.rdropWhile fun c => !isLineEnd c) with hnil | ⟨more, c, hconcat⟩
  · exact .inl hnil
  · right
    have hlast := List.rdropWhile_last_not (fun c => !isLineEnd c) before (by rw [hconcat]; simp)
    simp only [hconcat, List.concat_eq_append, List.getLast_append_singleton] at hlast
    exact ⟨more, c, hconcat.trans (List.concat_eq_append ..), by simpa using hlast⟩

/-- A line that begins with a character goes on to the next line end. -/
theorem mem_splitLines_of_start {former : List Char} {c : Char} (hc : isLineEnd c = false) (rest : List Char)
    (hformer : former = [] ∨ ∃ more d, former = more ++ [d] ∧ isLineEnd d = true) :
    (c :: rest.takeWhile fun d => !isLineEnd d) ∈ splitLines (former ++ c :: rest) := by
  have hcolumn : (countsAt 0 0 (byteLength former) (former ++ c :: rest)).2 = 0 := by
    rcases hformer with rfl | ⟨more, d, rfl, hd⟩
    · rw [byteLength, countsAt_zero]
    · have hhead : (c :: rest).head? ≠ some '\n' := by
        intro h
        rw [Option.some.inj h] at hc
        cases hc
      have := countsAt_append_lineEnd 0 0 more hd hhead
      rwa [List.append_assoc]
  have hplace := fromPlace_countsAt former hc rest
  rw [fromPlace, hcolumn] at hplace
  obtain ⟨line, hline, hdrop⟩ := Option.map_eq_some_iff.mp hplace
  rw [← hdrop]
  exact List.mem_of_getElem? hline

/-- **The line of a place.** What stands in one line of a text is in this line, behind what stands before it in the line. -/
theorem mem_splitLines (before : List Char) {piece : List Char} (hne : piece ≠ [])
    (hpiece : ∀ c ∈ piece, isLineEnd c = false) (after : List Char) :
    lineUpTo before ++ piece ++ (after.takeWhile fun c => !isLineEnd c) ∈ splitLines (before ++ (piece ++ after)) := by
  obtain ⟨former, hbefore, hformer⟩ := exists_lineEnd_before before
  obtain ⟨c, line, hline⟩ : ∃ c line, lineUpTo before ++ piece = c :: line :=
    List.exists_cons_of_ne_nil (by simp [hne])
  have hall : ∀ d ∈ c :: line, isLineEnd d = false := by
    rw [← hline]
    exact List.forall_mem_append.mpr ⟨fun d => not_isLineEnd_of_mem_lineUpTo, hpiece⟩
  obtain ⟨hc, hmore⟩ := List.forall_mem_cons.mp hall
  have hmem := mem_splitLines_of_start hc (line ++ after) hformer
  have htext : before ++ (piece ++ after) = former ++ c :: (line ++ after) := by
    conv => lhs; rw [hbefore]
    rw [List.append_assoc, ← List.append_assoc (lineUpTo before), hline, List.cons_append]
  have htake : (line ++ after).takeWhile (fun d => !isLineEnd d) = line ++ after.takeWhile fun d => !isLineEnd d :=
    List.takeWhile_append_of_pos fun d hd => by rw [hmore d hd]; rfl
  rw [htake] at hmem
  rw [htext, hline, List.cons_append]
  exact hmem

/-- The place of a character that is no line end counts the characters before it in its line, and its line goes on with the
character up to the next line end. -/
theorem exists_line {text before rest : List Char} {c : Char} (htext : text = before ++ c :: rest)
    (hc : isLineEnd c = false) :
    ∃ l, countsAt 0 0 (byteLength before) text = (l, (lineUpTo before).length) ∧
      (splitLines text)[l]? = some (lineUpTo before ++ c :: rest.takeWhile fun d => !isLineEnd d) := by
  obtain ⟨former, hbefore, hformer⟩ := exists_lineEnd_before before
  have hline : ∀ d ∈ lineUpTo before, isLineEnd d = false := fun d => not_isLineEnd_of_mem_lineUpTo
  obtain ⟨d, line, hcons⟩ : ∃ d line, lineUpTo before ++ c :: rest = d :: line :=
    List.exists_cons_of_ne_nil (by simp)
  have hd : isLineEnd d = false := by
    cases hup : lineUpTo before with
    | nil =>
        rw [hup, List.nil_append] at hcons
        rw [← (List.cons.inj hcons).1]
        exact hc
    | cons e more =>
        rw [hup, List.cons_append] at hcons
        rw [← (List.cons.inj hcons).1]
        exact hline e (by rw [hup]; exact List.mem_cons_self)
  have hwhole : text = former ++ d :: line := by
    rw [htext, ← hcons, ← List.append_assoc, ← hbefore]
  -- the line begins behind the former lines, where no column has been counted
  obtain ⟨l, k, hcounts⟩ : ∃ l k, countsAt 0 0 (byteLength former) text = (l, k) := ⟨_, _, rfl⟩
  have hzero : k = 0 := by
    rcases hformer with rfl | ⟨more, e, rfl, he⟩
    · rw [byteLength, countsAt_zero] at hcounts
      exact (Prod.mk.inj hcounts).2.symm
    · have hhead : (d :: line).head? ≠ some '\n' := by
        intro h
        rw [Option.some.inj h] at hd
        cases hd
      have := countsAt_append_lineEnd 0 0 more he hhead
      rw [hwhole, List.append_assoc] at hcounts
      rw [List.singleton_append] at hcounts
      rwa [hcounts] at this
  subst hzero
  refine ⟨l, ?_, ?_⟩
  · have hsplit := countsAt_append 0 0 (byteLength (lineUpTo before)) former (d :: line)
    rw [← byteLength_append, ← hbefore, ← hwhole, hcounts] at hsplit
    rw [hsplit, ← hcons, countsAt_of_all_not_isLineEnd hline, Nat.zero_add]
  · have hplace := fromPlace_countsAt former hd line
    rw [← hwhole, hcounts] at hplace
    obtain ⟨row, hrow, hdrop⟩ := Option.map_eq_some_iff.mp hplace
    rw [List.drop_zero] at hdrop
    have htake : (d :: line).takeWhile (fun e => !isLineEnd e) = d :: line.takeWhile fun e => !isLineEnd e :=
      List.takeWhile_cons_of_pos (by rw [hd]; rfl)
    have hc' : (c :: rest).takeWhile (fun e => !isLineEnd e) = c :: rest.takeWhile fun e => !isLineEnd e :=
      List.takeWhile_cons_of_pos (by rw [hc]; rfl)
    rw [← htake, ← hcons, List.takeWhile_append_of_pos fun e he => by rw [hline e he]; rfl, hc'] at hdrop
    rw [← hdrop]
    exact hrow

end XmlDiagnostics.Text
