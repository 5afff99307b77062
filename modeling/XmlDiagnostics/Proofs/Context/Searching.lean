import XmlDiagnostics.Context.Search
import XmlDiagnostics.Proofs.Context.Locating
import XmlDiagnostics.Proofs.Pattern.Matching
import XmlDiagnostics.Proofs.Text.Coordinates

/-! # Nearest matches

A forward search looks in the lines of a document one after the other and takes the leftmost match in the first line
that has one (`searchForward_nearest`). A backward search takes the greatest position at which a match begins,
up to the one where it starts (`searchBackward_greatest`).

Where later matches of a pattern do not stand before earlier ones, the nearest match is the one that stands first of all that
the search sees (`answers_searchForward`).

Both agree on patterns that have no groups and take a character whenever they match: then a forward search takes the
least position from its start on at which a match begins, and each of the searches, begun where the other one has
found a match, finds the same one. -/

namespace XmlDiagnostics

open Text

/-- A position that lines and columns counted from one can have. -/
def Position.IsPlace (p : Position) : Prop := ∃ l k : Nat, p.point = ⟨l + 1, k + 1⟩

theorem Position.isPlace_iff {p : Position} : p.IsPlace ↔ 1 ≤ p.line ∧ 1 ≤ p.column := by
  constructor
  · rintro ⟨l, k, hplace⟩
    rw [point, Point.mk.injEq] at hplace
    omega
  · rintro ⟨hline, hcolumn⟩
    refine ⟨(p.line - 1).toNat, (p.column - 1).toNat, ?_⟩
    rw [point, Point.mk.injEq]
    omega

theorem Position.IsPlace.of_le {p q : Position} (h : p.IsPlace) (hle : p ≤ q) (hcolumn : 1 ≤ q.column) : q.IsPlace := by
  rw [isPlace_iff] at h ⊢
  rw [le_def] at hle
  omega

namespace Search

/-! ### Where a forward search looks -/

/-- A forward search from a place looks in a line from a column on: in the line of the place from its column on, in each
later line from the first column on, and only if that is a column of the line. -/
structure LooksFrom (lines : List (List Char)) (line column l first : Nat) (row : List Char) : Prop where
  getElem?_eq : lines[l]? = some row
  line_le : line ≤ l
  first_eq : first = if l = line then column else 0
  first_lt : first < row.length

/-- A match is the nearest one for a forward search from a place: it is the leftmost one where the search looks in its
line, and where it looks in earlier lines there is none. -/
def Nearest (lines : List (List Char)) (line column : Nat) (p : Pattern) (l k : Nat) (m : Match) : Prop :=
  ∃ first row, LooksFrom lines line column l first row ∧ IsLeast {j | first ≤ j ∧ (p.matchAt row j).isSome} k ∧
    p.matchAt row k = some m ∧
    ∀ l' first' row', LooksFrom lines line column l' first' row' → l' < l → ∀ j, first' ≤ j → p.matchAt row' j = none

variable {lines : List (List Char)} {line column l first : Nat} {row : List Char} {p : Pattern}

theorem LooksFrom.of_succ (h : LooksFrom lines (line + 1) 0 l first row) : LooksFrom lines line column l first row where
  getElem?_eq := h.getElem?_eq
  line_le := Nat.le_of_succ_le h.line_le
  first_eq := by
    have hline := h.line_le
    rw [h.first_eq, ite_self, if_neg (by omega)]
  first_lt := h.first_lt

theorem LooksFrom.cases (h : LooksFrom lines line column l first row) :
    (l = line ∧ first = column) ∨ LooksFrom lines (line + 1) 0 l first row := by
  obtain ⟨hrow, hle, hfirst, hlt⟩ := h
  by_cases hline : l = line
  · rw [if_pos hline] at hfirst
    exact .inl ⟨hline, hfirst⟩
  · rw [if_neg hline] at hfirst
    exact .inr ⟨hrow, by omega, by rw [ite_self, hfirst], hlt⟩

/-- A nearest match in later lines is the nearest one if the line before has none where the search looks. -/
theorem Nearest.of_succ {k : Nat} {m : Match} (h : Nearest lines (line + 1) 0 p l k m)
    (hnone : ∀ row, LooksFrom lines line column line column row → ∀ j, column ≤ j → p.matchAt row j = none) :
    Nearest lines line column p l k m := by
  obtain ⟨first, row, hlooks, hleast, hm, hearlier⟩ := h
  refine ⟨first, row, hlooks.of_succ, hleast, hm, fun l' first' row' hlooks' hl' => ?_⟩
  rcases hlooks'.cases with ⟨rfl, rfl⟩ | hlater
  · exact hnone row' hlooks'
  · exact hearlier l' first' row' hlater hl'

theorem inLine_ofPattern (hcolumn : column < row.length) :
    inLine (.ofPattern p) column row = (p.search row column).map startOf := by
  rw [inLine, if_pos hcolumn]
  rfl

/-- **Looking in one line after the other** finds the nearest match. -/
theorem forwardFrom_cases (lines : List (List Char)) (p : Pattern) (rows : List (List Char)) (line column : Nat)
    (hrows : lines.drop line = rows) :
    (∃ l k m, Nearest lines line column p l k m ∧
        forwardFrom (.ofPattern p) line column rows = some (.ofCounts l (startOf m))) ∨
      (forwardFrom (.ofPattern p) line column rows = none ∧
        ∀ l first row, LooksFrom lines line column l first row → ∀ j, first ≤ j → p.matchAt row j = none) := by
  induction rows generalizing line column with
  | nil =>
      refine .inr ⟨rfl, fun l first row hlooks => ?_⟩
      have hlength := List.drop_eq_nil_iff.mp hrows
      have hlt := (List.getElem?_eq_some_iff.mp hlooks.getElem?_eq).1
      have hle := hlooks.line_le
      omega
  | cons row rows ih =>
      have hline : lines[line]? = some row := by rw [← List.head?_drop, hrows, List.head?_cons]
      have hnext : lines.drop (line + 1) = rows := by rw [← List.tail_drop, hrows, List.tail_cons]
      have hself : ∀ row', LooksFrom lines line column line column row' → row' = row ∧ column < row.length := by
        intro row' hlooks
        obtain rfl := Option.some.inj (hlooks.getElem?_eq.symm.trans hline)
        exact ⟨rfl, hlooks.first_lt⟩
      -- without a match in this line the search goes on from the first column of the next one
      have hgoesOn (hin : inLine (.ofPattern p) column row = none)
          (hnone : ∀ row', LooksFrom lines line column line column row' → ∀ j, column ≤ j → p.matchAt row' j = none) :
          (∃ l k m, Nearest lines line column p l k m ∧
              forwardFrom (.ofPattern p) line column (row :: rows) = some (.ofCounts l (startOf m))) ∨
            (forwardFrom (.ofPattern p) line column (row :: rows) = none ∧
              ∀ l first row, LooksFrom lines line column l first row → ∀ j, first ≤ j → p.matchAt row j = none) := by
        rw [forwardFrom, hin]
        rcases ih (line + 1) 0 hnext with ⟨l, k, m, hnearest, hfound⟩ | ⟨hfound, hall⟩
        · exact .inl ⟨l, k, m, hnearest.of_succ hnone, hfound⟩
        · refine .inr ⟨hfound, fun l first row' hlooks => ?_⟩
          rcases hlooks.cases with ⟨rfl, rfl⟩ | hlater
          · exact hnone row' hlooks
          · exact hall l first row' hlater
      by_cases hcolumn : column < row.length
      · rcases Pattern.leftmost_cases p row column with ⟨k, m, hsearch, hleast, hm⟩ | ⟨hsearch, hnone⟩
        · refine .inl ⟨line, k, m, ⟨column, row, ⟨hline, Nat.le_refl _, (if_pos rfl).symm, hcolumn⟩, hleast, hm, ?_⟩, ?_⟩
          · intro l' first' row' hlooks hl'
            exact absurd hlooks.line_le (Nat.not_le_of_lt hl')
          · rw [forwardFrom, inLine_ofPattern hcolumn, hsearch]
            rfl
        · refine hgoesOn (by rw [inLine_ofPattern hcolumn, hsearch]; rfl) fun row' hlooks => ?_
          obtain ⟨rfl, -⟩ := hself row' hlooks
          exact hnone
      · exact hgoesOn (if_neg hcolumn) fun row' hlooks => absurd (hself row' hlooks).2 hcolumn

/-! ### Positions in lines -/

/-- A line and the lines before it are no longer than the text. -/
theorem line_add_length_le {text : List Char} (hrow : (splitLines text)[l]? = some row) (hne : row ≠ []) :
    l + row.length ≤ text.length := by
  have hpos := List.length_pos_iff.mpr hne
  have hlast : row[row.length - 1]? = some (row.getLast hne) := by
    rw [List.getLast_eq_getElem, List.getElem?_eq_getElem]
  obtain ⟨-, before, rest, htext, hcounts⟩ := exists_begin_of_inLines ⟨row, hrow, hlast⟩
  have hle := counts_le_length 0 0 before (row.getLast hne :: rest)
  rw [← htext, hcounts] at hle
  have hlength := congrArg List.length htext
  rw [List.length_append, List.length_cons] at hlength
  dsimp only at hle
  omega

/-- The line of a character can be named. -/
theorem point_ofCounts_of_row {text : List Char} (hlength : text.length < 2 ^ 31) (hrow : (splitLines text)[l]? = some row)
    (hne : row ≠ []) (k : Nat) : (Position.ofCounts l k).point = ⟨l + 1, (min (k + 1) Position.limit : Nat)⟩ := by
  have hle := line_add_length_le hrow hne
  have hpos := List.length_pos_iff.mpr hne
  have hlimit : l + 1 ≤ Position.limit := by
    simp only [Position.limit]
    omega
  rw [Position.point_ofCounts, Nat.min_eq_left hlimit]
  rfl

/-- The column of a character can be named as well. -/
theorem point_ofCounts_of_lt {text : List Char} (hlength : text.length < 2 ^ 31) (hrow : (splitLines text)[l]? = some row)
    {k : Nat} (hk : k < row.length) : (Position.ofCounts l k).point = ⟨l + 1, k + 1⟩ := by
  have hne : row ≠ [] := List.length_pos_iff.mp (Nat.zero_lt_of_lt hk)
  have hle := line_add_length_le hrow hne
  have hlimit : k + 1 ≤ Position.limit := by
    simp only [Position.limit]
    omega
  rw [point_ofCounts_of_row hlength hrow hne, Nat.min_eq_left hlimit]
  rfl

/-- A match counts as standing at its place or behind it, and in its line or at its end. -/
theorem startOf_bounds {k : Nat} {m : Match} (h : p.matchAt row k = some m) : k ≤ startOf m ∧ startOf m ≤ row.length := by
  obtain ⟨hstart, hle, hstop, hgroups⟩ := Pattern.bounds_of_matchAt h
  rw [startOf, Match.group?, if_neg one_ne_zero]
  cases hlookup : m.groups.lookup 1 with
  | none => exact ⟨hstart.ge, hstart.le.trans (hle.trans hstop)⟩
  | some piece => exact hgroups _ (mem_of_lookup_eq_some hlookup)

/-! ### Where matches begin -/

/-- The positions of the characters at which matches begin. -/
def Begins (lines : List (List Char)) (p : Pattern) : Set Position := {position | ∃ (l k : Nat) (row : List Char),
  lines[l]? = some row ∧ k < row.length ∧ (p.matchAt row k).isSome = true ∧ position.point = ⟨l + 1, k + 1⟩}

/-- What a search has found is the best position of a set, and nothing only if there is none. -/
def Answers (best : Set Position → Position → Prop) (found : Option Position) (s : Set Position) : Prop :=
  match found with
  | some position => best s position
  | none => s = ∅

section answers

variable {best : Set Position → Position → Prop} {found : Option Position} {s : Set Position}

/-- A search among positions that are there finds one. -/
theorem Answers.exists_of_mem (h : Answers best found s) {position : Position} (hmem : position ∈ s) :
    ∃ q, found = some q ∧ best s q := by
  cases found with
  | none => exact absurd hmem (h ▸ Set.notMem_empty position)
  | some q => exact ⟨q, rfl, h⟩

theorem Answers.eq_some_iff (h : Answers best found s) (hmem : ∀ position, best s position → position ∈ s)
    (hunique : ∀ position position', best s position → best s position' → position = position') (position : Position) :
    found = some position ↔ best s position := by
  cases found with
  | none =>
      refine ⟨fun h => (by cases h), fun hbest => ?_⟩
      have hin := hmem position hbest
      rw [show s = ∅ from h] at hin
      exact absurd hin (Set.notMem_empty position)
  | some other =>
      refine ⟨fun hsome => Option.some.inj hsome ▸ h, fun hbest => ?_⟩
      exact congrArg some (hunique other position h hbest)

theorem Answers.eq_none_iff (h : Answers best found s) (hmem : ∀ position, best s position → position ∈ s) :
    found = none ↔ s = ∅ := by
  cases found with
  | none => exact ⟨fun _ => h, fun _ => rfl⟩
  | some position =>
      refine ⟨fun hnone => (by cases hnone), fun hempty => ?_⟩
      have hin := hmem position h
      rw [hempty] at hin
      exact absurd hin (Set.notMem_empty position)

theorem Answers.eq_some_iff_isGreatest (h : Answers IsGreatest found s) (position : Position) :
    found = some position ↔ IsGreatest s position :=
  h.eq_some_iff (fun _ h => h.1) (fun _ _ h h' => Position.le_antisymm (h'.2 h.1) (h.2 h'.1)) position

theorem Answers.eq_some_iff_isLeast (h : Answers IsLeast found s) (position : Position) :
    found = some position ↔ IsLeast s position :=
  h.eq_some_iff (fun _ h => h.1) (fun _ _ h h' => Position.le_antisymm (h.2 h'.1) (h'.2 h.1)) position

end answers

theorem le_of_mem_begins {position : Position} (h : position ∈ Begins lines p) : position.line ≤ lines.length := by
  obtain ⟨l, k, row, hrow, -, -, hplace⟩ := h
  have hlt := (List.getElem?_eq_some_iff.mp hrow).1
  have hline : position.line = l + 1 := congrArg Point.line hplace
  omega

/-! ### Matches that a forward search sees -/

/-- Matches stand at characters, and a later match does not stand before an earlier one. -/
structure Ordered (p : Pattern) : Prop where
  lt_length : ∀ {row k m}, p.matchAt row k = some m → startOf m < row.length
  mono : ∀ {row k k' m m'}, p.matchAt row k = some m → p.matchAt row k' = some m' → k ≤ k' → startOf m ≤ startOf m'

/-- The positions at which the matches stand that begin where a forward search looks. -/
def SeenFrom (lines : List (List Char)) (p : Pattern) (line column : Nat) : Set Position :=
  {position | ∃ (l first : Nat) (row : List Char) (k : Nat) (m : Match), LooksFrom lines line column l first row ∧
    first ≤ k ∧ p.matchAt row k = some m ∧ position.point = ⟨l + 1, startOf m + 1⟩}

/-- In a line from the first one on, characters at or behind a place are where the search looks. -/
theorem looksFrom_of_le {k : Nat} (hrow : lines[l]? = some row) (hk : k < row.length)
    (hle : (⟨line + 1, column + 1⟩ : Point) ≤ ⟨l + 1, k + 1⟩) :
    ∃ first, LooksFrom lines line column l first row ∧ first ≤ k := by
  rw [Point.le_def] at hle
  simp only at hle
  refine ⟨if l = line then column else 0, ⟨hrow, by omega, rfl, ?_⟩, ?_⟩ <;> split <;> omega

theorem LooksFrom.le {k : Nat} (h : LooksFrom lines line column l first row) (hk : first ≤ k) :
    (⟨line + 1, column + 1⟩ : Point) ≤ ⟨l + 1, k + 1⟩ := by
  have hfirst := h.first_eq
  have hline := h.line_le
  rw [Point.le_def]
  split at hfirst <;> simp only <;> omega

/-- Where a pattern has no groups, matches stand where they start. -/
theorem startOf_of_numbers {k : Nat} {m : Match} (hnumbers : p.numbers = []) (h : p.matchAt row k = some m) :
    startOf m = k := by
  have hgroups : m.groups = [] := by
    refine List.eq_nil_iff_forall_not_mem.mpr fun entry hentry => ?_
    have hnumber := Pattern.mem_numbers_of_matchAt h entry hentry
    rw [hnumbers] at hnumber
    exact absurd hnumber List.not_mem_nil
  rw [startOf, Match.group?, if_neg one_ne_zero, hgroups]
  exact (Pattern.bounds_of_matchAt h).1

theorem ordered_of_takes (hnumbers : p.numbers = [])
    (htakes : ∀ text k m, p.matchAt text k = some m → m.piece.start ≠ m.piece.stop) : Ordered p where
  lt_length := by
    intro row k m hm
    obtain ⟨hstart, hle, hstop, -⟩ := Pattern.bounds_of_matchAt hm
    have hne := htakes row k m hm
    rw [startOf_of_numbers hnumbers hm]
    omega
  mono := by
    intro row k k' m m' hm hm' hle
    rw [startOf_of_numbers hnumbers hm, startOf_of_numbers hnumbers hm']
    exact hle

/-- For a pattern that has no groups and takes a character, these are the match starts at or behind the start. -/
theorem seenFrom_eq (hnumbers : p.numbers = [])
    (htakes : ∀ text k m, p.matchAt text k = some m → m.piece.start ≠ m.piece.stop) :
    SeenFrom lines p line column = {q | q ∈ Begins lines p ∧ ⟨line + 1, column + 1⟩ ≤ q.point} := by
  ext q
  constructor
  · rintro ⟨l, first, row, k, m, hlooks, hk, hm, hplace⟩
    have hlt := (ordered_of_takes hnumbers htakes).lt_length hm
    rw [startOf_of_numbers hnumbers hm] at hlt hplace
    exact ⟨⟨l, k, row, hlooks.getElem?_eq, hlt, by rw [hm]; rfl, hplace⟩, hplace ▸ hlooks.le hk⟩
  · rintro ⟨⟨l, k, row, hrow, hlt, hmatch, hplace⟩, hle⟩
    obtain ⟨m, hm⟩ := Option.isSome_iff_exists.mp hmatch
    obtain ⟨first, hlooks, hk⟩ := looksFrom_of_le hrow hlt (hplace ▸ hle)
    exact ⟨l, first, row, k, m, hlooks, hk, hm, by rw [startOf_of_numbers hnumbers hm, hplace]⟩

/-! ### Where a backward search looks -/

theorem lastStart_cases (p : Pattern) (bound : Nat) (row : List Char) :
    (∃ k, lastStart (.ofPattern p) bound row = some k ∧
        IsGreatest {k | (k < bound ∧ k < row.length) ∧ (p.matchAt row k).isSome} k) ∨
      (lastStart (.ofPattern p) bound row = none ∧ ∀ k < bound, k < row.length → p.matchAt row k = none) := by
  have hcases := Pattern.last_cases p row (min bound row.length)
  simp only [lt_min_iff, and_imp] at hcases
  exact hcases

theorem backwardFrom_cons (a : Automaton) (row : List Char) (number : Nat) (rest : List (List Char × Nat)) :
    backwardFrom a ((row, number) :: rest) =
      ((lastStart a row.length row).map (.ofCounts number)).or (backwardFrom a rest) := by
  rw [backwardFrom]
  cases lastStart a row.length row <;> rfl

/-- **Looking in one more line.** A backward search takes the last match start before a bound in a line, and without one
what it finds in the lines before. -/
theorem answers_lastStart {text : List Char} (hlength : text.length < 2 ^ 31) (hrow : (splitLines text)[l]? = some row)
    (bound : Nat) {earlier : Option Position}
    (h : Answers IsGreatest earlier {q | q ∈ Begins (splitLines text) p ∧ q.line ≤ l}) :
    Answers IsGreatest (((lastStart (.ofPattern p) bound row).map (.ofCounts l)).or earlier)
      {q | q ∈ Begins (splitLines text) p ∧ q.point ≤ ⟨l + 1, bound⟩} := by
  rcases lastStart_cases p bound row with ⟨k, hlast, ⟨⟨hk, hlt⟩, hmatch⟩, hge⟩ | ⟨hlast, hnone⟩
  · rw [hlast, Option.map_some, Option.some_or]
    show IsGreatest _ (Position.ofCounts l k)
    have hplace := point_ofCounts_of_lt hlength hrow hlt
    refine ⟨⟨⟨l, k, row, hrow, hlt, hmatch, hplace⟩, hplace ▸ .inr ⟨rfl, ?_⟩⟩, ?_⟩
    · show (k : Int) + 1 ≤ bound
      omega
    · rintro q ⟨⟨l', k', row', hrow', hlt', hmatch', hplace'⟩, hle⟩
      rw [hplace', Point.le_def] at hle
      show q.point ≤ (Position.ofCounts l k).point
      rw [hplace, hplace', Point.le_def]
      simp only at hle ⊢
      by_cases hline : l' = l
      · subst hline
        obtain rfl := Option.some.inj (hrow.symm.trans hrow')
        have hk' := hge ⟨⟨by omega, hlt'⟩, hmatch'⟩
        omega
      · omega
  · rw [hlast, Option.map_none, Option.none_or]
    have hsame : {q | q ∈ Begins (splitLines text) p ∧ q.point ≤ ⟨l + 1, bound⟩} =
        {q | q ∈ Begins (splitLines text) p ∧ q.line ≤ l} := by
      ext q
      refine and_congr_right ?_
      rintro ⟨l', k', row', hrow', hlt', hmatch', hplace⟩
      have hline : q.line = l' + 1 := congrArg Point.line hplace
      rw [hplace, hline, Point.le_def]
      simp only
      refine ⟨fun hle => ?_, fun hle => .inl (by omega)⟩
      by_contra hlater
      obtain rfl : l' = l := by omega
      obtain rfl := Option.some.inj (hrow.symm.trans hrow')
      rw [hnone k' (by omega) hlt'] at hmatch'
      cases hmatch'
    rw [hsame]
    exact h

/-- **The lines before a line**, the last one first. -/
theorem answers_backwardFrom {text : List Char} (hlength : text.length < 2 ^ 31) (p : Pattern) (n : Nat) :
    Answers IsGreatest (backwardFrom (.ofPattern p) ((splitLines text).zipIdx.take n).reverse)
      {q | q ∈ Begins (splitLines text) p ∧ q.line ≤ n} := by
  induction n with
  | zero =>
      refine Set.eq_empty_of_forall_notMem ?_
      rintro q ⟨⟨l, k, row, -, -, -, hplace⟩, hle⟩
      have hline : q.line = l + 1 := congrArg Point.line hplace
      omega
  | succ n ih =>
      rw [List.take_add_one, List.getElem?_zipIdx]
      cases hrow : (splitLines text)[n]? with
      | none =>
          have hle := List.getElem?_eq_none_iff.mp hrow
          have hsame : {q | q ∈ Begins (splitLines text) p ∧ q.line ≤ (n + 1 : Nat)} =
              {q | q ∈ Begins (splitLines text) p ∧ q.line ≤ n} := by
            ext q
            refine and_congr_right fun hq => ?_
            have := le_of_mem_begins hq
            omega
          rw [hsame]
          simpa using ih
      | some row =>
          have hsame : {q | q ∈ Begins (splitLines text) p ∧ q.line ≤ (n + 1 : Nat)} =
              {q | q ∈ Begins (splitLines text) p ∧ q.point ≤ ⟨n + 1, row.length⟩} := by
            ext q
            refine and_congr_right ?_
            rintro ⟨l', k', row', hrow', hlt', -, hplace⟩
            have hline : q.line = l' + 1 := congrArg Point.line hplace
            rw [hplace, hline, Point.le_def]
            simp only
            refine ⟨fun hle => ?_, fun hle => by omega⟩
            by_cases hline : l' = n
            · subst hline
              obtain rfl := Option.some.inj (hrow.symm.trans hrow')
              omega
            · omega
          rw [hsame]
          simpa [backwardFrom_cons] using answers_lastStart hlength hrow row.length ih

end Search

namespace Context

open Search

variable (ctx : Context)

/-! ### Forward searches -/

/-- **The nearest match.** A forward search in a document with fewer than `2 ^ 31` characters finds nothing just if no
line has a match where the search looks. Else it answers with the nearest match, at the position of group one if this
takes part in the match and of the start of the match if not, which is not before the one where the search starts.
Only the end of a line of `2 ^ 31 - 1` characters has a column that cannot be named, and is given that of its last
character. -/
theorem searchForward_nearest (hlength : ctx.text.length < 2 ^ 31) (line column : Nat) (p : Pattern) :
    (ctx.searchForward line column p = none ↔
      ∀ l first row, LooksFrom ctx.lines line column l first row → ∀ j, first ≤ j → p.matchAt row j = none) ∧
    ∀ position, ctx.searchForward line column p = some position →
      ⟨line + 1, column + 1⟩ ≤ position.point ∧
      ∃ l k m, Nearest ctx.lines line column p l k m ∧ m.piece.start = k ∧
        position.point = ⟨l + 1, (min (((m.group? 1).getD m.piece).start + 1) Position.limit : Nat)⟩ := by
  have hcases := forwardFrom_cases ctx.lines p (ctx.lines.drop line) line column rfl
  rw [← searchForward] at hcases
  rcases hcases with ⟨l, k, m, hnearest, hfound⟩ | ⟨hfound, hnone⟩
  · have hanswer := hnearest
    obtain ⟨first, row, hlooks, ⟨⟨hk, hmatch⟩, -⟩, hm, -⟩ := hanswer
    have hrow : (Text.splitLines ctx.text)[l]? = some row := ctx.lines_eq ▸ hlooks.getElem?_eq
    have hline := hlooks.line_le
    have hfirst := hlooks.first_eq
    have hlt := hlooks.first_lt
    have hposition := point_ofCounts_of_row hlength hrow (List.length_pos_iff.mp (Nat.zero_lt_of_lt hlt)) (startOf m)
    refine ⟨⟨fun hnone => ?_, fun hall => ?_⟩, fun position hsome => ?_⟩
    · rw [hnone] at hfound
      cases hfound
    · rw [hall l first row hlooks k hk] at hmatch
      cases hmatch
    · obtain rfl := Option.some.inj (hfound.symm.trans hsome)
      refine ⟨?_, l, k, m, hnearest, (Pattern.bounds_of_matchAt hm).1, hposition⟩
      have hstart := (startOf_bounds hm).1
      have hle := line_add_length_le hrow (List.length_pos_iff.mp (Nat.zero_lt_of_lt hlt))
      rw [hposition, Point.le_def]
      -- in the line of the start the search begins at the column of the start, which is one of its characters
      split at hfirst <;> simp only [Position.limit] <;> omega
  · refine ⟨⟨fun _ => hnone, fun _ => hfound⟩, fun position hsome => ?_⟩
    rw [hfound] at hsome
    cases hsome

/-- The name stands in a longer one, and again in the next line. -/
theorem searchForward_nearest_group :
    let ctx := ofText "<q max-size='1'\n size='2'/>".toList
    let p : Pattern := .seq (.one .blank) (.group 1 (.literal "size".toList))
    ctx.text.length < 2 ^ 31 ∧ ctx.searchForward 0 0 p = some ⟨2, 2⟩ ∧ ctx.searchForward 1 1 p = none ∧
      (∀ l first row, LooksFrom ctx.lines 1 1 l first row → ∀ j, first ≤ j → p.matchAt row j = none) ∧
      ∃ l k m, Nearest ctx.lines 0 0 p l k m ∧ m.piece.start = k ∧
        (⟨2, 2⟩ : Position).point = ⟨l + 1, (min (((m.group? 1).getD m.piece).start + 1) Position.limit : Nat)⟩ := by
  intro ctx p
  have hlength : ctx.text.length < 2 ^ 31 := by decide
  have hfound : ctx.searchForward 0 0 p = some ⟨2, 2⟩ := by decide +kernel
  have hnone : ctx.searchForward 1 1 p = none := by decide +kernel
  exact ⟨hlength, hfound, hnone, (ctx.searchForward_nearest hlength 1 1 p).1.mp hnone,
    ((ctx.searchForward_nearest hlength 0 0 p).2 _ hfound).2⟩

/-- The end of a line of `2 ^ 31 - 1` characters has a column that cannot be named. -/
theorem searchForward_end_of_full_line :
    let ctx := ofText (List.replicate Position.limit 'a')
    let p : Pattern := .anchor .textEnd
    ctx.text.length < 2 ^ 31 ∧ ∃ m, Nearest ctx.lines 0 0 p 0 Position.limit m ∧ m.group? 1 = none ∧
      m.piece.start = Position.limit ∧ ∃ position, ctx.searchForward 0 0 p = some position ∧
        position.point ≠ ⟨0 + 1, Position.limit + 1⟩ := by
  intro ctx p
  have hlength : ctx.text.length = Position.limit := List.length_replicate
  have hne : ctx.text ≠ [] := List.ne_nil_of_length_pos (by rw [hlength]; decide)
  have hlines : ctx.lines = [ctx.text] := by
    rw [ctx.lines_eq]
    exact Text.splitLines_of_all_not_isLineEnd hne fun c hmem => by rw [List.eq_of_mem_replicate hmem]; rfl
  have hlooks : LooksFrom ctx.lines 0 0 0 0 ctx.text :=
    ⟨by rw [hlines]; rfl, Nat.le_refl 0, rfl, List.length_pos_iff.mpr hne⟩
  have hleast : IsLeast {j | 0 ≤ j ∧ (p.matchAt ctx.text j).isSome} Position.limit := by
    refine ⟨⟨Nat.zero_le _, ?_⟩, fun j hj => ?_⟩
    · rw [← hlength, Pattern.matchAt_textEnd (Nat.le_refl _), if_pos rfl]
      rfl
    · by_contra hlt
      have hmatch := hj.2
      rw [Pattern.matchAt_textEnd (by omega), if_neg (by omega)] at hmatch
      cases hmatch
  have hm : p.matchAt ctx.text Position.limit = some ⟨⟨Position.limit, Position.limit⟩, []⟩ := by
    rw [← hlength, Pattern.matchAt_textEnd (Nat.le_refl _), if_pos rfl]
  refine ⟨by rw [hlength]; decide, _, ⟨0, ctx.text, hlooks, hleast, hm, fun _ _ _ _ h => absurd h (Nat.not_lt_zero _)⟩,
    rfl, rfl, .ofCounts 0 Position.limit, ?_, ?_⟩
  · rcases forwardFrom_cases ctx.lines p (ctx.lines.drop 0) 0 0 rfl with ⟨l, k, m, hnearest, hfound⟩ | ⟨-, hnone⟩
    · obtain ⟨first, row, hlooks', hleast', hm', -⟩ := hnearest
      have hrow := hlooks'.getElem?_eq
      rw [hlines, List.getElem?_singleton, Option.ite_none_right_eq_some] at hrow
      obtain ⟨rfl, hrow⟩ := hrow
      obtain rfl := Option.some.inj hrow
      obtain rfl := hlooks'.first_eq
      obtain rfl := hleast.unique hleast'
      obtain rfl := Option.some.inj (hm.symm.trans hm')
      exact hfound
    · rw [hnone 0 0 ctx.text hlooks _ (Nat.zero_le _)] at hm
      cases hm
  · rw [Position.point_ofCounts, Ne, Point.mk.injEq, Position.limit]
    omega

/-! ### Backward searches -/

/-- A backward search answers with the greatest position at which a match begins, up to its start. -/
theorem answers_searchBackward (hlength : ctx.text.length < 2 ^ 31) (line column : Nat) (p : Pattern) :
    Answers IsGreatest (ctx.searchBackward line column p)
      {q | q ∈ Begins ctx.lines p ∧ q.point ≤ ⟨line + 1, column + 1⟩} := by
  rw [searchBackward, ctx.lines_eq]
  have hbefore := answers_backwardFrom hlength p line
  cases hrow : (Text.splitLines ctx.text)[line]? with
  | none =>
      have hle := List.getElem?_eq_none_iff.mp hrow
      have hsame : {q | q ∈ Begins (Text.splitLines ctx.text) p ∧ q.point ≤ ⟨line + 1, column + 1⟩} =
          {q | q ∈ Begins (Text.splitLines ctx.text) p ∧ q.line ≤ line} := by
        ext q
        refine and_congr_right fun hq => ?_
        have hline := le_of_mem_begins hq
        rw [Point.le_def]
        simp only [Position.point]
        omega
      rw [hsame]
      exact hbefore
  | some row =>
      have hhere := answers_lastStart hlength hrow (column + 1) hbefore
      dsimp only
      cases hlast : lastStart (.ofPattern p) (column + 1) row with
      | none =>
          rw [hlast] at hhere
          exact hhere
      | some found =>
          rw [hlast] at hhere
          exact hhere

/-- Where later matches do not stand before earlier ones, the nearest match is the one that stands first of those seen. -/
theorem answers_searchForward (hlength : ctx.text.length < 2 ^ 31) (line column : Nat) {p : Pattern} (hp : Ordered p) :
    Answers IsLeast (ctx.searchForward line column p) (SeenFrom ctx.lines p line column) := by
  have hcases := forwardFrom_cases ctx.lines p (ctx.lines.drop line) line column rfl
  rw [← searchForward] at hcases
  rcases hcases with ⟨l, k, m, ⟨first, row, hlooks, ⟨⟨hk, -⟩, hleast⟩, hm, hearlier⟩, hfound⟩ | ⟨hfound, hnone⟩
  · have hrow := hlooks.getElem?_eq
    have hplace := point_ofCounts_of_lt hlength (ctx.lines_eq ▸ hrow) (hp.lt_length hm)
    rw [hfound]
    refine ⟨⟨l, first, row, k, m, hlooks, hk, hm, hplace⟩, ?_⟩
    rintro q ⟨l', first', row', k', m', hlooks', hk', hm', hplace'⟩
    show (Position.ofCounts l (startOf m)).point ≤ q.point
    rw [hplace, hplace', Point.le_def]
    simp only
    rcases Nat.lt_trichotomy l' l with hl' | rfl | hl'
    · rw [hearlier l' first' row' hlooks' hl' k' hk'] at hm'
      cases hm'
    · obtain rfl := Option.some.inj (hrow.symm.trans hlooks'.getElem?_eq)
      obtain rfl := hlooks.first_eq.trans hlooks'.first_eq.symm
      have hle := hp.mono hm hm' (hleast ⟨hk', by rw [hm']; rfl⟩)
      omega
    · omega
  · rw [hfound]
    refine Set.eq_empty_of_forall_notMem ?_
    rintro q ⟨l', first', row', k', m', hlooks', hk', hm', -⟩
    rw [hnone l' first' row' hlooks' k' hk'] at hm'
    cases hm'

/-- **The greatest match start.** In a document with fewer than `2 ^ 31` characters a backward search finds the greatest of
the positions at which a character stands and a match begins, among those up to its start, or among all of them if its line
is past the last one; it finds nothing just if there is none. For a pattern that has no groups and takes a character
whenever it matches, a forward search finds the least such position from its start on, each of the searches begun at a
position that the other one has found finds this position, and no match begins between what the two find from one
start. -/
theorem searchBackward_greatest (hlength : ctx.text.length < 2 ^ 31) (line column : Nat) (p : Pattern) :
    let start : Point := ⟨line + 1, column + 1⟩
    let upToStart : Set Position := {q | q ∈ Begins ctx.lines p ∧ q.point ≤ start}
    let fromStart : Set Position := {q | q ∈ Begins ctx.lines p ∧ start ≤ q.point}
    (∀ position, ctx.searchBackward line column p = some position ↔ IsGreatest upToStart position) ∧
    (ctx.searchBackward line column p = none ↔ upToStart = ∅) ∧
    (ctx.lines.length ≤ line → upToStart = Begins ctx.lines p) ∧
    (p.numbers = [] → (∀ text k m, p.matchAt text k = some m → m.piece.start ≠ m.piece.stop) →
      (∀ position, ctx.searchForward line column p = some position ↔ IsLeast fromStart position) ∧
      (ctx.searchForward line column p = none ↔ fromStart = ∅) ∧
      (∀ position, ctx.searchForward line column p = some position → ctx.searchBackFrom position p = some position) ∧
      (∀ position, ctx.searchBackward line column p = some position → ctx.searchFrom position p = some position) ∧
      ∀ before after, ctx.searchBackward line column p = some before → ctx.searchForward line column p = some after →
        ∀ q ∈ Begins ctx.lines p, q ≤ before ∨ after ≤ q) := by
  intro start upToStart fromStart
  have hback := ctx.answers_searchBackward hlength line column p
  refine ⟨hback.eq_some_iff_isGreatest, hback.eq_none_iff fun _ h => h.1, fun hpast => ?_, fun hnumbers htakes => ?_⟩
  · refine Set.Subset.antisymm (fun q hq => hq.1) fun q hq => ⟨hq, .inl ?_⟩
    have hline := le_of_mem_begins hq
    show q.line < (line : Int) + 1
    omega
  · have hforward : ∀ line column : Nat, Answers IsLeast (ctx.searchForward line column p)
        {q | q ∈ Begins ctx.lines p ∧ ⟨line + 1, column + 1⟩ ≤ q.point} := fun line column =>
      seenFrom_eq hnumbers htakes ▸ ctx.answers_searchForward hlength line column (ordered_of_takes hnumbers htakes)
    refine ⟨(hforward line column).eq_some_iff_isLeast, (hforward line column).eq_none_iff fun _ h => h.1, ?_, ?_, ?_⟩
    · intro position hfound
      have hmem := (((hforward line column).eq_some_iff_isLeast position).mp hfound).1.1
      have ⟨l, k, _, _, _, _, hplace⟩ := hmem
      rw [searchBackFrom, Position.counts?_of_point hplace]
      refine ((ctx.answers_searchBackward hlength l k p).eq_some_iff_isGreatest _).mpr ?_
      rw [← hplace]
      exact ⟨⟨hmem, Position.le_refl _⟩, fun q hq => hq.2⟩
    · intro position hfound
      have hmem := ((hback.eq_some_iff_isGreatest position).mp hfound).1.1
      have ⟨l, k, _, _, _, _, hplace⟩ := hmem
      rw [searchFrom, Position.counts?_of_point hplace]
      refine ((hforward l k).eq_some_iff_isLeast _).mpr ?_
      rw [← hplace]
      exact ⟨⟨hmem, Position.le_refl _⟩, fun q hq => hq.2⟩
    · intro before after hbefore hafter q hq
      rcases Point.le_total q.point start with hle | hle
      · exact .inl (((hback.eq_some_iff_isGreatest before).mp hbefore).2 ⟨hq, hle⟩)
      · exact .inr ((((hforward line column).eq_some_iff_isLeast after).mp hafter).2 ⟨hq, hle⟩)

/-- The pattern stands twice in the first line; the search begins between the two. -/
theorem searchBackward_greatest_between :
    let ctx := ofText "a=1 a=2\nb".toList
    let p := Pattern.literal "a=".toList
    ctx.text.length < 2 ^ 31 ∧ ctx.searchBackward 0 2 p = some ⟨1, 1⟩ ∧ ctx.searchForward 0 2 p = some ⟨1, 5⟩ ∧
      ctx.searchBackward 7 0 p = some ⟨1, 5⟩ ∧
      IsGreatest {q | q ∈ Begins ctx.lines p ∧ q.point ≤ ⟨1, 3⟩} ⟨1, 1⟩ ∧ IsGreatest (Begins ctx.lines p) ⟨1, 5⟩ ∧
      p.numbers = [] ∧ (∀ text k m, p.matchAt text k = some m → m.piece.start ≠ m.piece.stop) ∧
      IsLeast {q | q ∈ Begins ctx.lines p ∧ ⟨1, 3⟩ ≤ q.point} ⟨1, 5⟩ ∧
      ctx.searchBackFrom ⟨1, 5⟩ p = some ⟨1, 5⟩ ∧ ctx.searchFrom ⟨1, 1⟩ p = some ⟨1, 1⟩ ∧
      ∀ q ∈ Begins ctx.lines p, q ≤ ⟨1, 1⟩ ∨ ⟨1, 5⟩ ≤ q := by
  intro ctx p
  have hlength : ctx.text.length < 2 ^ 31 := by decide
  have hback : ctx.searchBackward 0 2 p = some ⟨1, 1⟩ := by decide +kernel
  have hforward : ctx.searchForward 0 2 p = some ⟨1, 5⟩ := by decide +kernel
  have hlast : ctx.searchBackward 7 0 p = some ⟨1, 5⟩ := by decide +kernel
  have hpast : ctx.lines.length ≤ 7 := by decide +kernel
  have htakes : ∀ text k m, p.matchAt text k = some m → m.piece.start ≠ m.piece.stop := fun text k m h =>
    (Pattern.start_lt_stop_of_matchAt (by decide) (by decide) h).ne
  obtain ⟨hgreatest, -, -, hrest⟩ := ctx.searchBackward_greatest hlength 0 2 p
  obtain ⟨hleast, -, hthere, hhere, hbetween⟩ := hrest rfl htakes
  obtain ⟨hgreatest', -, hall, -⟩ := ctx.searchBackward_greatest hlength 7 0 p
  exact ⟨hlength, hback, hforward, hlast, (hgreatest _).mp hback, hall hpast ▸ (hgreatest' _).mp hlast, rfl, htakes,
    (hleast _).mp hforward, hthere _ hforward, hhere _ hback, hbetween _ _ hback hforward⟩

end Context

end XmlDiagnostics
