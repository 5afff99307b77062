import XmlDiagnostics.Handler.Basic
import XmlDiagnostics.Proofs.Context.Searching
import XmlDiagnostics.Proofs.NamespaceScan.Assigned

/-! # Where attributes appear

Handlers look for an attribute in the lines of a document. A key appears in a line where it stands at the beginning of the
line or behind a blank, and an equals sign follows it after blanks (`AppearsIn`), be it in a tag, in a value or in a
text. A forward search for an attribute takes the first appearance of its key that is ahead of its start
(`answers_searchFrom_attribute`).

A key that is written in a text appears there just if a blank or nothing stands before it and an equals sign behind it
in the same line (`positionAt_mem_appears_iff`). So the scan does not see each attribute (`Visible`).

A tag opens in a line where an angle bracket has a character behind it that is none of `/`, `!` and `?`
(`begins_tagPattern`). -/

namespace XmlDiagnostics

open Pattern Automaton Markup Text

namespace Search

/-! ### Appearances -/

/-- A text begins with a key, and an equals sign follows after blanks. -/
def Assigns (key text : List Char) : Prop :=
  ∃ blanks rest, text = key ++ (blanks ++ '=' :: rest) ∧ blanks.all isBlank = true

/-- A text is empty or ends with a blank. -/
def EndsBlank (text : List Char) : Prop := ∀ c, text.getLast? = some c → isBlank c = true

/-- A key appears at a column of a line. -/
def AppearsIn (key row : List Char) (k : Nat) : Prop :=
  ∃ before rest, row = before ++ rest ∧ before.length = k ∧ EndsBlank before ∧ Assigns key rest

/-- The positions at which a key appears in lines. -/
def Appears (lines : List (List Char)) (key : List Char) : Set Position := {position | ∃ (l k : Nat) (row : List Char),
  lines[l]? = some row ∧ AppearsIn key row k ∧ position.point = ⟨l + 1, k + 1⟩}

/-- The appearances that are ahead of a position: those behind it, and the one at it if a line begins there. -/
def Ahead (lines : List (List Char)) (key : List Char) (start : Position) : Set Position :=
  {position | position ∈ Appears lines key ∧ (start < position ∨ (position = start ∧ start.column = 1))}

variable {lines : List (List Char)} {key row : List Char} {k : Nat}

theorem AppearsIn.lt_length (h : AppearsIn key row k) : k < row.length := by
  obtain ⟨before, _, rfl, rfl, -, blanks, rest, rfl, -⟩ := h
  simp only [List.length_append, List.length_cons]
  omega

/-- A key that does not begin with a blank does not appear at two columns next to each other. -/
theorem AppearsIn.not_succ {c : Char} {name : List Char} (hc : isBlank c = false) (h : AppearsIn (c :: name) row k) :
    ¬ AppearsIn (c :: name) row (k + 1) := by
  obtain ⟨before, _, rfl, rfl, -, blanks, rest, rfl, -⟩ := h
  rintro ⟨before', rest', hsplit, hlength, hblank, -⟩
  obtain ⟨rfl, -⟩ : before' = before ++ [c] ∧ rest' = name ++ (blanks ++ '=' :: rest) := by
    refine List.append_inj (hsplit.symm.trans ?_) (by simpa using hlength)
    simp
  rw [hblank c List.getLast?_concat] at hc
  cases hc

/-! ### The pattern of an attribute -/

/-- What the pattern of an attribute matches behind a blank or the beginning of a line. -/
def assignedPattern (key : List Char) : Pattern := seq (group 1 (literal key)) (seq (anyOf .blank) (seq (char '=') empty))

theorem attributePattern_eq (key : String) :
    attributePattern key = seq (alt (anchor .textStart) (one .blank)) (assignedPattern key.toList) := rfl

theorem isSteady_attributePattern (key : String) : (attributePattern key).isSteady = true := by
  have hgroup : (group 1 (literal key.toList)).isSteady = true := isSteady_literal key.toList
  rw [attributePattern_eq, assignedPattern, isSteady, isSteady, hgroup]
  rfl

variable {s o : Spot}

/-- Where a key is assigned, the first way takes it as the group. -/
theorem exists_way_of_assigns (h : Assigns key s.rest) :
    ∃ o, ((assignedPattern key).ways s).head? = some o ∧
      o.groups.closed = (1, ⟨s.index, s.index + key.length⟩) :: s.groups.closed := by
  obtain ⟨blanks, rest, hrest, hblanks⟩ := h
  have hsign := (skips_char '=' rest).seq (skips_empty rest)
  have hrun := ((NamespaceScan.skips_blanks hblanks rfl).seq hsign).takes
  have hall := ((skips_literal key _).group 1).seq hrun
  obtain ⟨o, ho, -, -, hclosed⟩ := hall s (by rw [hrest]; simp)
  exact ⟨o, ho, hclosed⟩

/-- A way is only where a key is assigned. -/
theorem assigns_of_mem_ways (h : o ∈ (assignedPattern key).ways s) : Assigns key s.rest := by
  obtain ⟨text, hrest, -, _, _, rfl, hkey, blanks, _, rfl, hblanks, _, _, rfl, hsign, rfl⟩ := exists_fits_of_mem_ways h
  obtain rfl := fits_literal_iff.mp hkey
  rw [fits_char_iff.mp hsign] at hrest
  refine ⟨blanks, o.rest, by rw [hrest]; simp, List.all_eq_true.mpr ?_⟩
  exact (all_contains_of_fits_many hblanks).1

theorem before_skip_eq_none_iff {n : Nat} (hn : n ≤ s.rest.length) :
    (s.skip n).before = none ↔ n = 0 ∧ s.before = none := by
  induction n generalizing s with
  | zero => simp
  | succ n ih =>
      obtain ⟨c, rest, hrest⟩ := List.exists_cons_of_length_pos (Nat.lt_of_lt_of_le (Nat.succ_pos n) hn)
      rw [hrest, List.length_cons] at hn
      rw [Spot.skip_cons hrest, ih (Nat.le_of_succ_le_succ hn)]
      simp

/-- The ways of the whole pattern: from the beginning of a line, or from behind a blank. -/
theorem ways_attributePattern (key : String) (s : Spot) :
    (attributePattern key).ways s = (if s.before = none then (assignedPattern key.toList).ways s else []) ++
      ((one .blank).ways s).flatMap (assignedPattern key.toList).ways := by
  have halt : (alt (anchor .textStart) (one .blank)).ways s = (anchor .textStart).ways s ++ (one .blank).ways s := rfl
  have hanchor : (anchor .textStart).ways s = if s.before = none then [s] else [] := by
    rw [ways]
    exact if_congr Option.isNone_iff_eq_none rfl rfl
  rw [attributePattern_eq, ways_seq, halt, List.flatMap_append, hanchor]
  split
  · rw [List.flatMap_singleton]
  · rfl

/-! ### Matches -/

theorem endsBlank_nil : EndsBlank [] := fun _ h => by cases h

theorem endsBlank_take {c : Char} (hc : row[k]? = some c) (hblank : isBlank c = true) : EndsBlank (row.take (k + 1)) := by
  intro d hd
  rw [List.take_add_one, hc, Option.toList_some, List.getLast?_concat, Option.some.injEq] at hd
  exact hd ▸ hblank

/-- The spot of a place of a line. -/
theorem startOf_skip (hk : k ≤ row.length) :
    ((Automaton.startOf row).skip k).rest = row.drop k ∧ ((Automaton.startOf row).skip k).index = k :=
  ⟨Spot.rest_skip k _, (Spot.index_skip hk).trans (Nat.zero_add k)⟩

/-- A match stands where its way closes the group first. -/
theorem exists_startOf_of_assigns {t : Spot} (h : Assigns key t.rest) (s : Spot) :
    ∃ o, ((assignedPattern key).ways t).head? = some o ∧ startOf (matchTo s o) = t.index := by
  obtain ⟨o, ho, hclosed⟩ := exists_way_of_assigns h
  refine ⟨o, ho, ?_⟩
  rw [startOf, matchTo, Match.group?, if_neg one_ne_zero, hclosed]
  rfl

/-- **A match is an appearance**: at its place if that is the beginning of the line, else behind it. -/
theorem appearsIn_of_matchAt {key : String} {m : Match} (h : (attributePattern key).matchAt row k = some m) :
    AppearsIn key.toList row (startOf m) ∧ (startOf m = k + 1 ∨ (startOf m = 0 ∧ k = 0)) := by
  obtain ⟨-, hle, hstop, -⟩ := bounds_of_matchAt h
  have hk := hle.trans hstop
  obtain ⟨hrest, hindex⟩ := startOf_skip hk
  rw [matchAt_eq (isSteady_attributePattern key) hk] at h
  generalize hs : (Automaton.startOf row).skip k = s at h hrest hindex
  obtain ⟨o, ho, rfl⟩ := Option.map_eq_some_iff.mp h
  have hfirst : ∀ {t : Spot}, ((assignedPattern key.toList).ways t).head? = some o →
      Assigns key.toList t.rest ∧ startOf (matchTo s o) = t.index := by
    intro t ho
    have hassigns := assigns_of_mem_ways (List.mem_of_head? ho)
    obtain ⟨o', ho', hstart⟩ := exists_startOf_of_assigns hassigns s
    obtain rfl := Option.some.inj (ho.symm.trans ho')
    exact ⟨hassigns, hstart⟩
  rw [ways_attributePattern, List.head?_append] at ho
  rcases Option.or_eq_some_iff.mp ho with ho | ⟨-, ho⟩
  · split at ho
    · rename_i hbefore
      rw [← hs, before_skip_eq_none_iff hk] at hbefore
      obtain ⟨rfl, -⟩ := hbefore
      obtain ⟨hassigns, hstart⟩ := hfirst ho
      rw [hstart, hindex]
      rw [hrest] at hassigns
      exact ⟨⟨[], row, rfl, rfl, endsBlank_nil, hassigns⟩, .inr ⟨rfl, rfl⟩⟩
    · cases ho
  · obtain ⟨t, ht, hmem⟩ := List.mem_flatMap.mp (List.mem_of_head? ho)
    obtain ⟨c, hc, hblank, rfl⟩ := Spot.read?_eq_some_iff.mp (Option.mem_toList.mp ht)
    rw [ways_one_of_contains hc hblank, List.flatMap_singleton] at ho
    obtain ⟨hassigns, hstart⟩ := hfirst ho
    rw [hrest, List.head?_drop] at hc
    obtain ⟨hlt, -⟩ := List.getElem?_eq_some_iff.mp hc
    have hnext : (s.skip 1).index = k + 1 := by
      rw [Spot.index_skip (by rw [hrest, List.length_drop]; omega), hindex]
    rw [Spot.rest_skip, hrest, List.drop_drop] at hassigns
    rw [hstart, hnext]
    refine ⟨⟨row.take (k + 1), row.drop (k + 1), (List.take_append_drop _ _).symm, ?_, endsBlank_take hc hblank, hassigns⟩,
      .inl rfl⟩
    rw [List.length_take]
    omega

/-- What appears at the beginning of a line is matched there. -/
theorem exists_matchAt_of_appearsIn_zero {key : String} (h : AppearsIn key.toList row 0) :
    ∃ m, (attributePattern key).matchAt row 0 = some m ∧ startOf m = 0 := by
  obtain ⟨before, rest, rfl, hbefore, -, hassigns⟩ := h
  obtain rfl := List.length_eq_zero_iff.mp hbefore
  obtain ⟨o, ho, hstart⟩ := exists_startOf_of_assigns (t := Automaton.startOf rest) hassigns (Automaton.startOf rest)
  have hnone : (Automaton.startOf rest).before = none := rfl
  have hway : ((attributePattern key).ways (Automaton.startOf rest)).head? = some o := by
    rw [ways_attributePattern, List.head?_append, if_pos hnone, ho]
    rfl
  refine ⟨matchTo (Automaton.startOf rest) o, ?_, hstart⟩
  rw [List.nil_append, matchAt_eq (isSteady_attributePattern key) (Nat.zero_le _), Spot.skip_zero, hway]
  rfl

/-- What appears further right is matched from the blank before it, if nothing is matched there that appears earlier. -/
theorem exists_matchAt_of_appearsIn_succ {key : String} (h : AppearsIn key.toList row (k + 1)) :
    ∃ m, (attributePattern key).matchAt row k = some m ∧ startOf m ≤ k + 1 := by
  have hlt := h.lt_length
  obtain ⟨before, rest, rfl, hlength, hbefore, hassigns⟩ := h
  obtain ⟨former, c, rfl⟩ : ∃ former c, before = former ++ [c] := by
    rcases List.eq_nil_or_concat before with rfl | ⟨former, c, hconcat⟩
    · cases hlength
    · exact ⟨former, c, hconcat.trans (List.concat_eq_append ..)⟩
  obtain rfl : former.length = k := by simpa using hlength
  have hblank : isBlank c = true := hbefore c (by simp)
  obtain ⟨hrest, -⟩ := startOf_skip (Nat.le_of_succ_le hlt.le)
  generalize hs : (Automaton.startOf (former ++ [c] ++ rest)).skip former.length = s at hrest
  rw [List.append_assoc, List.drop_left] at hrest
  have hone : (one .blank).ways s = [s.skip 1] := ways_one_of_contains (by rw [hrest]; rfl) hblank
  obtain ⟨o, ho, -⟩ := exists_way_of_assigns (s := s.skip 1) (by rw [Spot.rest_skip_cons hrest]; exact hassigns)
  have hways : (attributePattern key).ways s ≠ [] := by
    rw [ways_attributePattern, hone, List.flatMap_singleton]
    exact List.append_ne_nil_of_right_ne_nil _ (List.ne_nil_of_mem (List.mem_of_head? ho))
  obtain ⟨m, hm⟩ : ∃ m, (attributePattern key).matchAt (former ++ [c] ++ rest) former.length = some m := by
    refine Option.isSome_iff_exists.mp ?_
    rw [matchAt_eq (isSteady_attributePattern key) (Nat.le_of_succ_le hlt.le), hs, Option.isSome_map, List.isSome_head?]
    simpa using hways
  refine ⟨m, hm, ?_⟩
  rcases (appearsIn_of_matchAt hm).2 with hstart | ⟨hstart, -⟩ <;> omega

theorem ordered_attributePattern (key : String) : Ordered (attributePattern key) where
  lt_length := fun hm => (appearsIn_of_matchAt hm).1.lt_length
  mono := by
    intro row k k' m m' hm hm' hle
    rcases Nat.eq_zero_or_pos k' with rfl | hpos
    · obtain rfl := Nat.le_zero.mp hle
      obtain rfl := Option.some.inj (hm.symm.trans hm')
      exact Nat.le_refl _
    · have hstart := (appearsIn_of_matchAt hm).2
      have hstart' := (appearsIn_of_matchAt hm').2
      omega

/-! ### Searches -/

/-- The least positions of a set are those of a larger one in which none comes before all of the set. -/
theorem Answers.of_subset {found : Option Position} {s t : Set Position} (h : Answers IsLeast found s) (hsub : s ⊆ t)
    (hbelow : ∀ q ∈ t, ∃ q' ∈ s, q' ≤ q) : Answers IsLeast found t := by
  cases found with
  | none =>
      refine Set.eq_empty_of_forall_notMem fun q hq => ?_
      obtain ⟨q', hq', -⟩ := hbelow q hq
      rw [show s = ∅ from h] at hq'
      exact hq'
  | some position =>
      refine ⟨hsub h.1, fun q hq => ?_⟩
      obtain ⟨q', hq', hle⟩ := hbelow q hq
      exact Position.le_trans (h.2 hq') hle

/-- What a search sees of an attribute are appearances ahead of its start. -/
theorem seenFrom_attributePattern_subset (lines : List (List Char)) (key : String) {line column : Nat}
    {start : Position} (hstart : start.point = ⟨line + 1, column + 1⟩) :
    SeenFrom lines (attributePattern key) line column ⊆ Ahead lines key.toList start := by
  rintro q ⟨l, first, row, k, m, hlooks, hk, hm, hplace⟩
  obtain ⟨happears, hstarts⟩ := appearsIn_of_matchAt hm
  refine ⟨⟨l, startOf m, row, hlooks.getElem?_eq, happears, hplace⟩, ?_⟩
  have hle := hlooks.le hk
  rw [Point.le_def] at hle
  rw [← Position.point_inj, hplace, hstart, Point.mk.injEq]
  simp only [Position.point, Point.mk.injEq] at hplace hstart
  rw [Position.lt_def]
  simp only at hle ⊢
  omega

/-- Of the appearances ahead of its start a search sees each, or an earlier one. -/
theorem exists_seenFrom_attributePattern {key : String} {line column : Nat} {start q : Position}
    (hstart : start.point = ⟨line + 1, column + 1⟩) (hq : q ∈ Ahead lines key.toList start) :
    ∃ q' ∈ SeenFrom lines (attributePattern key) line column, q' ≤ q := by
  obtain ⟨⟨l, k, row, hrow, happears, hplace⟩, hahead⟩ := hq
  have hlt := happears.lt_length
  have hbehind : (⟨line + 1, column + 1⟩ : Point) ≤ ⟨l + 1, (k - 1 : Nat) + 1⟩ := by
    rw [← Position.point_inj, hplace, hstart, Point.mk.injEq, Position.lt_def] at hahead
    simp only [Position.point, Point.mk.injEq] at hplace hstart
    rw [Point.le_def]
    simp only
    omega
  obtain ⟨first, hlooks, hfirst⟩ := looksFrom_of_le hrow (Nat.lt_of_le_of_lt (Nat.sub_le k 1) hlt) hbehind
  obtain ⟨m, hm, hstarts⟩ : ∃ m, (attributePattern key).matchAt row (k - 1) = some m ∧ startOf m ≤ k := by
    cases k with
    | zero =>
        obtain ⟨m, hm, hstarts⟩ := exists_matchAt_of_appearsIn_zero happears
        exact ⟨m, hm, hstarts.le⟩
    | succ k => exact exists_matchAt_of_appearsIn_succ happears
  have hplace' := Position.point_ofCounts_of_le hplace hstarts
  refine ⟨_, ⟨l, first, row, k - 1, m, hlooks, hfirst, hm, hplace'⟩, ?_⟩
  show (Position.ofCounts l (startOf m)).point ≤ q.point
  rw [hplace', hplace]
  refine .inr ⟨rfl, ?_⟩
  show (startOf m : Int) + 1 ≤ k + 1
  omega

/-! ### The first appearance, or the start -/

section first

variable {start : Position} {found : Option Position}

theorem isPlace_of_mem_appears {q : Position} (h : q ∈ Appears lines key) : q.IsPlace := by
  obtain ⟨l, k, row, -, -, hplace⟩ := h
  exact ⟨l, k, hplace⟩

theorem start_le_of_mem_ahead {q : Position} (h : q ∈ Ahead lines key start) : start ≤ q := by
  rcases h.2 with hlt | ⟨rfl, -⟩
  · rw [Position.lt_def] at hlt
    rw [Position.le_def]
    omega
  · exact Position.le_refl _

theorem mem_ahead_iff_of_lt {q : Position} (h : start < q) : q ∈ Ahead lines key start ↔ q ∈ Appears lines key :=
  and_iff_left (.inl h)

theorem start_le_getD (h : Answers IsLeast found (Ahead lines key start)) : start ≤ found.getD start := by
  cases found with
  | none => exact Position.le_refl start
  | some q => exact start_le_of_mem_ahead h.1

theorem getD_eq_start_iff (h : Answers IsLeast found (Ahead lines key start)) :
    found.getD start = start ↔ Ahead lines key start = ∅ ∨ start ∈ Ahead lines key start := by
  cases found with
  | none => exact iff_of_true rfl (.inl h)
  | some q =>
      constructor
      · intro heq
        obtain rfl : q = start := heq
        exact .inr h.1
      · rintro (hnone | hmem)
        · have hq := h.1
          rw [hnone] at hq
          exact absurd hq (Set.notMem_empty q)
        · exact Position.le_antisymm (h.2 hmem) (start_le_of_mem_ahead h.1)

theorem getD_eq_iff_of_lt (h : Answers IsLeast found (Ahead lines key start)) {q : Position} (hq : start < q) :
    found.getD start = q ↔ IsLeast (Ahead lines key start) q := by
  rw [← h.eq_some_iff_isLeast q]
  cases found with
  | none =>
      refine iff_of_false (fun heq => ?_) fun hsome => by cases hsome
      rw [← heq, Option.getD_none, Position.lt_def] at hq
      omega
  | some q' => exact Option.some_inj.symm

theorem getD_lt_iff (h : Answers IsLeast found (Ahead lines key start)) {stop : Position} (hstop : start < stop) :
    found.getD start < stop ↔ Ahead lines key start = ∅ ∨ ∃ q ∈ Ahead lines key start, q < stop := by
  cases found with
  | none => exact iff_of_true hstop (.inl h)
  | some q =>
      refine ⟨fun hlt => .inr ⟨q, h.1, hlt⟩, ?_⟩
      rintro (hnone | ⟨q', hq', hlt⟩)
      · have hq := h.1
        rw [hnone] at hq
        exact absurd hq (Set.notMem_empty q)
      · have hle := h.2 hq'
        rw [Position.le_def] at hle
        rw [Position.lt_def] at hlt ⊢
        rw [Option.getD_some]
        omega

end first

/-! ### Appearances of a written key -/

theorem isBlank_of_isLineEnd {c : Char} (h : isLineEnd c = true) : isBlank c = true := by
  rw [isLineEnd, Bool.or_eq_true, decide_eq_true_eq, decide_eq_true_eq] at h
  rcases h with rfl | rfl <;> rfl

/-- What stands before a place in its line ends with a blank if it does so in the text. -/
theorem endsBlank_lineUpTo_iff {before : List Char} : EndsBlank (lineUpTo before) ↔ EndsBlank before := by
  obtain ⟨former, hbefore, hformer⟩ := exists_lineEnd_before before
  cases hline : lineUpTo before with
  | nil =>
      refine iff_of_true endsBlank_nil fun c hc => ?_
      rw [hline, List.append_nil] at hbefore
      rcases hformer with rfl | ⟨more, d, rfl, hd⟩
      · rw [hbefore] at hc
        cases hc
      · rw [hbefore, List.getLast?_concat, Option.some.injEq] at hc
        exact hc ▸ isBlank_of_isLineEnd hd
  | cons c line =>
      have hlast : before.getLast? = (c :: line).getLast? := by
        rw [hbefore, hline, List.getLast?_append_of_ne_nil _ (List.cons_ne_nil c line)]
      rw [EndsBlank, EndsBlank, hlast]

/-- **A written key appears** just if a blank or nothing stands before it, and behind it blanks of its line and an equals
sign. -/
theorem positionAt_mem_appears_iff {text before key more : List Char} (hlength : text.length < 2 ^ 31)
    (htext : text = before ++ (key ++ more)) (hne : key ≠ []) (hkey : ∀ c ∈ key, isLineEnd c = false) :
    positionAt text (byteLength before) ∈ Appears (splitLines text) key ↔ EndsBlank before ∧
      ∃ blanks rest, more = blanks ++ '=' :: rest ∧ ∀ c ∈ blanks, isBlank c = true ∧ isLineEnd c = false := by
  obtain ⟨c, name, rfl⟩ := List.exists_cons_of_ne_nil hne
  obtain ⟨hc, hname⟩ := List.forall_mem_cons.mp hkey
  rw [List.cons_append] at htext
  obtain ⟨l, hcounts, hrow⟩ := exists_line htext hc
  have hposition := positionAt_of_countsAt hlength htext hcounts
  have htake : (name ++ more).takeWhile (fun d => !isLineEnd d) = name ++ more.takeWhile fun d => !isLineEnd d :=
    List.takeWhile_append_of_pos fun d hd => by rw [hname d hd]; rfl
  rw [htake] at hrow
  rw [← endsBlank_lineUpTo_iff]
  constructor
  · rintro ⟨l', k', row, hrow', ⟨former, rest, rfl, hlength', hblank, blanks, after, hrest, hblanks⟩, heq⟩
    rw [hposition, Point.mk.injEq] at heq
    obtain rfl : l = l' := by omega
    have hsplit := Option.some.inj (hrow.symm.trans hrow')
    obtain ⟨rfl, hbehind⟩ := List.append_inj hsplit (by omega)
    rw [hrest, List.cons_append, List.cons.injEq] at hbehind
    have hline := List.append_cancel_left hbehind.2
    refine ⟨hblank, blanks, after ++ more.dropWhile fun d => !isLineEnd d, ?_, fun d hd => ⟨?_, ?_⟩⟩
    · conv => lhs; rw [← List.takeWhile_append_dropWhile (p := fun d => !isLineEnd d) (l := more), hline]
      simp
    · exact List.all_eq_true.mp hblanks d hd
    · have hmem : d ∈ more.takeWhile fun d => !isLineEnd d := by
        rw [hline]
        exact List.mem_append_left _ hd
      simpa using List.mem_takeWhile_imp hmem
  · rintro ⟨hblank, blanks, rest, rfl, hblanks⟩
    refine ⟨l, (lineUpTo before).length, _, hrow, ⟨lineUpTo before, _, rfl, rfl, hblank, blanks,
      rest.takeWhile fun d => !isLineEnd d, ?_, List.all_eq_true.mpr fun d hd => (hblanks d hd).1⟩, hposition⟩
    rw [List.takeWhile_append_of_pos fun d hd => by rw [(hblanks d hd).2]; rfl]
    rfl

/-- The scan can see an attribute: a blank is before it, or nothing, and the equals sign follows in the same line. -/
def Visible {text : List Char} {raw : RawAttribute} (place : AttributeAt text raw) : Prop :=
  EndsBlank place.before ∧ ∀ c ∈ place.beforeSign, isLineEnd c = false

/-- The place of an attribute is an appearance of its key just if the scan can see it. -/
theorem positionAt_mem_appears_attribute {text : List Char} {raw : RawAttribute} (place : AttributeAt text raw)
    (hlength : text.length < 2 ^ 31) (hkey : ∀ c ∈ raw.key, isSeparator c = false) :
    positionAt text (byteLength place.before) ∈ Appears (splitLines text) raw.key ↔ Visible place := by
  have hends : ∀ c ∈ raw.key, isLineEnd c = false := by
    intro c hc
    by_contra hend
    rcases isSeparator_of_isLineEnd (Bool.not_eq_false _ ▸ hend) with rfl | rfl | rfl | rfl <;> cases hkey _ hc
  obtain ⟨c, more, hcons, -⟩ := place.not_isSeparator_head_key
  rw [positionAt_mem_appears_iff hlength place.text_eq (by rw [hcons]; exact List.cons_ne_nil c more) hends, Visible]
  refine and_congr_right fun _ => ⟨?_, fun h => ?_⟩
  · rintro ⟨blanks, rest, heq, hblanks⟩ c hc
    -- neither of the two runs before the sign holds an equals sign
    have hsign : '=' ∉ place.beforeSign := fun hmem => by cases List.all_eq_true.mp place.all_isSeparator_beforeSign _ hmem
    have hsign' : '=' ∉ blanks := fun hmem => by cases (hblanks _ hmem).1
    have hrun : ∀ {run : List Char} (more : List Char), '=' ∉ run → (run ++ '=' :: more).takeWhile (· ≠ '=') = run := by
      intro run more hnot
      have hne : ∀ d ∈ run, decide (d ≠ '=') = true := fun d hd => decide_eq_true (ne_of_mem_of_not_mem hd hnot)
      rw [List.takeWhile_append_of_pos hne]
      simp
    obtain rfl : place.beforeSign = blanks := by rw [← hrun _ hsign, heq, hrun rest hsign']
    exact (hblanks c hc).2
  · refine ⟨place.beforeSign, _, rfl, fun c hc => ⟨?_, h c hc⟩⟩
    exact isBlank_of_isSeparator (List.all_eq_true.mp place.all_isSeparator_beforeSign c hc)

section placed

variable {text : List Char} {raw : RawAttribute} {place : AttributeAt text raw} {start : Position} {found : Option Position}

/-- An attribute is ahead of what comes before it just if the scan can see it. -/
theorem mem_ahead_attribute_iff (hlength : text.length < 2 ^ 31) (hkey : ∀ c ∈ raw.key, isSeparator c = false)
    (hafter : start < positionAt text (byteLength place.before)) :
    positionAt text (byteLength place.before) ∈ Ahead (splitLines text) raw.key start ↔ Visible place :=
  (mem_ahead_iff_of_lt hafter).trans (positionAt_mem_appears_attribute place hlength hkey)

/-- A search takes an attribute just if the scan can see it and the key does not appear ahead of it. -/
theorem getD_eq_attribute_iff (hlength : text.length < 2 ^ 31) (hkey : ∀ c ∈ raw.key, isSeparator c = false)
    (h : Answers IsLeast found (Ahead (splitLines text) raw.key start))
    (hafter : start < positionAt text (byteLength place.before)) :
    found.getD start = positionAt text (byteLength place.before) ↔ Visible place ∧
      ∀ q ∈ Ahead (splitLines text) raw.key start, positionAt text (byteLength place.before) ≤ q := by
  rw [getD_eq_iff_of_lt h hafter, IsLeast, mem_ahead_attribute_iff hlength hkey hafter]
  rfl

end placed

/-! ### Tags that open -/

/-- The positions of the angle brackets that open a tag, as far as one character behind them tells. -/
def Opens (lines : List (List Char)) : Set Position := {position | ∃ (l k : Nat) (row : List Char) (c : Char),
  lines[l]? = some row ∧ row[k]? = some '<' ∧ row[k + 1]? = some c ∧ c ∉ ['/', '!', '?'] ∧
    position.point = ⟨l + 1, k + 1⟩}

theorem isPlace_of_mem_opens {q : Position} (h : q ∈ Opens lines) : q.IsPlace := by
  obtain ⟨l, k, row, c, -, -, -, -, hplace⟩ := h
  exact ⟨l, k, hplace⟩

theorem isSteady_tagPattern : tagPattern.isSteady = true := by decide

theorem contains_tagRest {c : Char} :
    (CharSet.complement (.ofList ['/', '!', '?'])).contains c = true ↔ c ∉ ['/', '!', '?'] := by
  rw [CharSet.contains, Bool.not_eq_true', ← Bool.not_eq_true, CharSet.contains_ofList]

theorem isSome_matchAt_tagPattern (hk : k ≤ row.length) :
    (tagPattern.matchAt row k).isSome = true ↔ ∃ c rest, row.drop k = '<' :: c :: rest ∧ c ∉ ['/', '!', '?'] := by
  rw [matchAt_eq isSteady_tagPattern hk, Option.isSome_map, List.isSome_head?]
  have hrest := (startOf_skip hk).1
  constructor
  · intro h
    obtain ⟨o, ho⟩ := List.exists_mem_of_ne_nil _ (by simpa using h)
    obtain ⟨_, hdrop, -, _, _, rfl, hbracket, c, rfl, hc⟩ := exists_fits_of_mem_ways ho
    rw [fits_char_iff.mp hbracket, hrest] at hdrop
    exact ⟨c, o.rest, hdrop, contains_tagRest.mp hc⟩
  · rintro ⟨c, rest, hdrop, hc⟩
    have hall := (skips_char '<' ([c] ++ rest)).seq (skips_one (contains_tagRest.mpr hc) rest)
    have hfirst := hall _ (hrest.trans hdrop)
    have hne : tagPattern.ways ((Automaton.startOf row).skip k) ≠ [] := List.ne_nil_of_mem (List.mem_of_head? hfirst)
    simpa using hne

/-- **A tag opens** where its pattern matches. -/
theorem begins_tagPattern (lines : List (List Char)) : Begins lines tagPattern = Opens lines := by
  ext q
  constructor
  · rintro ⟨l, k, row, hrow, hlt, hmatch, hplace⟩
    obtain ⟨c, rest, hdrop, hc⟩ := (isSome_matchAt_tagPattern hlt.le).mp hmatch
    have hget : ∀ i, row[k + i]? = ('<' :: c :: rest)[i]? := fun i => by rw [← hdrop, List.getElem?_drop]
    exact ⟨l, k, row, c, hrow, hget 0, hget 1, hc, hplace⟩
  · rintro ⟨l, k, row, c, hrow, hbracket, hnext, hc, hplace⟩
    obtain ⟨hlt, hget⟩ := List.getElem?_eq_some_iff.mp hbracket
    obtain ⟨hlt', hget'⟩ := List.getElem?_eq_some_iff.mp hnext
    refine ⟨l, k, row, hrow, hlt, (isSome_matchAt_tagPattern hlt.le).mpr ⟨c, row.drop (k + 2), ?_, hc⟩, hplace⟩
    rw [List.drop_eq_getElem_cons hlt, List.drop_eq_getElem_cons hlt', hget, hget']

/-- A tag that is written in a text opens there. -/
theorem positionAt_mem_opens {text before rest : List Char} {c : Char} (hlength : text.length < 2 ^ 31)
    (htext : text = before ++ '<' :: c :: rest) (hc : c ∉ ['/', '!', '?']) (hend : isLineEnd c = false) :
    positionAt text (byteLength before) ∈ Opens (splitLines text) := by
  obtain ⟨l, hcounts, hrow⟩ := exists_line htext (by decide)
  rw [List.takeWhile_cons_of_pos (by rw [hend]; rfl)] at hrow
  refine ⟨l, (lineUpTo before).length, _, c, hrow, ?_, ?_, hc, positionAt_of_countsAt hlength htext hcounts⟩
  · rw [List.getElem?_append_right (Nat.le_refl _), Nat.sub_self]
    rfl
  · rw [List.getElem?_append_right (Nat.le_add_right _ 1), Nat.add_sub_cancel_left]
    rfl

end Search

namespace Context

open Search

/-- **A search for an attribute** takes the first appearance of its key that is ahead of its start. -/
theorem answers_searchFrom_attribute (ctx : Context) (hlength : ctx.text.length < 2 ^ 31) (key : String)
    {start : Position} (hstart : start.IsPlace) :
    Answers IsLeast (ctx.searchFrom start (attributePattern key)) (Ahead ctx.lines key.toList start) := by
  obtain ⟨l, k, hplace⟩ := hstart
  rw [searchFrom, Position.counts?_of_point hplace]
  exact (ctx.answers_searchForward hlength l k (ordered_attributePattern key)).of_subset
    (seenFrom_attributePattern_subset ctx.lines key hplace) fun _ hq => exists_seenFrom_attributePattern hplace hq

end Context

end XmlDiagnostics
