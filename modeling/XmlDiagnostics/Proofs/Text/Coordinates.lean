import XmlDiagnostics.Proofs.Position
import XmlDiagnostics.Proofs.Text.Places

/-! # One coordinate system

The walker gives positions by octets (`positionIn`), the report looks at lines (`splitLines`).
`coordinates_agree`: in a text with fewer than `2 ^ 31` characters

* the position of a character that is no line end names the line and the column where `splitLines` has it,
  and every character of every line is so named by exactly one octet at which a character begins
  (`exists_begin_of_inLines`);
* a later character has a later position (`BeginsAt.positionAt_lt`), and the end of the text has a later one than each
  character (`BeginsAt.positionAt_lt_end`), but for two kinds of texts;
* the octets inside a character have its position, those behind the text the position of its end; so octets are in
  the order of their positions if no character reaches from one to the other (`positionAt_lt_of_add_four_le`).

The two kinds (`Full`) are a line of `2 ^ 31 - 1` characters and as many empty lines: behind the last of them there is no
column or no line that a position could name, and the end of the text has the position of its last character
(`Full.positionAt_end`). -/

namespace XmlDiagnostics.Text

variable {text before rest : List Char} {c : Char} {l k : Nat}

/-- A character of a text and the octet at which it begins. -/
def BeginsAt (text : List Char) (o : Nat) (c : Char) : Prop :=
  ∃ before rest, text = before ++ c :: rest ∧ byteLength before = o

/-- The character of a line of a text, both counted from zero. -/
def InLines (text : List Char) (l k : Nat) (c : Char) : Prop := ∃ cs, (splitLines text)[l]? = some cs ∧ cs[k]? = some c

/-- Fewer lines before a place, or as many and fewer columns. -/
def CountsLT (p q : Nat × Nat) : Prop := p.1 < q.1 ∨ (p.1 = q.1 ∧ p.2 < q.2)

theorem CountsLT.trans_le {p q r : Nat × Nat} (h₁ : CountsLT p q) (h₂ : CountsLE q r) : CountsLT p r := by
  unfold CountsLT CountsLE at *
  omega

/-! ### Later boundaries -/

/-- A character moves the place by a line or by a column. -/
theorem countsLT_countsAt_of_ne_nil (line column : Nat) {between : List Char} (h : between ≠ []) (rest : List Char) :
    CountsLT (line, column) (countsAt line column (byteLength between) (between ++ rest)) := by
  obtain ⟨c, between, rfl⟩ := List.exists_cons_of_ne_nil h
  have hc : ¬ c.utf8Size + byteLength between < c.utf8Size := by omega
  rw [byteLength, List.cons_append, countsAt, if_neg hc]
  split
  · have hline : CountsLT (line, column) (line + 1, 0) := .inl (Nat.lt_succ_self line)
    exact hline.trans_le (countsLE_countsAt ..)
  · have hcolumn : CountsLT (line, column) (line, column + 1) := .inr ⟨rfl, Nat.lt_succ_self column⟩
    exact hcolumn.trans_le (countsLE_countsAt ..)

theorem countsLT_countsAt (line column : Nat) (before : List Char) {between : List Char} (h : between ≠ [])
    (rest : List Char) :
    CountsLT (countsAt line column (byteLength before) (before ++ (between ++ rest)))
      (countsAt line column (byteLength (before ++ between)) (before ++ (between ++ rest))) := by
  rw [byteLength_append, countsAt_append]
  exact countsLT_countsAt_of_ne_nil _ _ h rest

/-- Places whose lines and columns can be named have their own positions. -/
theorem ofCounts_lt_ofCounts {p q : Nat × Nat} (h : CountsLT p q) (hp : p.1 + p.2 < Position.limit)
    (hline : q.1 < Position.limit) (hcolumn : q.2 < Position.limit) :
    Position.ofCounts p.1 p.2 < Position.ofCounts q.1 q.2 := by
  change (Position.ofCounts p.1 p.2).point < (Position.ofCounts q.1 q.2).point
  rw [Position.point_ofCounts, Position.point_ofCounts, Point.lt_def]
  simp only [CountsLT] at *
  omega

/-- **Later boundaries** have later positions, as long as these can be named. -/
theorem positionAt_lt (before : List Char) {between : List Char} (h : between ≠ []) (rest : List Char)
    (hlength : (before ++ between).length < Position.limit) :
    positionAt (before ++ (between ++ rest)) (byteLength before) <
      positionAt (before ++ (between ++ rest)) (byteLength (before ++ between)) := by
  have hp := counts_le_length 0 0 before (between ++ rest)
  have hq := counts_le_length 0 0 (before ++ between) rest
  rw [List.append_assoc] at hq
  rw [List.length_append] at hlength hq
  apply ofCounts_lt_ofCounts (countsLT_countsAt 0 0 before h rest)
  · omega
  · omega
  · omega

/-! ### Offsets between boundaries -/

theorem countsAt_inside (line column : Nat) (before : List Char) {i : Nat} (hi : i < c.utf8Size) (rest : List Char) :
    countsAt line column (byteLength before + i) (before ++ c :: rest) =
      countsAt line column (byteLength before) (before ++ c :: rest) := by
  rw [countsAt_append, countsAt, if_pos hi]

theorem countsAt_end (line column : Nat) {o : Nat} (h : byteLength text ≤ o) :
    countsAt line column o text = countsAt line column (byteLength text) text := by
  have hsplit := countsAt_append line column (o - byteLength text) text []
  rw [Nat.add_sub_cancel' h, List.append_nil, countsAt] at hsplit
  exact hsplit

/-! ### From lines to offsets -/

theorem InLines.of_lineEnd (h : InLines text l k c) (hlines : splitLines text = [] :: splitLines rest) :
    ∃ l', l = l' + 1 ∧ InLines rest l' k c := by
  obtain ⟨line, hline, hk⟩ := h
  rw [hlines] at hline
  cases l with
  | zero =>
      obtain rfl : [] = line := by simpa using hline
      cases hk
  | succ l => exact ⟨l, rfl, line, by simpa using hline, hk⟩

theorem InLines.of_consFirst {d : Char} (h : InLines text l k c) (hlines : splitLines text = consFirst d (splitLines rest)) :
    (l = 0 ∧ k = 0 ∧ c = d) ∨ ∃ k', InLines rest l k' c ∧ k = if l = 0 then 1 + k' else k' := by
  obtain ⟨line, hline, hk⟩ := h
  rw [hlines] at hline
  cases l with
  | zero =>
      have hfirst : line = d :: (splitLines rest).headD [] := by
        rw [← List.head?_eq_getElem?, head?_consFirst, Option.some.injEq] at hline
        exact hline.symm
      subst hfirst
      cases k with
      | zero => exact .inl ⟨rfl, rfl, by simpa using hk.symm⟩
      | succ k =>
          cases hrest : splitLines rest with
          | nil =>
              rw [hrest] at hk
              simp at hk
          | cons first lines =>
              rw [hrest] at hk
              refine .inr ⟨k, ⟨first, by simp [hrest], by simpa using hk⟩, ?_⟩
              simp [Nat.add_comm]
  | succ l =>
      cases hrest : splitLines rest with
      | nil =>
          rw [hrest] at hline
          simp [consFirst] at hline
      | cons first lines =>
          rw [hrest] at hline
          refine .inr ⟨k, ⟨line, ?_, hk⟩, by simp⟩
          rw [hrest]
          simpa [consFirst] using hline

/-- **Every character of every line** stands in the text, is no line end, and its place is counted for the
octets before it. -/
theorem exists_begin_of_inLines (h : InLines text l k c) :
    isLineEnd c = false ∧
      ∃ before rest, text = before ++ c :: rest ∧ countsAt 0 0 (byteLength before) text = (l, k) := by
  -- along the recursion of `splitLines`; what stands in front of the rest of the text moves its places
  induction text using splitLines.induct generalizing l k with
  | case1 =>
      obtain ⟨line, hline, -⟩ := h
      cases hline
  | case2 rest ih =>
      obtain ⟨l, rfl, hrest⟩ := h.of_lineEnd rfl
      obtain ⟨hc, before, after, rfl, hcounts⟩ := ih hrest
      refine ⟨hc, '\r' :: '\n' :: before, after, rfl, ?_⟩
      rw [byteLength, byteLength, countsAt_pair, countsAt_line, hcounts, Nat.zero_add, Nat.add_comm]
  | case3 d rest hpair hd ih =>
      have hend : isLineEnd d = true := by simpa [isLineEnd] using hd
      have hnext : d = '\r' → rest.head? ≠ some '\n' := by
        rintro rfl hn
        obtain ⟨rest, rfl⟩ := List.head?_eq_some_iff.mp hn
        exact hpair rest rfl rfl
      obtain ⟨l, rfl, hrest⟩ := h.of_lineEnd (splitLines_cons_of_isLineEnd hend hnext)
      obtain ⟨hc, before, after, rfl, hcounts⟩ := ih hrest
      refine ⟨hc, d :: before, after, rfl, ?_⟩
      rw [byteLength, countsAt_cons_of_isLineEnd _ _ _ hend hnext, countsAt_line, hcounts, Nat.zero_add, Nat.add_comm]
  | case4 d rest hpair hd ih =>
      have hend : isLineEnd d = false := by simpa [isLineEnd] using hd
      rcases h.of_consFirst (splitLines_cons_of_not_isLineEnd hend rest) with ⟨rfl, rfl, rfl⟩ | ⟨k', hrest, rfl⟩
      · exact ⟨hend, [], rest, rfl, countsAt_zero ..⟩
      · obtain ⟨hc, before, after, rfl, hcounts⟩ := ih hrest
        refine ⟨hc, d :: before, after, rfl, ?_⟩
        rw [byteLength, countsAt_cons_of_not_isLineEnd _ _ _ hend, countsAt_eq_add, hcounts, Nat.zero_add, Nat.zero_add]

/-! ### The two agree -/

/-- The counts before a character can be named. -/
theorem positionAt_of_countsAt (hlength : text.length < 2 ^ 31) (htext : text = before ++ c :: rest)
    (hcounts : countsAt 0 0 (byteLength before) text = (l, k)) :
    (positionAt text (byteLength before)).point = ⟨l + 1, k + 1⟩ := by
  have hle := counts_le_length 0 0 before (c :: rest)
  rw [← htext, hcounts] at hle
  rw [htext, List.length_append, List.length_cons] at hlength
  rw [positionAt, hcounts, Position.point_ofCounts, Point.mk.injEq, Position.limit]
  omega

theorem inLines_of_beginsAt (hlength : text.length < 2 ^ 31) {o : Nat} (h : BeginsAt text o c)
    (hc : isLineEnd c = false) :
    ∃ l k : Nat, (positionAt text o).point = ⟨l + 1, k + 1⟩ ∧ InLines text l k c := by
  obtain ⟨before, rest, htext, rfl⟩ := h
  obtain ⟨l, k, -, -, hposition, -, hplace⟩ := exists_place hlength htext hc
  refine ⟨l, k, hposition, ?_⟩
  obtain ⟨line, hline, hdrop⟩ := Option.map_eq_some_iff.mp hplace
  refine ⟨line, hline, ?_⟩
  rw [← Nat.add_zero k, ← List.getElem?_drop, hdrop]
  rfl

theorem BeginsAt.positionAt_lt (hlength : text.length < 2 ^ 31) {o o' : Nat} {c' : Char} (h : BeginsAt text o c)
    (h' : BeginsAt text o' c') (hlt : o < o') : positionAt text o < positionAt text o' := by
  obtain ⟨before, rest, rfl, rfl⟩ := h
  obtain ⟨before', rest', htext, rfl⟩ := h'
  rcases List.append_eq_append_iff.mp htext with ⟨between, rfl, hbetween⟩ | ⟨between, rfl, -⟩
  · have hne : between ≠ [] := by
      rintro rfl
      simp at hlt
    rw [hbetween] at hlength ⊢
    apply Text.positionAt_lt before hne
    simp only [List.length_append, List.length_cons, Position.limit] at hlength ⊢
    omega
  · rw [byteLength_append] at hlt
    omega

/-! ### The end -/

theorem length_splitLines_le (text : List Char) : (splitLines text).length ≤ text.length := by
  induction text using splitLines.induct with
  | case1 => exact Nat.le_refl _
  | case2 rest ih => exact Nat.succ_le_succ (Nat.le_succ_of_le ih)
  | case3 c rest hpair hc ih =>
      have hnext : c = '\r' → rest.head? ≠ some '\n' := fun hcr hhead =>
        (List.head?_eq_some_iff.mp hhead).elim fun rest' hrest => hpair rest' hcr hrest
      rw [splitLines_cons_of_isLineEnd (by simpa [isLineEnd] using hc) hnext]
      exact Nat.succ_le_succ ih
  | case4 c rest hpair hc ih =>
      rw [splitLines_cons_of_not_isLineEnd (by simpa [isLineEnd] using hc)]
      cases hlines : splitLines rest with
      | nil => exact Nat.succ_le_succ (Nat.zero_le _)
      | cons line lines =>
          rw [hlines] at ih
          exact Nat.le_succ_of_le ih

/-- Every character of a text ends a line just if all its lines are empty and no line end takes two characters. -/
theorem lines_end_eq_length_iff : (countsAt 0 0 (byteLength text) text).1 = text.length ↔
    splitLines text = List.replicate text.length [] := by
  induction text using splitLines.induct with
  | case1 => exact iff_of_true rfl rfl
  | case2 rest ih =>
      have hcounts := lines_countsAt_le 0 0 (byteLength rest) rest
      have hlines := length_splitLines_le rest
      rw [byteLength, byteLength, countsAt_pair, countsAt_line]
      refine iff_of_false ?_ fun h => ?_
      · simp only [List.length_cons]
        omega
      · have hlength := congrArg List.length h
        simp only [splitLines, List.length_cons, List.length_replicate] at hlength
        omega
  | case3 c rest hpair hc ih =>
      have hend : isLineEnd c = true := by simpa [isLineEnd] using hc
      have hnext : c = '\r' → rest.head? ≠ some '\n' := fun hcr hhead =>
        (List.head?_eq_some_iff.mp hhead).elim fun rest' hrest => hpair rest' hcr hrest
      rw [byteLength, countsAt_cons_of_isLineEnd _ _ _ hend hnext, countsAt_line,
        splitLines_cons_of_isLineEnd hend hnext, List.length_cons, List.replicate_succ, List.cons.injEq, and_iff_right rfl,
        ← ih]
      simp only
      omega
  | case4 c rest hpair hc ih =>
      have hend : isLineEnd c = false := by simpa [isLineEnd] using hc
      have hcounts := lines_countsAt_le 0 (0 + 1) (byteLength rest) rest
      rw [byteLength, countsAt_cons_of_not_isLineEnd _ _ _ hend, splitLines_cons_of_not_isLineEnd hend]
      refine iff_of_false ?_ fun h => ?_
      · rw [List.length_cons]
        omega
      · have hfirst := congrArg List.head? h
        rw [head?_consFirst, List.length_cons, List.replicate_succ, List.head?_cons, Option.some.injEq] at hfirst
        cases hfirst

/-- No character of a text ends a line just if the text is one line. -/
theorem column_end_eq_length_iff (hne : text ≠ []) : (countsAt 0 0 (byteLength text) text).2 = text.length ↔
    splitLines text = [text] := by
  constructor
  · intro hcolumn
    refine splitLines_of_all_not_isLineEnd hne fun c hmem => ?_
    by_contra hend
    have hlt : (countsAt 0 0 (byteLength text) (text ++ [])).2 < 0 + text.length :=
      column_lt_of_mem_lineEnd 0 0 hmem (Bool.not_eq_false _ ▸ hend) nofun
    rw [List.append_nil] at hlt
    omega
  · intro hlines
    have hall : ∀ c ∈ text, isLineEnd c = false := by
      intro c hmem
      obtain ⟨k, hk⟩ := List.mem_iff_getElem?.mp hmem
      have hin : InLines text 0 k c := ⟨text, by rw [hlines]; rfl, hk⟩
      exact (exists_begin_of_inLines hin).1
    have hcounts := countsAt_of_all_not_isLineEnd hall 0 0 []
    rw [List.append_nil] at hcounts
    rw [hcounts, Nat.zero_add]

/-- A text takes up all lines or all columns that can be named: a line of so many characters, or so many empty lines. -/
def Full (text : List Char) : Prop :=
  text.length = Position.limit ∧ (splitLines text = [text] ∨ splitLines text = List.replicate text.length [])

theorem full_iff (hlength : text.length < 2 ^ 31) (hne : text ≠ []) : Full text ↔
    Position.limit ≤ (countsAt 0 0 (byteLength text) text).1 ∨
      Position.limit ≤ (countsAt 0 0 (byteLength text) text).2 := by
  have hle := counts_le_length 0 0 text []
  rw [List.append_nil] at hle
  rw [Full, ← column_end_eq_length_iff hne, ← lines_end_eq_length_iff]
  simp only [Position.limit] at hle ⊢
  omega

/-- Every character comes before the end, if there is room for another one behind the last. -/
theorem BeginsAt.positionAt_lt_end (hlength : text.length < 2 ^ 31) (hroom : ¬ Full text) {o : Nat}
    (h : BeginsAt text o c) : positionAt text o < positionAt text (byteLength text) := by
  obtain ⟨before, rest, rfl, rfl⟩ := h
  have hp := counts_le_length 0 0 before (c :: rest)
  have hlt := countsLT_countsAt 0 0 before (List.cons_ne_nil c rest) []
  rw [List.append_nil] at hlt
  rw [full_iff hlength (by simp), not_or, Nat.not_le, Nat.not_le] at hroom
  apply ofCounts_lt_ofCounts hlt _ hroom.1 hroom.2
  rw [List.length_append, List.length_cons] at hlength
  rw [Position.limit]
  omega

/-- Where the last line or column that can be named is taken, the end of the text has no position of its own. -/
theorem Full.positionAt_end (h : Full (before ++ [c])) :
    positionAt (before ++ [c]) (byteLength (before ++ [c])) = positionAt (before ++ [c]) (byteLength before) := by
  have hfull := h.1
  rw [List.length_append, List.length_singleton] at hfull
  have hend := counts_le_length 0 0 (before ++ [c]) []
  have hlast := counts_le_length 0 0 before [c]
  have hline := lines_countsAt_le (countsAt 0 0 (byteLength before) (before ++ [c])).1
    (countsAt 0 0 (byteLength before) (before ++ [c])).2 (byteLength [c]) [c]
  have hcolumn := counts_le_length (countsAt 0 0 (byteLength before) (before ++ [c])).1
    (countsAt 0 0 (byteLength before) (before ++ [c])).2 [c] []
  have hlater := countsLT_countsAt 0 0 before (List.cons_ne_nil c []) []
  rw [← countsAt_append, ← byteLength_append] at hline
  rw [List.append_nil, ← countsAt_append, ← byteLength_append] at hcolumn
  rw [List.append_nil] at hend hlater
  rw [full_iff (by rw [h.1]; decide) (by simp)] at h
  -- the end takes no line but the one of the last character, or no column but its own
  simp only [CountsLT, List.length_append, List.length_singleton, Position.limit] at *
  apply Position.point_inj.mp
  rw [positionAt, positionAt, Position.point_ofCounts, Position.point_ofCounts, Point.mk.injEq, Position.limit]
  omega

/-- Characters that begin at different octets have different positions. -/
theorem BeginsAt.eq_of_positionAt_eq (hlength : text.length < 2 ^ 31) {o o' : Nat} {c' : Char}
    (h : BeginsAt text o c) (h' : BeginsAt text o' c') (heq : positionAt text o = positionAt text o') : o = o' := by
  rcases Nat.lt_trichotomy o o' with hlt | hlt | hlt
  · exact absurd heq (Position.ne_of_lt (h.positionAt_lt hlength h' hlt))
  · exact hlt
  · exact absurd heq.symm (Position.ne_of_lt (h'.positionAt_lt hlength h hlt))

/-- Every octet of a text is one of a character. -/
theorem exists_beginsAt_of_lt {o : Nat} (h : o < byteLength text) :
    ∃ start c, BeginsAt text start c ∧ start ≤ o ∧ o < start + c.utf8Size := by
  induction text generalizing o with
  | nil => cases h
  | cons d rest ih =>
      by_cases hfirst : o < d.utf8Size
      · exact ⟨0, d, ⟨[], rest, rfl, rfl⟩, Nat.zero_le o, by omega⟩
      · rw [byteLength] at h
        obtain ⟨start, c, ⟨before, after, rfl, rfl⟩, hle, hlt⟩ := ih (o := o - d.utf8Size) (by omega)
        refine ⟨d.utf8Size + byteLength before, c, ⟨d :: before, after, rfl, rfl⟩, ?_, ?_⟩
        · omega
        · omega

theorem positionAt_inside {start : Nat} (h : BeginsAt text start c) {o : Nat} (hle : start ≤ o)
    (hlt : o < start + c.utf8Size) : positionAt text o = positionAt text start := by
  obtain ⟨before, rest, rfl, rfl⟩ := h
  obtain ⟨i, rfl⟩ := Nat.exists_eq_add_of_le hle
  unfold positionAt
  rw [countsAt_inside 0 0 before (by omega)]

/-- Characters do not overlap. -/
theorem BeginsAt.add_utf8Size_le {o o' : Nat} {c' : Char} (h : BeginsAt text o c) (h' : BeginsAt text o' c')
    (hlt : o < o') : o + c.utf8Size ≤ o' := by
  obtain ⟨before, rest, rfl, rfl⟩ := h
  obtain ⟨before', rest', htext, rfl⟩ := h'
  rcases List.append_eq_append_iff.mp htext with ⟨between, rfl, hbetween⟩ | ⟨between, rfl, -⟩
  · rw [byteLength_append] at hlt ⊢
    cases between with
    | nil =>
        rw [byteLength] at hlt
        omega
    | cons d between =>
        obtain ⟨rfl, -⟩ := List.cons.inj hbetween
        rw [byteLength]
        omega
  · rw [byteLength_append] at hlt
    omega

/-- **Octets far apart** have positions in their order, wherever in a character they are: no character takes more than
four of them. -/
theorem positionAt_lt_of_add_four_le (hlength : text.length < 2 ^ 31) {o o' : Nat} (hfar : o + 4 ≤ o')
    (hend : o' < byteLength text) : positionAt text o < positionAt text o' := by
  obtain ⟨start, c, hbegin, hle, hlt⟩ := exists_beginsAt_of_lt (by omega : o < byteLength text)
  obtain ⟨start', c', hbegin', hle', hlt'⟩ := exists_beginsAt_of_lt hend
  rw [positionAt_inside hbegin hle hlt, positionAt_inside hbegin' hle' hlt']
  apply hbegin.positionAt_lt hlength hbegin'
  have hsize := c.utf8Size_le_four
  have hsize' := c'.utf8Size_le_four
  by_contra hnot
  rcases Nat.lt_or_eq_of_le (Nat.le_of_not_lt hnot) with hearlier | hsame
  · have := hbegin'.add_utf8Size_le hbegin hearlier
    omega
  · omega

/-- **One coordinate system.** Positions and lines of a text with fewer than `2 ^ 31` characters agree: each
character that is no line end is found in its line at its position; each character of a line is found at
exactly one of the octets with which characters begin; positions grow from boundary to boundary, the end of the text
included unless the text takes up all lines or columns, when its end has the position of its last character; octets
inside a character and octets behind the text have the position of this character and of the end. -/
theorem coordinates_agree {text : List Char} (hlength : text.length < 2 ^ 31) :
    let place := positionIn (positionTable text)
    (∀ o c, BeginsAt text o c → isLineEnd c = false →
      ∃ l k : Nat, (place o).point = ⟨l + 1, k + 1⟩ ∧ InLines text l k c) ∧
    (∀ l k c, InLines text l k c → isLineEnd c = false ∧
      ∃ o, BeginsAt text o c ∧ (place o).point = ⟨l + 1, k + 1⟩ ∧
        ∀ o' c', BeginsAt text o' c' → (place o').point = ⟨l + 1, k + 1⟩ → o' = o) ∧
    (∀ o o' c c', BeginsAt text o c → BeginsAt text o' c' → o < o' → place o < place o') ∧
    (¬ Full text → ∀ o c, BeginsAt text o c → place o < place (byteLength text)) ∧
    (Full text → ∀ before c, text = before ++ [c] → place (byteLength text) = place (byteLength before)) ∧
    (∀ o c, BeginsAt text o c → ∀ i < c.utf8Size, place (o + i) = place o) ∧
    (∀ o, byteLength text ≤ o → place o = place (byteLength text)) := by
  intro place
  have hplace : place = positionAt text := funext (positionIn_positionTable text)
  rw [hplace]
  refine ⟨?_, ?_, ?_, ?_, ?_, ?_, ?_⟩
  · intro o c hbegin hc
    exact inLines_of_beginsAt hlength hbegin hc
  · intro l k c hlines
    obtain ⟨hc, before, rest, htext, hcounts⟩ := exists_begin_of_inLines hlines
    have hbegin : BeginsAt text (byteLength before) c := ⟨before, rest, htext, rfl⟩
    have hposition := positionAt_of_countsAt hlength htext hcounts
    refine ⟨hc, byteLength before, hbegin, hposition, ?_⟩
    intro o' c' hbegin' hposition'
    exact hbegin'.eq_of_positionAt_eq hlength hbegin (Position.point_inj.mp (hposition'.trans hposition.symm))
  · intro o o' c c' hbegin hbegin' hlt
    exact hbegin.positionAt_lt hlength hbegin' hlt
  · intro hroom o c hbegin
    exact hbegin.positionAt_lt_end hlength hroom
  · rintro hfull before c rfl
    exact hfull.positionAt_end
  · rintro o c ⟨before, rest, rfl, rfl⟩ i hi
    unfold positionAt
    rw [countsAt_inside 0 0 before hi]
  · intro o ho
    unfold positionAt
    rw [countsAt_end 0 0 ho]

/-- A pair of line end characters, a lone one and a character of two octets. -/
theorem coordinates_agree_mixed :
    let text := "a\r\né\rb\n".toList
    text.length < 2 ^ 31 ∧ splitLines text = [['a'], ['é'], ['b']] ∧
      BeginsAt text 6 'b' ∧ positionIn (positionTable text) 6 = ⟨3, 1⟩ ∧ InLines text 2 0 'b' ∧
      (∀ o c, BeginsAt text o c → (positionIn (positionTable text) o).point = ⟨3, 1⟩ → o = 6) ∧
      positionIn (positionTable text) 4 = positionIn (positionTable text) 3 ∧
      positionIn (positionTable text) 1 < positionIn (positionTable text) 2 ∧
      positionIn (positionTable text) 6 < positionIn (positionTable text) (byteLength text) := by
  intro text
  have hlength : text.length < 2 ^ 31 := by decide
  obtain ⟨-, hhit, hgrows, hend, -, hinside, -⟩ := coordinates_agree hlength
  have hb : BeginsAt text 6 'b' := ⟨"a\r\né\r".toList, ['\n'], rfl, by decide⟩
  have hline : InLines text 2 0 'b' := ⟨['b'], by decide, rfl⟩
  have hposition : positionIn (positionTable text) 6 = ⟨3, 1⟩ := by decide
  obtain ⟨-, o, -, -, hunique⟩ := hhit 2 0 'b' hline
  refine ⟨hlength, by decide, hb, hposition, hline, ?_, ?_, ?_, ?_⟩
  · intro o' c' hbegin' hposition'
    rw [hunique o' c' hbegin' hposition', hunique 6 'b' hb (by rw [hposition]; rfl)]
  · exact hinside 3 'é' ⟨"a\r\n".toList, "\rb\n".toList, rfl, by decide⟩ 1 (by decide)
  · exact hgrows 1 2 '\r' '\n' ⟨['a'], "\né\rb\n".toList, rfl, by decide⟩ ⟨['a', '\r'], "é\rb\n".toList, rfl, by decide⟩ (by decide)
  · exact hend (fun h => absurd h.1 (by decide)) 6 'b' hb

/-- In a line of `2 ^ 31 - 1` characters the end has the position of the last character. -/
theorem positionAt_end_of_full_line :
    let before := List.replicate (Position.limit - 1) 'a'
    let text := before ++ ['a']
    text.length < 2 ^ 31 ∧ BeginsAt text (byteLength before) 'a' ∧ byteLength before < byteLength text ∧
      ¬ positionIn (positionTable text) (byteLength before) < positionIn (positionTable text) (byteLength text) := by
  intro before text
  have hlength : text.length = Position.limit := by
    rw [List.length_append, List.length_replicate, List.length_singleton, Position.limit]
  have hall : ∀ c ∈ text, isLineEnd c = false := by
    intro c hmem
    rcases List.mem_append.mp hmem with hmem | hmem
    · rw [List.eq_of_mem_replicate hmem]
      rfl
    · rw [List.mem_singleton.mp hmem]
      rfl
  have hfull : Full text := ⟨hlength, .inl (splitLines_of_all_not_isLineEnd (by simp [text]) hall)⟩
  refine ⟨by rw [hlength]; decide, ⟨before, [], rfl, rfl⟩, ?_, ?_⟩
  · rw [byteLength_append]
    exact Nat.lt_add_of_pos_right (by decide)
  · rw [positionIn_positionTable, positionIn_positionTable, hfull.positionAt_end]
    exact fun h => Position.ne_of_lt h rfl

end XmlDiagnostics.Text
