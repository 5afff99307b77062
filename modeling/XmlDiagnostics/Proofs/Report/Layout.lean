import Mathlib.Data.List.Forall2
import XmlDiagnostics.Report
import XmlDiagnostics.Proofs.Message.Filling
import XmlDiagnostics.Proofs.Position

/-! # The layout of a report

A text `IsReport` of a diagnosis if its heading is followed by a `Block` for the diagnosis and for each one inside it, in
pre-order (`levels`). A block tells the primary message from the others: it alone stands behind the position, and
without one there is no line for it. A line of the document is shown if the position names it.

What is rendered takes the first of all messages for the primary one, and counts in words what comes before a position
(`Counted`). So it is always the report, with these counts, of the diagnosis in which, at every level, the first of the other
messages is promoted where a primary one is missing; and it is the report of the diagnosis itself just if there is nothing
to promote and no line is shown that a position does not name (`isReport_render`).

A line that is shown and not named has a caret below it, so one counts the carets of both texts to see that there is none.
Then the blocks are compared one after the other: up to the first block with something to promote the two texts are the
same, and there they differ. -/

namespace XmlDiagnostics

namespace Diagnosis

mutual

/-- A diagnosis and those inside it in pre-order, each with its level. -/
def levels (level : Nat) : Diagnosis → List (Nat × Diagnosis)
  | ⟨position, primary, secondary, nested, possiblyMalformed⟩ =>
    (level, ⟨position, primary, secondary, nested, possiblyMalformed⟩) :: levelsIn (level + 1) nested

/-- Several diagnoses at a level and those inside them, one after the other. -/
def levelsIn (level : Nat) : List Diagnosis → List (Nat × Diagnosis)
  | [] => []
  | d :: rest => d.levels level ++ levelsIn level rest

end

mutual

/-- The diagnosis in which, here and at all levels inside, the first of the other messages is the primary one where that is
missing. -/
def promoted : Diagnosis → Diagnosis
  | ⟨position, some message, secondary, nested, possiblyMalformed⟩ =>
    ⟨position, some message, secondary, promotedIn nested, possiblyMalformed⟩
  | ⟨position, none, secondary, nested, possiblyMalformed⟩ =>
    ⟨position, secondary.head?, secondary.tail, promotedIn nested, possiblyMalformed⟩

/-- Several diagnoses with their first messages promoted. -/
def promotedIn : List Diagnosis → List Diagnosis
  | [] => []
  | d :: rest => d.promoted :: promotedIn rest

end

theorem levels_eq (level : Nat) (d : Diagnosis) : d.levels level = (level, d) :: levelsIn (level + 1) d.nested := by
  cases d
  rfl

theorem nested_promoted (d : Diagnosis) : d.promoted.nested = promotedIn d.nested := by
  obtain ⟨position, _ | message, secondary, nested, possiblyMalformed⟩ := d <;> rfl

/-- Promoting leaves each diagnosis at its level. -/
theorem levelsIn_promotedIn (level : Nat) (ds : List Diagnosis) :
    levelsIn level (promotedIn ds) = (levelsIn level ds).map fun entry => (entry.1, entry.2.promoted) := by
  induction ds using nested_induction generalizing level with
  | nil => rfl
  | cons d rest ihNested ih =>
      rw [promotedIn, levelsIn, levelsIn, levels_eq, levels_eq, nested_promoted, ihNested, ih, List.map_append, List.map_cons]

theorem levels_promoted (level : Nat) (d : Diagnosis) :
    d.promoted.levels level = (d.levels level).map fun entry => (entry.1, entry.2.promoted) := by
  rw [levels_eq, levels_eq, nested_promoted, levelsIn_promotedIn, List.map_cons]

end Diagnosis

namespace Report

open Diagnosis

variable {ctx : Context} {catalog : MessageCatalog} {before : Position → Nat → Nat → Prop}
  {counts : Position → Option (Nat × Nat)}

/-! ### What a report is -/

/-- So many lines are before a position, and so many columns on its line. -/
def Before (position : Position) (l n : Nat) : Prop := position.point = ⟨l + 1, n + 1⟩

/-- So many lines and columns are counted before a position, in words. -/
def Counted (position : Position) (l n : Nat) : Prop := position.counts? = some (l, n)

/-- A position names a line of the document, and a column with `n` columns before it, on that line or beyond its end;
`before` tells how many lines and columns are before the position. -/
def Names (before : Position → Nat → Nat → Prop) (ctx : Context) (position : Position) (line : List Char) (n : Nat) :
    Prop := ∃ l, before position l n ∧ ctx.lines[l]? = some line

/-- A caret stands under the column with `n` columns before it, or just past the end of a shorter line. Before it there is a
tab under each tab and a space under each other character. -/
def PointsAt (text : List Char) (n : Nat) (caret : List Char) : Prop :=
  ∃ before, caret = before ++ ['^'] ∧ before.length = min n text.length ∧
    ∀ i < before.length, before[i]? = some (if text[i]? = some '\t' then '\t' else ' ')

/-- The lines that a block shows of the document: one with a line for the caret if the position names it, or none. -/
inductive Excerpt (before : Position → Nat → Nat → Prop) (ctx : Context) (position : Position) : List (List Char) → Prop
  | shown {line caret n} : Names before ctx position line n → PointsAt line n caret →
      Excerpt before ctx position [line, caret]
  | absent : (∀ line n, ¬ Names before ctx position line n) → Excerpt before ctx position []

/-- The lines of the block of a diagnosis at its level. -/
def Block (before : Position → Nat → Nat → Prop) (ctx : Context) (catalog : MessageCatalog) :
    Nat × Diagnosis → List (List Char) → Prop
  | (level, d), lines => ∃ excerpt, Excerpt before ctx d.position excerpt ∧
    lines =
      (d.primary.toList.map fun message => indent level ++ location d.position ++ (message.render catalog).toList) ++
      (d.secondary.map fun message => indent (level + 1) ++ (message.render catalog).toList) ++
      excerpt.map fun line => indent level ++ ['|', ' '] ++ line

/-- The text of lines, each with a line feed at its end. -/
def textOf (lines : List (List Char)) : List Char := lines.flatMap fun line => line ++ ['\n']

/-- A text is the report of a diagnosis: the heading, and then a block for the diagnosis and for each one inside it, in
pre-order. -/
def IsReport (before : Position → Nat → Nat → Prop) (ctx : Context) (catalog : MessageCatalog) (d : Diagnosis)
    (text : String) : Prop :=
  ∃ blocks, List.Forall₂ (Block before ctx catalog) (d.levels 1) blocks ∧
    text = String.ofList (textOf (heading ctx catalog :: blocks.flatten))

/-! ### The excerpt -/

/-- The line with so many lines before it, and one with a caret behind so many columns. -/
def shown? (ctx : Context) (counts : Option (Nat × Nat)) : Option (List Char × List Char) :=
  counts.bind fun (l, n) => ctx.lines[l]?.map fun line => (line, pad n line ++ ['^'])

theorem excerpt?_eq (ctx : Context) (position : Position) : excerpt? ctx position = shown? ctx position.counts? := by
  have hline : ∀ l, (ctx.extractLines l (l + 1)).head? = ctx.lines[l]? := by
    intro l
    rw [Context.extractLines, List.head?_drop, List.getElem?_take_of_lt (Nat.lt_succ_self l)]
  rw [excerpt?, shown?, Option.bind_eq_bind]
  congr 1
  funext ⟨l, n⟩
  dsimp only
  rw [hline, Option.map_eq_bind]
  rfl

theorem shown?_eq_some_iff (hcounts : ∀ position l n, counts position = some (l, n) ↔ before position l n)
    {position : Position} {line caret : List Char} : shown? ctx (counts position) = some (line, caret) ↔
      ∃ n, Names before ctx position line n ∧ caret = pad n line ++ ['^'] := by
  rw [shown?, Option.bind_eq_some_iff]
  constructor
  · rintro ⟨⟨l, n⟩, hbefore, hshown⟩
    obtain ⟨_, hline, hsame⟩ := Option.map_eq_some_iff.mp hshown
    obtain ⟨rfl, rfl⟩ := Prod.mk.inj hsame
    exact ⟨n, ⟨l, (hcounts _ _ _).mp hbefore, hline⟩, rfl⟩
  · rintro ⟨n, ⟨l, hbefore, hline⟩, rfl⟩
    exact ⟨(l, n), (hcounts _ _ _).mpr hbefore, Option.map_eq_some_iff.mpr ⟨line, hline, rfl⟩⟩

/-- The line for the caret is told by the line above it and the column. -/
theorem pointsAt_iff {text caret : List Char} {n : Nat} : PointsAt text n caret ↔ caret = pad n text ++ ['^'] := by
  have hlength : (pad n text).length = min n text.length := by rw [pad, List.length_map, List.length_take]
  have hpad : ∀ i < min n text.length, (pad n text)[i]? = some (if text[i]? = some '\t' then '\t' else ' ') := by
    intro i hi
    rw [pad, List.getElem?_map, List.getElem?_take_of_lt (by omega), List.getElem?_eq_getElem (by omega : i < text.length)]
    simp
  constructor
  · rintro ⟨before, rfl, hsize, hbefore⟩
    have hsame : before = pad n text := by
      refine List.ext_getElem? fun i => ?_
      by_cases hi : i < min n text.length
      · rw [hbefore i (by omega), hpad i hi]
      · rw [List.getElem?_eq_none (by omega), List.getElem?_eq_none (by omega)]
    rw [hsame]
  · rintro rfl
    exact ⟨pad n text, rfl, hlength, fun i hi => hpad i (by omega)⟩

/-- A block shows what the excerpt at its position is. -/
theorem excerpt_iff (hcounts : ∀ position l n, counts position = some (l, n) ↔ before position l n)
    {position : Position} {lines : List (List Char)} : Excerpt before ctx position lines ↔
      lines = (shown? ctx (counts position)).elim [] fun (line, caret) => [line, caret] := by
  constructor
  · rintro (⟨hnames, hpoints⟩ | habsent)
    · rw [(shown?_eq_some_iff hcounts).mpr ⟨_, hnames, pointsAt_iff.mp hpoints⟩]
      rfl
    · have hnone : shown? ctx (counts position) = none := by
        refine Option.eq_none_iff_forall_ne_some.mpr fun (line, caret) hsome => ?_
        obtain ⟨n, hnames, -⟩ := (shown?_eq_some_iff hcounts).mp hsome
        exact habsent line n hnames
      rw [hnone]
      rfl
  · rintro rfl
    cases hexcerpt : shown? ctx (counts position) with
    | none =>
        refine .absent fun line n hnames => ?_
        rw [(shown?_eq_some_iff hcounts).mpr ⟨n, hnames, rfl⟩] at hexcerpt
        cases hexcerpt
    | some shown =>
        obtain ⟨n, hnames, hcaret⟩ := (shown?_eq_some_iff hcounts).mp hexcerpt
        exact .shown hnames (pointsAt_iff.mpr hcaret)

/-! ### Blocks -/

/-- The lines that are rendered for a diagnosis at its level. -/
def rendered (ctx : Context) (catalog : MessageCatalog) (entry : Nat × Diagnosis) : List (List Char) :=
  messageLines entry.1 entry.2.position (entry.2.render catalog) ++ excerptLines entry.1 (excerpt? ctx entry.2.position)

/-- The lines that stand in the block of a diagnosis at its level in front of the excerpt. -/
def statedMessages (catalog : MessageCatalog) (entry : Nat × Diagnosis) : List (List Char) :=
  (entry.2.primary.toList.map fun message =>
      indent entry.1 ++ location entry.2.position ++ (message.render catalog).toList) ++
    entry.2.secondary.map fun message => indent (entry.1 + 1) ++ (message.render catalog).toList

/-- The lines that the block of a diagnosis at its level has, with such counts before its position. -/
def stated (counts : Position → Option (Nat × Nat)) (ctx : Context) (catalog : MessageCatalog)
    (entry : Nat × Diagnosis) : List (List Char) :=
  statedMessages catalog entry ++ excerptLines entry.1 (shown? ctx (counts entry.2.position))

theorem block_iff (hcounts : ∀ position l n, counts position = some (l, n) ↔ before position l n)
    {entry : Nat × Diagnosis} {lines : List (List Char)} :
    Block before ctx catalog entry lines ↔ stated counts ctx catalog entry = lines := by
  obtain ⟨level, d⟩ := entry
  have hlines : ∀ excerpt, Excerpt before ctx d.position excerpt →
      excerptLines level (shown? ctx (counts d.position)) =
        excerpt.map fun line => indent level ++ ['|', ' '] ++ line := by
    intro excerpt h
    rw [(excerpt_iff hcounts).mp h]
    cases shown? ctx (counts d.position) <;> rfl
  constructor
  · rintro ⟨excerpt, hexcerpt, rfl⟩
    rw [stated, hlines excerpt hexcerpt, statedMessages]
  · rintro rfl
    refine ⟨_, (excerpt_iff hcounts).mpr rfl, ?_⟩
    rw [stated, hlines _ ((excerpt_iff hcounts).mpr rfl), statedMessages]

/-- There is one text that is the report. -/
theorem isReport_iff (hcounts : ∀ position l n, counts position = some (l, n) ↔ before position l n) {d : Diagnosis}
    {text : String} : IsReport before ctx catalog d text ↔
      text = String.ofList (textOf (heading ctx catalog :: (d.levels 1).flatMap (stated counts ctx catalog))) := by
  have hblocks : ∀ blocks, List.Forall₂ (Block before ctx catalog) (d.levels 1) blocks ↔
      (d.levels 1).map (stated counts ctx catalog) = blocks := by
    intro blocks
    have hblock : Block before ctx catalog = fun entry lines => stated counts ctx catalog entry = lines := by
      funext entry lines
      exact propext (block_iff hcounts)
    rw [hblock, ← List.forall₂_map_left_iff, List.forall₂_eq_eq_eq]
  simp only [IsReport, hblocks, exists_eq_left', List.flatMap_def]

theorem nestedLines_eq_flatMap (depth : Nat) (ds : List Diagnosis) :
    nestedLines ctx catalog depth ds = (levelsIn depth ds).flatMap (rendered ctx catalog) := by
  induction ds using nested_induction generalizing depth with
  | nil => rfl
  | cons d rest ihNested ih =>
      have hfirst : blockLines ctx catalog depth d =
          rendered ctx catalog (depth, d) ++ nestedLines ctx catalog (depth + 1) d.nested := by
        cases d
        rfl
      rw [nestedLines, hfirst, levelsIn, levels_eq, List.flatMap_append, List.flatMap_cons, ihNested, ih]

theorem render_eq (d : Diagnosis) : render ctx catalog d =
    String.ofList (textOf (heading ctx catalog :: (d.levels 1).flatMap (rendered ctx catalog))) := by
  have h : nestedLines ctx catalog 1 [d] = _ := nestedLines_eq_flatMap 1 [d]
  rw [nestedLines, nestedLines, levelsIn, levelsIn, List.append_nil, List.append_nil] at h
  rw [render, lines, h, textOf]

/-- What is rendered for a diagnosis is the block of the one with its first message promoted. -/
theorem rendered_eq_stated (entry : Nat × Diagnosis) :
    rendered ctx catalog entry = stated Position.counts? ctx catalog (entry.1, entry.2.promoted) := by
  rw [rendered, excerpt?_eq]
  obtain ⟨level, ⟨position, _ | message, _ | ⟨first, secondary⟩, nested, possiblyMalformed⟩⟩ := entry <;>
    simp [stated, statedMessages, Diagnosis.render, messageLines, promoted]

/-! ### Where the texts part -/

theorem textOf_append (lines more : List (List Char)) : textOf (lines ++ more) = textOf lines ++ textOf more :=
  List.flatMap_append

theorem textOf_cons (line : List Char) (lines : List (List Char)) :
    textOf (line :: lines) = line ++ '\n' :: textOf lines := by
  rw [textOf, List.flatMap_cons, List.append_assoc]
  rfl

/-- Two more spaces in front of a line make another text of it, whatever follows. -/
theorem ne_spaces_append (line rest rest' : List Char) : line ++ '\n' :: rest ≠ [' ', ' '] ++ (line ++ '\n' :: rest') := by
  induction line with
  | nil =>
      intro h
      cases h
  | cons c line ih =>
      intro h
      obtain ⟨rfl, htail⟩ := List.cons.inj h
      exact ih htail

theorem not_mem_toString_int {c : Char} (hdigit : c.isDigit = false) (hsign : c ≠ '-') (n : Int) :
    c ∉ (toString n).toList := by
  cases n with
  | ofNat n => exact MessageCatalog.not_mem_toString (n := n) hdigit
  | negSucc n =>
      have htext : toString (Int.negSucc n) = "-" ++ toString (n + 1) := rfl
      rw [htext, String.toList_append, List.mem_append, not_or]
      exact ⟨fun h => hsign (List.mem_singleton.mp h), MessageCatalog.not_mem_toString hdigit⟩

theorem location_eq_of_known {position : Position} (h : position.isKnown = true) : location position =
    (toString position.line).toList ++ ':' :: ((toString position.column).toList ++ [':', ' ']) := by
  rw [location, if_pos h, Position.display]
  simp

/-- A position in front of a line is no space. -/
theorem location_append_ne {position : Position} (h : position.isKnown = true) (rest rest' : List Char) :
    location position ++ rest ≠ ' ' :: rest' := by
  have hspace := not_mem_toString_int (by decide : ' '.isDigit = false) (by decide) position.line
  intro hsame
  rw [location_eq_of_known h] at hsame
  cases hline : (toString position.line).toList with
  | nil =>
      rw [hline] at hsame
      cases hsame
  | cons c line =>
      rw [hline] at hsame hspace
      obtain ⟨rfl, -⟩ := List.cons.inj hsame
      exact hspace List.mem_cons_self

/-- Nothing is left to promote. -/
theorem rendered_eq_of_headed {entry : Nat × Diagnosis} (h : entry.2.primary = none → entry.2.secondary = []) :
    rendered ctx catalog entry = stated Position.counts? ctx catalog entry := by
  rw [rendered_eq_stated]
  obtain ⟨level, ⟨position, _ | message, secondary, nested, possiblyMalformed⟩⟩ := entry
  · obtain rfl : secondary = [] := h rfl
    rfl
  · rfl

/-- Without a primary message the first of the others is not where it should be. -/
theorem textOf_rendered_ne {entry : Nat × Diagnosis} (hprimary : entry.2.primary = none)
    (hsecondary : entry.2.secondary ≠ []) (rest rest' : List Char) :
    textOf (rendered ctx catalog entry) ++ rest ≠ textOf (stated counts ctx catalog entry) ++ rest' := by
  obtain ⟨level, ⟨position, primary, secondary, nested, possiblyMalformed⟩⟩ := entry
  obtain rfl : primary = none := hprimary
  obtain ⟨message, secondary, rfl⟩ := List.exists_cons_of_ne_nil hsecondary
  let d : Diagnosis := ⟨position, none, message :: secondary, nested, possiblyMalformed⟩
  have hindent : indent (level + 1) = indent level ++ [' ', ' '] := by
    rw [indent, indent, Nat.mul_add, List.replicate_add]
    rfl
  obtain ⟨more, hrendered⟩ : ∃ more, rendered ctx catalog (level, d) =
      (indent level ++ location position ++ (message.render catalog).toList) :: more := ⟨_, rfl⟩
  obtain ⟨more', hstated⟩ : ∃ more, stated counts ctx catalog (level, d) =
      (indent (level + 1) ++ (message.render catalog).toList) :: more := ⟨_, rfl⟩
  rw [hrendered, hstated, textOf_cons, textOf_cons, hindent]
  simp only [List.append_assoc, List.cons_append]
  -- behind the indentation stands the same message, here after the position and there after two more spaces
  intro hsame
  have hsame := List.append_cancel_left hsame
  by_cases hknown : position.isKnown = true
  · exact location_append_ne hknown _ _ hsame
  · rw [location, if_neg hknown] at hsame
    exact ne_spaces_append _ _ _ hsame

/-- The texts of all blocks with the same counts are the same just if nothing is left to promote. -/
theorem textOf_flatMap_eq_iff (entries : List (Nat × Diagnosis)) :
    textOf (entries.flatMap (rendered ctx catalog)) =
        textOf (entries.flatMap (stated Position.counts? ctx catalog)) ↔
      ∀ entry ∈ entries, entry.2.primary = none → entry.2.secondary = [] := by
  induction entries with
  | nil => simp
  | cons entry entries ih =>
      rw [List.flatMap_cons, List.flatMap_cons, textOf_append, textOf_append, List.forall_mem_cons]
      by_cases h : entry.2.primary = none → entry.2.secondary = []
      · rw [rendered_eq_of_headed h, List.append_cancel_left_eq, ih, and_iff_right h]
      · obtain ⟨hprimary, hsecondary⟩ := Classical.not_imp.mp h
        exact iff_of_false (textOf_rendered_ne hprimary hsecondary _ _) fun hall => h hall.1

/-! ### Lines that are not named -/

/-- The counts of lines and columns before a position. -/
def placeOf (position : Position) : Option (Nat × Nat) :=
  if 1 ≤ position.line ∧ 1 ≤ position.column then some ((position.line - 1).toNat, (position.column - 1).toNat) else none

theorem placeOf_eq_some_iff (position : Position) (l n : Nat) :
    placeOf position = some (l, n) ↔ Before position l n := by
  rw [placeOf, Option.ite_none_right_eq_some, Option.some.injEq, Prod.mk.injEq, Before, Position.point, Point.mk.injEq]
  omega

theorem counted_iff (position : Position) (l n : Nat) : position.counts? = some (l, n) ↔ Counted position l n := Iff.rfl

/-- Only lines that a position names are shown for it. -/
def ShowsNamed (ctx : Context) (position : Position) : Prop :=
  ∀ line n, Names Counted ctx position line n → Names Before ctx position line n

variable {position : Position}

theorem counts?_of_placeOf {place : Nat × Nat} (h : placeOf position = some place) : position.counts? = some place :=
  Position.counts?_of_point ((placeOf_eq_some_iff position place.1 place.2).mp h)

theorem shown?_of_showsNamed (h : ShowsNamed ctx position) :
    shown? ctx position.counts? = shown? ctx (placeOf position) := by
  cases hplace : placeOf position with
  | some place => rw [counts?_of_placeOf hplace]
  | none =>
      refine Option.eq_none_iff_forall_ne_some.mpr fun (line, caret) hsome => ?_
      obtain ⟨n, hnames, -⟩ := (shown?_eq_some_iff counted_iff).mp hsome
      obtain ⟨l, hbefore, -⟩ := h line n hnames
      rw [(placeOf_eq_some_iff position l n).mpr hbefore] at hplace
      cases hplace

/-- A line that is shown and not named has a caret below it, and no line is named. -/
theorem exists_shown?_of_not_showsNamed (h : ¬ ShowsNamed ctx position) :
    placeOf position = none ∧ ∃ line before, shown? ctx position.counts? = some (line, before ++ ['^']) := by
  simp only [ShowsNamed, not_forall] at h
  obtain ⟨line, n, ⟨l, hcounted, hline⟩, hnot⟩ := h
  refine ⟨?_, line, pad n line, (shown?_eq_some_iff counted_iff).mpr ⟨n, ⟨l, hcounted, hline⟩, rfl⟩⟩
  by_contra hsome
  obtain ⟨place, hplace⟩ := Option.ne_none_iff_exists'.mp hsome
  have hsame := Option.some.inj ((counts?_of_placeOf hplace).symm.trans hcounted)
  exact hnot ⟨l, (placeOf_eq_some_iff position l n).mp (hsame ▸ hplace), hline⟩

/-! ### Carets -/

/-- How many carets stand in lines. -/
def carets (lines : List (List Char)) : Nat := (textOf lines).count '^'

theorem carets_append (lines more : List (List Char)) : carets (lines ++ more) = carets lines + carets more := by
  rw [carets, textOf_append, List.count_append, carets, carets]

theorem carets_cons (line : List Char) (lines : List (List Char)) :
    carets (line :: lines) = line.count '^' + carets lines := by
  rw [carets, textOf_cons, List.count_append, List.count_cons_of_ne (by decide), carets]

/-- Indentation and position of a message have no caret. -/
theorem count_caret_message (level : Nat) (position : Position) (message : List Char) :
    (indent level ++ location position ++ message).count '^' = message.count '^' := by
  have hindent : '^' ∉ indent level := fun h => absurd (List.eq_of_mem_replicate h) (by decide)
  have hlocation : '^' ∉ location position := by
    by_cases hknown : position.isKnown = true
    · have hnumber := not_mem_toString_int (by decide : '^'.isDigit = false) (by decide)
      rw [location_eq_of_known hknown, List.mem_append, List.mem_cons, List.mem_append, not_or, not_or, not_or]
      exact ⟨hnumber _, by decide, hnumber _, by decide⟩
    · rw [location, if_neg hknown]
      exact List.not_mem_nil
  rw [List.count_append, List.count_append, List.count_eq_zero_of_not_mem hindent,
    List.count_eq_zero_of_not_mem hlocation, Nat.zero_add]

/-- Promoting a message moves it, and its carets stay. -/
theorem carets_statedMessages_promoted (entry : Nat × Diagnosis) :
    carets (statedMessages catalog (entry.1, entry.2.promoted)) = carets (statedMessages catalog entry) := by
  obtain ⟨level, ⟨position, _ | message, _ | ⟨first, secondary⟩, nested, possiblyMalformed⟩⟩ := entry
  · rfl
  · have hindent : ∀ message, indent (level + 1) ++ message = indent (level + 1) ++ location .unknown ++ message :=
      fun _ => by rw [show location .unknown = [] from rfl, List.append_nil]
    simp only [statedMessages, promoted, List.head?_cons, List.tail_cons, Option.toList_some, Option.toList_none,
      List.map_cons, List.map_nil, List.nil_append, List.singleton_append, carets_cons]
    rw [count_caret_message, hindent, count_caret_message]
  · rfl
  · rfl

/-- There are no fewer carets in the lines that are rendered, and more where a line is shown that is not named. -/
theorem carets_stated_le (entry : Nat × Diagnosis) :
    carets (stated placeOf ctx catalog entry) ≤ carets (rendered ctx catalog entry) ∧
      (¬ ShowsNamed ctx entry.2.position →
        carets (stated placeOf ctx catalog entry) < carets (rendered ctx catalog entry)) := by
  have hposition : entry.2.promoted.position = entry.2.position := by
    obtain ⟨level, ⟨position, _ | message, secondary, nested, possiblyMalformed⟩⟩ := entry <;> rfl
  rw [rendered_eq_stated, stated, stated, carets_append, carets_append, carets_statedMessages_promoted, hposition]
  by_cases h : ShowsNamed ctx entry.2.position
  · rw [shown?_of_showsNamed h]
    exact ⟨Nat.le_refl _, absurd h⟩
  · obtain ⟨hplace, line, before, hshown⟩ := exists_shown?_of_not_showsNamed h
    have hnone : carets (excerptLines entry.1 (shown? ctx (placeOf entry.2.position))) = 0 := by
      rw [hplace]
      rfl
    have hsome : 0 < carets (excerptLines entry.1 (shown? ctx entry.2.position.counts?)) := by
      have hcaret : 0 < (indent entry.1 ++ ['|', ' '] ++ (before ++ ['^'])).count '^' := List.count_pos_iff.mpr (by simp)
      rw [hshown, excerptLines, carets_cons, carets_cons]
      omega
    rw [hnone, Nat.add_zero]
    exact ⟨Nat.le_add_right _ _, fun _ => Nat.lt_add_of_pos_right hsome⟩

/-- With as many carets in both, no line is shown that is not named. -/
theorem showsNamed_of_carets_le {entries : List (Nat × Diagnosis)}
    (h : carets (entries.flatMap (rendered ctx catalog)) ≤ carets (entries.flatMap (stated placeOf ctx catalog))) :
    ∀ entry ∈ entries, ShowsNamed ctx entry.2.position := by
  have hall : ∀ entries : List (Nat × Diagnosis),
      carets (entries.flatMap (stated placeOf ctx catalog)) ≤ carets (entries.flatMap (rendered ctx catalog)) := by
    intro entries
    induction entries with
    | nil => exact Nat.le_refl _
    | cons entry entries ih =>
        rw [List.flatMap_cons, List.flatMap_cons, carets_append, carets_append]
        exact Nat.add_le_add (carets_stated_le entry).1 ih
  induction entries with
  | nil => exact List.forall_mem_nil _
  | cons entry entries ih =>
      rw [List.flatMap_cons, List.flatMap_cons, carets_append, carets_append] at h
      have hfirst := @carets_stated_le ctx catalog entry
      have hrest := hall entries
      refine List.forall_mem_cons.mpr ⟨?_, ih (by omega)⟩
      by_contra hnot
      have hlt := hfirst.2 hnot
      omega

/-- The texts of all blocks are the same just if nothing is left to promote and only lines that are named are shown. -/
theorem textOf_rendered_eq_iff (entries : List (Nat × Diagnosis)) :
    textOf (entries.flatMap (rendered ctx catalog)) = textOf (entries.flatMap (stated placeOf ctx catalog)) ↔
      ∀ entry ∈ entries, (entry.2.primary = none → entry.2.secondary = []) ∧ ShowsNamed ctx entry.2.position := by
  have hstated (h : ∀ entry ∈ entries, ShowsNamed ctx entry.2.position) :
      entries.flatMap (stated placeOf ctx catalog) = entries.flatMap (stated Position.counts? ctx catalog) :=
    List.flatMap_congr fun entry hentry => by rw [stated, stated, shown?_of_showsNamed (h entry hentry)]
  constructor
  · intro hsame
    have hnamed : ∀ entry ∈ entries, ShowsNamed ctx entry.2.position :=
      showsNamed_of_carets_le (congrArg (List.count '^') hsame).le
    rw [hstated hnamed, textOf_flatMap_eq_iff] at hsame
    exact fun entry hentry => ⟨hsame entry hentry, hnamed entry hentry⟩
  · intro h
    rw [hstated fun entry hentry => (h entry hentry).2, textOf_flatMap_eq_iff]
    exact fun entry hentry => (h entry hentry).1

/-- **What is rendered is a report**, with the counts of words, namely of the diagnosis in which the first message is promoted
to the primary one wherever that is missing. There is one report of the diagnosis itself, and it is what is rendered just if no
diagnosis, at any level, has other messages without a primary one or is shown a line that its position does not name. -/
theorem isReport_render (ctx : Context) (catalog : MessageCatalog) (d : Diagnosis) :
    IsReport Counted ctx catalog d.promoted (render ctx catalog d) ∧
      (∃! text, IsReport Before ctx catalog d text) ∧
      (IsReport Before ctx catalog d (render ctx catalog d) ↔
        ∀ entry ∈ d.levels 1, (entry.2.primary = none → entry.2.secondary = []) ∧ ShowsNamed ctx entry.2.position) := by
  refine ⟨?_, ⟨_, (isReport_iff placeOf_eq_some_iff).mpr rfl, fun _ => (isReport_iff placeOf_eq_some_iff).mp⟩, ?_⟩
  · have hpromoted : (d.promoted.levels 1).flatMap (stated Position.counts? ctx catalog) =
        (d.levels 1).flatMap (rendered ctx catalog) := by
      rw [levels_promoted, List.flatMap_map]
      exact List.flatMap_congr fun entry _ => (rendered_eq_stated entry).symm
    rw [isReport_iff counted_iff, hpromoted, render_eq]
  · rw [isReport_iff placeOf_eq_some_iff, render_eq, String.ofList_inj, textOf_cons, textOf_cons,
      List.append_cancel_left_eq, List.cons.injEq, and_iff_right rfl, textOf_rendered_eq_iff]

/-- The only message is no primary one, and still it is rendered behind the position and as far to the left as one. -/
theorem render_without_primary :
    let setup : ContextSetup := { url := ⟨"file", .path none ["d.xml"], none, none⟩, schemaUrls := [] }
    let ctx := setup.context .utf8 "<a/>".toList []
    let d : Diagnosis := ⟨⟨1, 1⟩, none, [⟨.passthru, ["note"]⟩], [], false⟩
    render ctx .english d = "validation error in d.xml\n  1:1: note\n  | <a/>\n  | ^\n" ∧
      IsReport Before ctx .english d "validation error in d.xml\n    note\n  | <a/>\n  | ^\n" ∧
      ¬ IsReport Before ctx .english d (render ctx .english d) := by
  intro setup ctx d
  refine ⟨by decide +kernel, (isReport_iff placeOf_eq_some_iff).mpr (by decide +kernel), fun hreport => ?_⟩
  have hsame := (isReport_iff placeOf_eq_some_iff).mp hreport
  revert hsame
  decide +kernel

/-- The least column is taken for the one behind the greatest, and the line is shown. -/
theorem render_at_least_column :
    let setup : ContextSetup := { url := ⟨"file", .path none ["d.xml"], none, none⟩, schemaUrls := [] }
    let ctx := setup.context .utf8 "<a/>".toList []
    let d : Diagnosis := ⟨⟨1, -2147483648⟩, some ⟨.passthru, ["note"]⟩, [], [], false⟩
    render ctx .english d = "validation error in d.xml\n  1:-2147483648: note\n  | <a/>\n  |     ^\n" ∧
      IsReport Before ctx .english d "validation error in d.xml\n  1:-2147483648: note\n" := by
  intro setup ctx d
  exact ⟨by decide +kernel, (isReport_iff placeOf_eq_some_iff).mpr (by decide +kernel)⟩

end Report

end XmlDiagnostics
