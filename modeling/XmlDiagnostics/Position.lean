/-! # Source positions

A point of a source text is a line and a column, both counted from one. Points are ordered by line
first and by column within a line, so that the span of an element is a closed interval of points. A
position gives a point in two words of 32 bits: points beyond them have no position, and what is
computed with the words wraps. -/

namespace XmlDiagnostics

/-- A line and a column, both counted from one. -/
structure Point where
  line : Int
  column : Int
deriving DecidableEq, Repr

namespace Point

/-- Line first, column within a line. -/
protected def le (p q : Point) : Prop := p.line < q.line ∨ (p.line = q.line ∧ p.column ≤ q.column)

/-- On an earlier line, or earlier on the same one. -/
protected def lt (p q : Point) : Prop := p.line < q.line ∨ (p.line = q.line ∧ p.column < q.column)

instance : LE Point := ⟨Point.le⟩

instance : LT Point := ⟨Point.lt⟩

instance (p q : Point) : Decidable (p ≤ q) := inferInstanceAs (Decidable (_ ∨ _))

instance (p q : Point) : Decidable (p < q) := inferInstanceAs (Decidable (_ ∨ _))

theorem le_def {p q : Point} : p ≤ q ↔ p.line < q.line ∨ (p.line = q.line ∧ p.column ≤ q.column) := Iff.rfl

theorem lt_def {p q : Point} : p < q ↔ p.line < q.line ∨ (p.line = q.line ∧ p.column < q.column) := Iff.rfl

end Point

/-- A number where a word is expected stands for the word of 32 bits that it wraps to. -/
scoped instance coeIntWord : Coe Int Int32 := ⟨Int32.ofInt⟩

/-- A point in words of 32 bits. -/
structure Position where
  lineWord : Int32
  columnWord : Int32
deriving DecidableEq, Repr

namespace Position

/-- The line of a position. -/
def line (p : Position) : Int := p.lineWord.toInt

/-- The column of a position. -/
def column (p : Position) : Int := p.columnWord.toInt

/-- The point that a position gives. -/
def point (p : Position) : Point := ⟨p.line, p.column⟩

/-- The position of something that has never been placed. -/
def unknown : Position := ⟨-1, -1⟩

instance : Inhabited Position := ⟨unknown⟩

/-- A position is known unless it is the mark for a missing one. -/
def isKnown (p : Position) : Bool := p ≠ unknown

instance : LE Position := ⟨fun p q => p.point ≤ q.point⟩

instance : LT Position := ⟨fun p q => p.point < q.point⟩

instance (p q : Position) : Decidable (p ≤ q) := inferInstanceAs (Decidable (p.point ≤ q.point))

instance (p q : Position) : Decidable (p < q) := inferInstanceAs (Decidable (p.point < q.point))

instance : Ord Position := ⟨fun p q => (compare p.line q.line).then (compare p.column q.column)⟩

theorem le_def {p q : Position} :
    p ≤ q ↔ p.line < q.line ∨ (p.line = q.line ∧ p.column ≤ q.column) := Iff.rfl

theorem lt_def {p q : Position} :
    p < q ↔ p.line < q.line ∨ (p.line = q.line ∧ p.column < q.column) := Iff.rfl

theorem point_inj {p q : Position} : p.point = q.point ↔ p = q := by
  cases p
  cases q
  simp only [point, line, column, Point.mk.injEq, mk.injEq, Int32.toInt_inj]

/-- The written form is `line:column`. -/
def display (p : Position) : String := toString p.line ++ ":" ++ toString p.column

/-- The largest line or column that a position can name. -/
def limit : Nat := 2147483647

/-- The position with `lines` lines before it and `columns` characters before it on its line;
counts beyond the largest nameable line or column stay there. -/
def ofCounts (lines columns : Nat) : Position :=
  ⟨((min (lines + 1) limit : Nat) : Int), ((min (columns + 1) limit : Nat) : Int)⟩

/-- How many lines or columns come before the one with a number, absent if it is less than one. The
number before the least word is the greatest one. -/
def before? (word : Int32) : Option Nat :=
  let before := (word - 1).toInt
  if 0 ≤ before then some before.toNat else none

/-- The numbers of lines and columns before a position, absent when it is unknown or lies before the
first line or column. -/
def counts? (p : Position) : Option (Nat × Nat) :=
  if p.isKnown then do return (← before? p.lineWord, ← before? p.columnWord) else none

/-- The position one column further; the word behind the greatest one is the least. -/
def nextColumn (p : Position) : Position := ⟨p.lineWord, p.columnWord + 1⟩

end Position

end XmlDiagnostics
