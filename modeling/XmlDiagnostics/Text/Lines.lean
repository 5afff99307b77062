import XmlDiagnostics.Position
import XmlDiagnostics.Text.Octets

/-! # Lines of a text

A line ends at a carriage return with a line feed after it, at a line feed, or at a lone carriage
return. `splitLines` cuts a text into its lines, and `positionAt` tells on which line and column the
character at a byte offset stands; both recognise the same line ends. -/

namespace XmlDiagnostics.Text

/-- Put a character in front of the first line. -/
def consFirst (c : Char) : List (List Char) → List (List Char)
  | [] => [[c]]
  | line :: lines => (c :: line) :: lines

/-- The lines of a text without their ends. A line end at the very end of the text starts no further
line. -/
def splitLines : List Char → List (List Char)
  | [] => []
  | '\r' :: '\n' :: rest => [] :: splitLines rest
  | c :: rest => if c = '\n' ∨ c = '\r' then [] :: splitLines rest else consFirst c (splitLines rest)

/-- The counts of lines and columns before the character at `offset`, with `line` and `column` of
them already passed. -/
def countsAt (line column : Nat) : Nat → List Char → Nat × Nat
  | _, [] => (line, column)
  | offset, c :: rest =>
    if offset < c.utf8Size then (line, column)
    else if c = '\n' ∨ (c = '\r' ∧ rest.head? ≠ some '\n') then
      countsAt (line + 1) 0 (offset - c.utf8Size) rest
    else countsAt line (column + 1) (offset - c.utf8Size) rest

/-- The position of the character at a byte offset. An offset inside a character stands for that
character, and one past the end for the end of the text. -/
def positionAt (text : List Char) (offset : Nat) : Position :=
  let (line, column) := countsAt 0 0 offset text
  Position.ofCounts line column

/-- The positions of the octets of a text in their order, and that of its end, with `line` lines and `column`
columns passed before. -/
def positionsFrom (line column : Nat) : List Char → List Position
  | [] => [.ofCounts line column]
  | c :: rest =>
    List.replicate c.utf8Size (.ofCounts line column) ++
      if c = '\n' ∨ (c = '\r' ∧ rest.head? ≠ some '\n') then positionsFrom (line + 1) 0 rest
      else positionsFrom line (column + 1) rest

/-- The positions of all octets of a text, for looking up many of them. -/
def positionTable (text : List Char) : Array Position := (positionsFrom 0 0 text).toArray

/-- The position at a byte offset, looked up. -/
def positionIn (table : Array Position) (offset : Nat) : Position := table.getD (min offset (table.size - 1)) .unknown

@[simp] theorem length_positionsFrom (line column : Nat) (text : List Char) :
    (positionsFrom line column text).length = byteLength text + 1 := by
  fun_induction positionsFrom line column text with
  | case1 => rfl
  | case2 line column c rest ih₁ ih₂ => split <;> simp_all [byteLength] <;> omega

theorem getElem?_positionsFrom (line column offset : Nat) (text : List Char) :
    (positionsFrom line column text)[min offset (byteLength text)]? =
      some (.ofCounts (countsAt line column offset text).1 (countsAt line column offset text).2) := by
  fun_induction countsAt line column offset text with
  | case1 line column offset => simp [positionsFrom, byteLength]
  | case2 line column offset c rest h =>
    have h' : min offset (byteLength (c :: rest)) < (List.replicate c.utf8Size (Position.ofCounts line column)).length := by
      simp; omega
    rw [positionsFrom, List.getElem?_append_left h', List.getElem?_replicate_of_lt (by simpa using h')]
  | case3 line column offset c rest h hc ih =>
    rw [positionsFrom, List.getElem?_append_right (by simp [byteLength]; omega), if_pos hc]
    rw [← ih]; congr 1; simp [byteLength]; omega
  | case4 line column offset c rest h hc ih =>
    rw [positionsFrom, List.getElem?_append_right (by simp [byteLength]; omega), if_neg hc]
    rw [← ih]; congr 1; simp [byteLength]; omega

/-- Looking up positions gives the same answers. -/
theorem positionIn_positionTable (text : List Char) (offset : Nat) :
    positionIn (positionTable text) offset = positionAt text offset := by
  have h := getElem?_positionsFrom 0 0 offset text
  have hsize : (positionTable text).size - 1 = byteLength text := by
    rw [positionTable, List.size_toArray, length_positionsFrom, Nat.add_sub_cancel]
  rw [positionIn, hsize, Array.getD_eq_getD_getElem?, positionTable, List.getElem?_toArray, h]
  rfl

/-- The lines of a string. -/
def lines (text : String) : List String := (splitLines text.toList).map String.ofList

end XmlDiagnostics.Text
