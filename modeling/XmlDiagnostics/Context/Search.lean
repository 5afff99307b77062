import XmlDiagnostics.Context.Basic

/-! # Searching the lines of a document

A forward search takes the nearest match at or after a place, a backward search the nearest one that
starts at or before it. Places are given by line and column counted from zero, and answers are
positions. -/

namespace XmlDiagnostics

namespace Search

/-- Where a match counts as standing: at its first group if that takes part, else at its start. -/
def startOf (m : Match) : Nat := ((m.group? 1).getD m.piece).start

/-- The leftmost match in a line from a column on, which has to be a column of the line. -/
def inLine (a : Automaton) (column : Nat) (line : List Char) : Option Nat :=
  if column < line.length then ((a.scan line).drop column).find?.map startOf else none

/-- The nearest match from a column of the first of some lines, whose number is `number`, on; in the
other lines the search begins at the first column. -/
def forwardFrom (a : Automaton) (number column : Nat) : List (List Char) → Option Position
  | [] => none
  | line :: rest =>
    match inLine a column line with
    | some found => some (.ofCounts number found)
    | none => forwardFrom a (number + 1) 0 rest

/-- The last column of a line, among those before `bound`, at which a match starts. -/
def lastStart (a : Automaton) (bound : Nat) (line : List Char) : Option Nat :=
  (a.scan line).lastStart? (min bound line.length)

/-- The last match start in lines with their numbers, the last line first. -/
def backwardFrom (a : Automaton) : List (List Char × Nat) → Option Position
  | [] => none
  | (line, number) :: rest =>
    match lastStart a line.length line with
    | some found => some (.ofCounts number found)
    | none => backwardFrom a rest

end Search

namespace Context

/-- The nearest match at or after a place. -/
def searchForward (ctx : Context) (line column : Nat) (p : Pattern) : Option Position :=
  Search.forwardFrom (.ofPattern p) line column (ctx.lines.drop line)

/-- The nearest match that starts at or before a place; a line past the end stands for the end. -/
def searchBackward (ctx : Context) (line column : Nat) (p : Pattern) : Option Position :=
  let a := Automaton.ofPattern p
  let before := (ctx.lines.zipIdx.take line).reverse
  match ctx.lines[line]? with
  | none => Search.backwardFrom a before
  | some text =>
    match Search.lastStart a (column + 1) text with
    | some found => some (.ofCounts line found)
    | none => Search.backwardFrom a before

/-- Search forward from a position, if it is a place. -/
def searchFrom (ctx : Context) (start : Position) (p : Pattern) : Option Position :=
  start.counts?.bind fun (line, column) => ctx.searchForward line column p

/-- Search backward from a position, if it is a place. -/
def searchBackFrom (ctx : Context) (start : Position) (p : Pattern) : Option Position :=
  start.counts?.bind fun (line, column) => ctx.searchBackward line column p

end Context

end XmlDiagnostics
