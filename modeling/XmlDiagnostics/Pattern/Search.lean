import XmlDiagnostics.Pattern.Automaton

/-! # Matching and searching

A text is scanned from its end: at each place the scan notes which nodes of the automaton are live there.
With these notes the preferred match at a place is found without a wrong turn, and a search takes the
leftmost place that has a match. -/

namespace XmlDiagnostics

/-- A place in a text, and the nodes of an automaton that are live there. -/
structure Stop where
  place : Place
  live : Automaton.Nodes

/-- A text from a place on, scanned for an automaton. -/
structure Scan where
  automaton : Automaton
  stops : List Stop

namespace Automaton

/-- Scan a text for an automaton. -/
def scan (a : Automaton) (text : List Char) : Scan :=
  ⟨a, (Place.all text).foldr
    (fun place stops => ⟨place, a.liveAt place (stops.head?.elim ∅ Stop.live)⟩ :: stops) []⟩

/-! ### Matches -/

/-- The groups of a match on its way: where those begin that are open, and what the finished ones took,
the latest first. -/
structure Groups where
  opened : List (Nat × Nat) := []
  closed : List (Nat × Piece) := []

/-- Pass the border of a group at a place. -/
def Groups.pass (index : Nat) (border : Border) (groups : Groups) : Groups :=
  if border.closing then
    { groups with
      closed := (border.group, ⟨(groups.opened.lookup border.group).getD index, index⟩) :: groups.closed }
  else { groups with opened := (border.group, index) :: groups.opened }

/-- Follow the preferred routes from a node to the end of a match; the answer is where it ends and what
the groups took. -/
def finish (a : Automaton) (node : Nat) (groups : Groups) : List Stop → Option (Nat × Groups)
  | [] => none
  | stop :: stops =>
    match a.route? stop.place stop.live node with
    | none => none
    | some route =>
      let groups := route.borders.foldr (Groups.pass stop.place.index) groups
      match a.nodes[route.last]? with
      | some (.read _ next) => a.finish next groups stops
      | _ => some (stop.place.index, groups)

end Automaton

namespace Scan

/-- The scan of the same text from a place further right. -/
def drop (s : Scan) (n : Nat) : Scan := { s with stops := s.stops.drop n }

/-- The preferred match at the first place. -/
def first? (s : Scan) : Option Match :=
  match s.stops with
  | [] => none
  | stop :: _ =>
    (s.automaton.finish s.automaton.start {} s.stops).map fun (index, groups) =>
      ⟨⟨stop.place.index, index⟩, groups.closed⟩

/-- The preferred match at the leftmost place that has one. -/
def search (a : Automaton) : List Stop → Option Match
  | [] => none
  | stop :: stops =>
    match first? ⟨a, stop :: stops⟩ with
    | some m => some m
    | none => search a stops

/-- The leftmost match. -/
def find? (s : Scan) : Option Match := search s.automaton s.stops

/-- The last place at which a match starts, among the first ones, as the number of places before it. -/
def lastIn (a : Automaton) : Nat → List Stop → Option Nat
  | 0, _ => none
  | _, [] => none
  | bound + 1, stop :: stops =>
    match lastIn a bound stops with
    | some n => some (n + 1)
    | none => if (first? ⟨a, stop :: stops⟩).isSome then some 0 else none

/-- The last place at which a match starts, among the first `bound` ones, as the number of places before it. -/
def lastStart? (s : Scan) (bound : Nat) : Option Nat := lastIn s.automaton bound s.stops

/-- At most `n` matches, each after the end of the one before; after a match of no text the search goes
on one character further. -/
def takeMatches (s : Scan) : Nat → List Match
  | 0 => []
  | n + 1 =>
    match s.find? with
    | none => []
    | some m =>
      let index := s.stops.head?.elim 0 (·.place.index)
      let next := if m.piece.stop = m.piece.start then m.piece.stop + 1 else m.piece.stop
      m :: takeMatches (s.drop (next - index)) n

end Scan

namespace Pattern

/-- Scan a text for a pattern. -/
def scan (p : Pattern) (text : List Char) : Scan := (Automaton.ofPattern p).scan text

/-- The preferred match that starts at a place of a text. -/
def matchAt (p : Pattern) (text : List Char) (index : Nat) : Option Match := ((p.scan text).drop index).first?

/-- The leftmost match in a text that starts at or after a place. -/
def search (p : Pattern) (text : List Char) (index : Nat) : Option Match := ((p.scan text).drop index).find?

/-- The leftmost match in a text. -/
def find? (p : Pattern) (text : List Char) : Option Match := p.search text 0

/-- The matches in a text from left to right without overlap. -/
def findAll (p : Pattern) (text : List Char) : List Match := (p.scan text).takeMatches (text.length + 1)

end Pattern

end XmlDiagnostics
