import XmlDiagnostics.Pattern.CharSet

/-! # Patterns

A pattern describes pieces of a text. Its parts are single characters of a set, anchors, sequences,
alternatives, groups with numbers, and repetitions. Anchors look at what stands around a place, so a
search that starts inside a line still sees the whole line. -/

namespace XmlDiagnostics

/-- How a place lies to a word. -/
inductive WordPlace where
  | edge
  | noEdge
  | start
  | stop
  | noneBefore
  | noneAfter
deriving Repr, DecidableEq

/-- A condition on what stands around a place. Words consist of word characters, or else only of those of
ASCII; a line may end with a carriage return too, or only with a line feed. -/
inductive Anchor where
  | textStart
  | textEnd
  | lineStart (carriageReturns : Bool)
  | lineEnd (carriageReturns : Bool)
  | word (ascii : Bool) (place : WordPlace)
deriving Repr, DecidableEq

/-- A pattern. -/
inductive Pattern where
  | empty
  | one (set : CharSet)
  | anchor (condition : Anchor)
  | seq (p q : Pattern)
  | alt (p q : Pattern)
  | group (number : Nat) (p : Pattern)
  | many (p : Pattern) (least : Nat) (most : Option Nat) (greedy : Bool)
deriving Repr, DecidableEq

/-! ### Places and pieces of a text -/

/-- A place in a text: how many characters lie before it, the last of them, and the next one. -/
structure Place where
  index : Nat
  before : Option Char
  after : Option Char
deriving Repr, DecidableEq

namespace Place

/-- The places of a text from left to right, the last one at its end. -/
def all (text : List Char) : List Place :=
  List.zipWith (fun (before, index) after => ⟨index, before, after⟩)
    ((none :: text.map some).zipIdx) (text.map some ++ [none])

/-- Whether a place is the start of a line. -/
def isLineStart (carriageReturns : Bool) (place : Place) : Bool :=
  place.before.all fun c => c = '\n' || (carriageReturns && c = '\r' && place.after ≠ some '\n')

/-- Whether a place is the end of a line. -/
def isLineEnd (carriageReturns : Bool) (place : Place) : Bool :=
  place.after.all fun c =>
    if carriageReturns then c = '\r' || (c = '\n' && place.before ≠ some '\r') else c = '\n'

end Place

/-- Whether a place lies to a word in a certain way, given whether the characters before and after it
belong to words. -/
def WordPlace.holds : WordPlace → Bool → Bool → Bool
  | edge, before, after => before != after
  | noEdge, before, after => before == after
  | start, before, after => !before && after
  | stop, before, after => before && !after
  | noneBefore, before, _ => !before
  | noneAfter, _, after => !after

/-- Whether a character belongs to a word. -/
def isWordIn (ascii : Bool) (c : Char) : Bool := Text.isWordChar c && (!ascii || c.toNat < 128)

/-- Whether an anchor holds at a place. -/
def Anchor.holds : Anchor → Place → Bool
  | textStart, place => place.before.isNone
  | textEnd, place => place.after.isNone
  | lineStart carriageReturns, place => place.isLineStart carriageReturns
  | lineEnd carriageReturns, place => place.isLineEnd carriageReturns
  | word ascii side, place => side.holds (place.before.any (isWordIn ascii)) (place.after.any (isWordIn ascii))

/-- A piece of a text, by the numbers of characters before its start and its end. -/
structure Piece where
  start : Nat
  stop : Nat
deriving Repr, DecidableEq

/-- The part of a text that a piece names. -/
def Piece.of (piece : Piece) (text : Array Char) : List Char := (text.extract piece.start piece.stop).toList

/-- What a pattern matched: the whole piece, and what the groups took, the latest first. -/
structure Match where
  piece : Piece
  groups : List (Nat × Piece)
deriving Repr, DecidableEq

namespace Match

/-- The piece that a group took; group zero is the whole match. -/
def group? (m : Match) (number : Nat) : Option Piece :=
  if number = 0 then some m.piece else m.groups.lookup number

/-- What a group took out of the text. -/
def groupText? (m : Match) (text : Array Char) (number : Nat) : Option (List Char) :=
  (m.group? number).map fun piece => piece.of text

end Match

namespace Pattern

/-! ### Building patterns -/

/-- One character. -/
def char (c : Char) : Pattern := one (.single c)

/-- The characters of a text one after the other. -/
def literal (text : List Char) : Pattern := text.foldr (fun c p => seq (char c) p) empty

/-- Patterns one after the other. -/
def sequence (ps : List Pattern) : Pattern := ps.foldr seq empty

/-- Any number of characters of a set, as many as possible. -/
def anyOf (set : CharSet) : Pattern := many (one set) 0 none true

/-- One character or more of a set, as many as possible. -/
def someOf (set : CharSet) : Pattern := many (one set) 1 none true

/-- A pattern or nothing, preferring the pattern. -/
def optional (p : Pattern) : Pattern := many p 0 (some 1) true

/-- One of the two quotation marks. -/
def quote : Pattern := one (.ofList ['"', '\''])

/-! ### How much a pattern takes -/

/-- Whether a pattern can match no text at all. -/
def isNullable : Pattern → Bool
  | empty => true
  | one _ => false
  | anchor _ => true
  | seq p q => p.isNullable && q.isNullable
  | alt p q => p.isNullable || q.isNullable
  | group _ p => p.isNullable
  | many p least _ _ => least = 0 || p.isNullable

/-- Whether a pattern matches no text but the empty one. -/
def isVoid : Pattern → Bool
  | empty => true
  | one _ => false
  | anchor _ => true
  | seq p q => p.isVoid && q.isVoid
  | alt p q => p.isVoid && q.isVoid
  | group _ p => p.isVoid
  | many p _ most _ => most = some 0 || p.isVoid

end Pattern

end XmlDiagnostics
