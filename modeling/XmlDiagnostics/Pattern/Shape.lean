import XmlDiagnostics.Pattern.Basic
import XmlDiagnostics.Pattern.Ranges

/-! # Shapes of patterns

The shape of a pattern is what decides its size: its literals, the ranges of its sets, and how they are put
together. Shapes are kept simple. Literals next to each other are one, alternatives that are single
characters or sets are one set, alternatives that begin alike have their common beginning in front, and
repetitions that mean nothing are left out. -/

namespace XmlDiagnostics

/-- The shape of a pattern. -/
inductive Shape where
  | nothing
  | literal (text : List Char)
  | set (ranges : List (Nat × Nat))
  | anchor (condition : Anchor)
  | many (s : Shape) (least : Nat) (most : Option Nat) (greedy : Bool)
  | group (number : Nat) (s : Shape)
  | seq (shapes : List Shape)
  | alt (shapes : List Shape)
deriving Repr, Inhabited

namespace Shape

/-! ### What a shape takes -/

mutual

/-- Whether a shape takes no characters. -/
def isVoid : Shape → Bool
  | nothing => true
  | literal _ => false
  | set _ => false
  | anchor _ => true
  | many s _ _ _ => s.isVoid
  | group _ s => s.isVoid
  | seq shapes => areVoid shapes
  | alt shapes => areVoid shapes

/-- Whether no shape of several takes characters. -/
def areVoid : List Shape → Bool
  | [] => true
  | s :: rest => s.isVoid && areVoid rest

end

mutual

/-- The number of characters that a shape takes at least, if it can match at all. -/
def leastLength : Shape → Option Nat
  | nothing => some 0
  | literal text => some text.length
  | set ranges => if ranges.isEmpty then none else some 1
  | anchor _ => some 0
  | many s least _ _ => s.leastLength.map (· * least)
  | group _ s => s.leastLength
  | seq shapes => (leastLengths shapes).map fun lengths => lengths.foldl (· + ·) 0
  | alt shapes => (leastLengths shapes).bind List.min?

/-- The numbers of characters that several shapes take at least, if each of them can match. -/
def leastLengths : List Shape → Option (List Nat)
  | [] => some []
  | s :: rest => do return (← s.leastLength) :: (← leastLengths rest)

end

mutual

/-- Whether an anchor holds at the beginning of whatever a shape matches, or at its end if `back` is true. -/
def demands (condition : Anchor) (back : Bool) : Shape → Bool
  | anchor found => found = condition
  | many s least _ _ => least ≠ 0 && s.demands condition back
  | group _ s => s.demands condition back
  | seq shapes => if back then demandsLast condition shapes else demandsFirst condition shapes
  | alt shapes => !shapes.isEmpty && demandsEach condition back shapes
  | _ => false

/-- Whether an anchor holds at the beginning of whatever shapes match one after the other. -/
def demandsFirst (condition : Anchor) : List Shape → Bool
  | [] => false
  | s :: rest => s.demands condition false || (s.isVoid && demandsFirst condition rest)

/-- Whether an anchor holds at the end of whatever shapes match one after the other. -/
def demandsLast (condition : Anchor) : List Shape → Bool
  | [] => false
  | s :: rest => demandsLast condition rest || (areVoid rest && s.demands condition true)

/-- Whether an anchor holds in the same way for each of several shapes. -/
def demandsEach (condition : Anchor) (back : Bool) : List Shape → Bool
  | [] => true
  | s :: rest => s.demands condition back && demandsEach condition back rest

end

mutual

/-- Whether two shapes are the same. -/
def same : Shape → Shape → Bool
  | nothing, nothing => true
  | literal a, literal b => a = b
  | set a, set b => a = b
  | anchor a, anchor b => a = b
  | many a least most greedy, many b least' most' greedy' =>
    least = least' && most = most' && greedy = greedy' && a.same b
  | group n a, group m b => n = m && a.same b
  | seq as, seq bs => areSame as bs
  | alt as, alt bs => areSame as bs
  | _, _ => false

/-- Whether shapes are the same in pairs. -/
def areSame : List Shape → List Shape → Bool
  | [], [] => true
  | a :: as, b :: bs => a.same b && areSame as bs
  | _, _ => false

end

/-! ### Building shapes -/

/-- The shape of a set. A set of one character is a literal. -/
def ofRanges : List (Nat × Nat) → Shape
  | [(low, high)] => if low = high then literal [Char.ofNat low] else set [(low, high)]
  | ranges => set ranges

/-- A repeated shape. One that takes no characters is repeated once at most. -/
def repeated (s : Shape) (least : Nat) (most : Option Nat) (greedy : Bool) : Shape :=
  let least := if s.isVoid then min least 1 else least
  let most := if s.isVoid then some (min (most.getD 1) 1) else most
  if least = 0 && most = some 0 then nothing
  else if least = 1 && most = some 1 then s
  else many s least most greedy

/-- The parts of a shape that stand one after the other. -/
def parts : Shape → List Shape
  | nothing => []
  | seq shapes => shapes
  | s => [s]

/-- Put a shape before others, joined with the first of them if both are literals. -/
def before (s : Shape) (shapes : List Shape) : List Shape :=
  match s, shapes with
  | literal a, literal b :: rest => literal (a ++ b) :: rest
  | s, shapes => s :: shapes

/-- Shapes one after the other. -/
def sequence (shapes : List Shape) : Shape :=
  match (shapes.flatMap parts).foldr before [] with
  | [] => nothing
  | [s] => s
  | shapes => seq shapes

/-- The shapes between which a shape chooses. -/
def choices : Shape → List Shape
  | alt shapes => shapes
  | s => [s]

/-- The character that a shape is, if it is one. -/
def char? : Shape → Option Nat
  | literal [c] => some c.toNat
  | _ => none

/-- The ranges of the set that a shape is, if it is one. -/
def ranges? : Shape → Option (List (Nat × Nat))
  | set ranges => some ranges
  | _ => none

/-- The shapes of which a sequence consists, if a shape is one. -/
def sequence? : Shape → Option (List Shape)
  | seq shapes => some shapes
  | _ => none

/-- What two lists of shapes have in common at the beginning. -/
def commonStart : List Shape → List Shape → List Shape
  | a :: as, b :: bs => if a.same b then a :: commonStart as bs else []
  | _, _ => []

/-- What several lists of shapes have in common at the beginning. -/
def commonStarts : List (List Shape) → List Shape
  | [] => []
  | first :: rest => rest.foldl commonStart first

/-- A choice between shapes. A common beginning is lifted out of them at most `n` times, each time from a
choice one level deeper. -/
def choice (n : Nat) (shapes : List Shape) : Shape :=
  let shapes := shapes.flatMap choices
  match shapes with
  | [s] => s
  | shapes =>
    match shapes.mapM char?, shapes.mapM ranges?, shapes.mapM sequence?, n with
    | some chars, _, _, _ => ofRanges (sortRanges (chars.map fun n => (n, n)))
    | _, some ranges, _, _ => ofRanges (sortRanges ranges.flatten)
    | _, _, some sequences, n + 1 =>
      match commonStarts sequences with
      | [] => alt shapes
      | start => sequence (start ++ [choice n (sequences.map fun s => sequence (s.drop start.length))])
    | _, _, _, _ => alt shapes

end Shape

namespace Pattern

/-- How deeply the parts of a pattern may be nested. -/
def mostDepth : Nat := 250

/-- The shape of a pattern. -/
def shape : Pattern → Shape
  | empty => .nothing
  | one set => .ofRanges set.ranges
  | anchor condition => .anchor condition
  | seq p q => .sequence [p.shape, q.shape]
  | alt p q => .choice mostDepth [p.shape, q.shape]
  | group number p => .group number p.shape
  | many p least most greedy => p.shape.repeated least most greedy

end Pattern

end XmlDiagnostics
