import XmlDiagnostics.Pattern.CharSet
import XmlDiagnostics.Text.Octets

/-! # Sets as ranges

The ranges of numbers that a set of characters consists of, in increasing order and with gaps between
them, and the ranges of octets that its characters take in UTF-8. -/

namespace XmlDiagnostics

/-- The number of the last character. -/
def lastCharNumber : Nat := 0x10ffff

/-! ### Ranges of numbers -/

/-- Join ranges in increasing order that overlap or touch with the range before them. -/
def joinRanges : List (Nat × Nat) → List (Nat × Nat)
  | [] => []
  | first :: rest => go first rest
where
  /-- Go on after a range that may still grow. -/
  go (grown : Nat × Nat) : List (Nat × Nat) → List (Nat × Nat)
    | [] => [grown]
    | (low, high) :: rest =>
      if low ≤ grown.2 + 1 then go (grown.1, max grown.2 high) rest else grown :: go (low, high) rest

/-- Put a range in its place among ranges in increasing order. -/
def insertRange (range : Nat × Nat) : List (Nat × Nat) → List (Nat × Nat)
  | [] => [range]
  | first :: rest => if range.1 ≤ first.1 then range :: first :: rest else first :: insertRange range rest

/-- Ranges in increasing order that have the same numbers. -/
def sortRanges (ranges : List (Nat × Nat)) : List (Nat × Nat) := joinRanges (ranges.foldr insertRange [])

/-- The numbers from `low` on that no range has, the ranges being in increasing order. -/
def gapsFrom (low : Nat) : List (Nat × Nat) → List (Nat × Nat)
  | [] => if low ≤ lastCharNumber then [(low, lastCharNumber)] else []
  | (first, last) :: rest =>
    if low < first then (low, first - 1) :: gapsFrom (last + 1) rest else gapsFrom (last + 1) rest

/-- A range without the numbers that are no characters. -/
def charsOfRange (range : Nat × Nat) : List (Nat × Nat) :=
  [(range.1, min range.2 0xd7ff), (max range.1 0xe000, range.2)].filter fun (low, high) => low ≤ high

/-- The ranges of the word characters of ASCII. -/
def asciiWordRanges : List (Nat × Nat) := [(0x30, 0x39), (0x41, 0x5a), (0x5f, 0x5f), (0x61, 0x7a)]

/-- The ranges of the White_Space property. -/
def blankRanges : List (Nat × Nat) :=
  [(9, 13), (0x20, 0x20), (0x85, 0x85), (0xa0, 0xa0), (0x1680, 0x1680), (0x2000, 0x200a), (0x2028, 0x2029),
    (0x202f, 0x202f), (0x205f, 0x205f), (0x3000, 0x3000)]

/-- Letters with the letter that stands for all that differ from them in case alone, where it is another. -/
def caseLetters : List (Nat × Nat) :=
  (List.range 26).map (fun i => (0x41 + i, 0x61 + i)) ++ Text.foldRanges.flatMap fun r =>
    ((List.range (r.high - r.low + 1)).filter (· % r.step = 0)).map fun i =>
      (r.low + i, (Int.ofNat (r.low + i) + r.shift).toNat)

/-- The numbers of the characters that differ from one in some ranges in case alone. -/
def caseVariantsOf (ranges : List (Nat × Nat)) : List Nat :=
  let met := (caseLetters.filter fun (letter, common) =>
    Text.inRanges ranges letter || Text.inRanges ranges common).map Prod.snd
  met ++ (caseLetters.filter fun (_, common) => met.contains common).map Prod.fst

/-- The ranges of a set. -/
def CharSet.ranges : CharSet → List (Nat × Nat)
  | none => []
  | range low high => if low ≤ high then charsOfRange (low.toNat, high.toNat) else []
  | listed ranges => (sortRanges ranges).flatMap charsOfRange
  | word => sortRanges (asciiWordRanges ++ Text.wordRanges)
  | digit => sortRanges ((0x30, 0x39) :: Text.digitRanges)
  | blank => blankRanges
  | union a b => sortRanges (a.ranges ++ b.ranges)
  | complement a => (gapsFrom 0 a.ranges).flatMap charsOfRange
  | anyCase a => sortRanges (a.ranges ++ (caseVariantsOf a.ranges).map fun n => (n, n))
  | anyAsciiCase a =>
    let letters := (caseLetters.take 26).flatMap fun (capital, small) => [(capital, small), (small, capital)]
    sortRanges (a.ranges ++ (letters.filter fun (letter, _) => Text.inRanges a.ranges letter).map fun (_, n) => (n, n))

/-! ### Ranges of octets -/

/-- Where a range of numbers has to be cut so that before and after the cut octets are free of each other:
the last number before it. The last octet of a character counts 64 numbers, the last two 4096, the last
three 262144. -/
def cut? (low high : Nat) : Option Nat :=
  [64, 4096, 262144].findSome? fun size =>
    if low / size = high / size then none
    else if low % size ≠ 0 then some (low / size * size + size - 1)
    else if high % size ≠ size - 1 then some (high / size * size - 1)
    else none

/-- The characters of a range, described by ranges for each of their octets. There are at most `n` cuts one
in another. -/
def octetRanges : Nat → Nat × Nat → List (List (Nat × Nat))
  | 0, _ => []
  | n + 1, (low, high) =>
    let cut := ([0x7f, 0x7ff, 0xffff].find? fun last => low ≤ last && last < high).or
      (if high < 128 then none else cut? low high)
    match cut with
    | some last => octetRanges n (low, last) ++ octetRanges n (last + 1, high)
    | none => [(Text.octetsOf (Char.ofNat low)).zip (Text.octetsOf (Char.ofNat high))]

/-- The characters of some ranges, described by ranges of octets: at most three cuts part the lengths, and
two more for each octet but the first part the octets. -/
def allOctetRanges (ranges : List (Nat × Nat)) : List (List (Nat × Nat)) := ranges.flatMap (octetRanges 10)

end XmlDiagnostics
