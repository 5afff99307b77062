import XmlDiagnostics.Text.Blank
import XmlDiagnostics.Text.Lowercase

/-! # Sets of characters

The sets that a pattern can name: ranges, the classes of word characters, digits and blanks, unions,
complements, and the closure of a set under differences of case. -/

namespace XmlDiagnostics

/-- A set of characters as a pattern describes it. -/
inductive CharSet where
  | none
  | range (low high : Char)
  | listed (ranges : List (Nat × Nat))
  | word
  | digit
  | blank
  | union (a b : CharSet)
  | complement (a : CharSet)
  | anyCase (a : CharSet)
  | anyAsciiCase (a : CharSet)
deriving Repr, DecidableEq

namespace CharSet

/-- Whether a character belongs to a set. -/
def contains : CharSet → Char → Bool
  | none, _ => false
  | range low high, c => low ≤ c && c ≤ high
  | listed ranges, c => Text.inRanges ranges c.toNat
  | word, c => Text.isWordChar c
  | digit, c => Text.isDecimalDigit c
  | blank, c => Text.isBlank c
  | union a b, c => a.contains c || b.contains c
  | complement a, c => !a.contains c
  | anyCase a, c => (Text.caseVariants c).any a.contains
  | anyAsciiCase a, c => a.contains c || a.contains c.toLower || a.contains c.toUpper

/-- The set of one character. -/
def single (c : Char) : CharSet := range c c

/-- The characters of two sets at once. -/
def inter (a b : CharSet) : CharSet := complement (union (complement a) (complement b))

/-- The characters of a list. -/
def ofList (cs : List Char) : CharSet := cs.foldr (fun c set => union (single c) set) none

/-- Every character but the line feed. -/
def notLineFeed : CharSet := complement (single '\n')

/-- Every character. -/
def all : CharSet := complement none

/-- The characters of one set that are not in another. -/
def difference (a b : CharSet) : CharSet := inter a (complement b)

/-- The characters of several sets. -/
def unions (sets : List CharSet) : CharSet := sets.foldr union none

end CharSet

end XmlDiagnostics
