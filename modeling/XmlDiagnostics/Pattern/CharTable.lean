import XmlDiagnostics.Pattern.Ranges
import XmlDiagnostics.Text.Split

/-! # Reading tables of characters

The tables of properties are written as rows of words. In one kind each word is a number and what holds of
the characters from there on up to the next word; in the other each word is a range of numbers. Numbers are
hexadecimal with small letters. -/

namespace XmlDiagnostics.CharTable

/-- The words of some rows. -/
def wordsOf (rows : List String) : List (List Char) :=
  rows.flatMap fun row => Text.splitAtEvery (· = ' ') row.toList

/-- A digit of a number in a table. -/
def isDigit (c : Char) : Bool := c.isDigit || ('a' ≤ c && c ≤ 'f')

/-- The number at the beginning of a word, and what follows it. -/
def splitNumber (word : List Char) : Nat × List Char :=
  let digits := word.takeWhile isDigit
  ((Text.numberOf? 16 digits).getD 0, word.drop digits.length)

/-! ### Ranges -/

/-- The ranges that a word means: a number, two with a hyphen, or with a slash behind them every second one
between them. -/
def rangesOfWord (word : List Char) : List (Nat × Nat) :=
  let (low, rest) := splitNumber word
  match rest with
  | '-' :: rest =>
    let (high, rest) := splitNumber rest
    if rest.head? = some '/' then (List.range ((high - low) / 2 + 1)).map fun i => (low + 2 * i, low + 2 * i)
    else [(low, high)]
  | _ => [(low, low)]

/-- The ranges that some rows mean. -/
def rangesOf (rows : List String) : List (Nat × Nat) := (wordsOf rows).flatMap rangesOfWord

/-! ### Classes -/

/-- A range of characters with the names of their classes, which take turns. -/
structure Span where
  low : Nat
  high : Nat
  classes : List (List Char)
deriving Repr

/-- The spans of some rows. -/
def spansOf (rows : List String) : List Span :=
  let starts := (wordsOf rows).map splitNumber
  List.zipWith (fun (low, classes) next => ⟨low, next - 1, Text.splitAtEvery (· = '/') classes⟩)
    starts ((starts.drop 1).map Prod.fst ++ [lastCharNumber + 1])

/-- The ranges of the characters of a span that are in one of some classes. -/
def Span.rangesIn (span : Span) (classes : List (List Char)) : List (Nat × Nat) :=
  match span.classes with
  | [found] => if classes.contains found then [(span.low, span.high)] else []
  | found =>
    ((List.range (span.high - span.low + 1)).filter fun i =>
      found[i % found.length]?.any classes.contains).map fun i => (span.low + i, span.low + i)

/-- The set of the characters that are in one of some classes. -/
def inClasses (rows : List String) (classes : List String) : CharSet :=
  .listed ((spansOf rows).flatMap fun span => span.rangesIn (classes.map String.toList))

end XmlDiagnostics.CharTable
