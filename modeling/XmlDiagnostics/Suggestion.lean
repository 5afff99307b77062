import XmlDiagnostics.Text.Lowercase

/-! # Suggestions

A name that is not known may be a misspelling of one that is. The edit distance counts the
insertions, deletions and substitutions of single characters that lead from one text to another; the
suggestion is the first of the closest candidates, if one is close enough. -/

namespace XmlDiagnostics

namespace EditDistance

/-- The entries of a row of the table to the right of `left`. The row belongs to the character `a`,
its columns to the characters of the second text, and `above` is the row before it from one column
to the left. -/
def rowRest (a : Char) (left : Nat) : List Char → List Nat → List Nat
  | b :: bs, diagonal :: top :: above =>
    let here := min (min (top + 1) (left + 1)) (diagonal + if a = b then 0 else 1)
    here :: rowRest a here bs (top :: above)
  | _, _ => []

/-- The row of the table that belongs to the character `a`, from the row before it. -/
def nextRow (bs : List Char) (row : List Nat) (a : Char) : List Nat :=
  match row with
  | [] => []
  | first :: _ => (first + 1) :: rowRest a (first + 1) bs row

/-- The row before the first character: the lengths of the beginnings of the second text. -/
def firstRow (bs : List Char) : List Nat := List.range (bs.length + 1)

/-- The edit distance of two texts, which is the last entry of the last row. -/
def distance (as bs : List Char) : Nat := ((as.foldl (nextRow bs) (firstRow bs)).getLast?).getD 0

end EditDistance

/-- The least number of insertions, deletions and substitutions of characters from `a` to `b`. -/
def levenshtein (a b : String) : Nat := EditDistance.distance a.toList b.toList

namespace Suggestion

/-- The edit distance of two names, both in small letters. -/
def closeness (unknown candidate : String) : Nat :=
  EditDistance.distance (Text.lowercase unknown.toList) (Text.lowercase candidate.toList)

/-- Whether a distance is close enough: at most the maximum and less than the length of the unknown
name, for which one is the least. -/
def qualifies (unknown : String) (maxDistance distance : Nat) : Bool :=
  distance ≤ maxDistance && distance < max unknown.length 1

/-- The first of the pairs with the least second part. -/
def firstLeast {α : Type} : List (α × Nat) → Option (α × Nat)
  | [] => none
  | entry :: rest =>
    match firstLeast rest with
    | none => some entry
    | some best => if entry.2 ≤ best.2 then some entry else some best

end Suggestion

/-- The first of the candidates closest to an unknown name that is close enough. -/
def suggestSimilar (unknown : String) (candidates : List String) (maxDistance : Nat) : Option String :=
  let distances := candidates.map fun candidate => (candidate, Suggestion.closeness unknown candidate)
  (Suggestion.firstLeast (distances.filter fun entry => Suggestion.qualifies unknown maxDistance entry.2)).map
    Prod.fst

end XmlDiagnostics
