import XmlDiagnostics.Text.CaseTable
import XmlDiagnostics.Text.WordTable

/-! # Small letters and letter variants

`lowercase` puts every letter of a text into its small form. One capital, the Greek sigma, has two:
the final one at the end of a word. `caseVariants` lists the characters that differ from a character
in case alone. -/

namespace XmlDiagnostics.Text

/-- Whether a range of a table has a character. -/
def CaseRange.has (r : CaseRange) (n : Nat) : Bool := r.low ≤ n && n ≤ r.high && (n - r.low) % r.step = 0

/-- The character that corresponds to `c` by a table, which is the character itself if it is in no range. -/
def shifted (table : List CaseRange) (c : Char) : Char :=
  match table.find? fun r => r.has c.toNat with
  | some r => Char.ofNat ((c.toNat : Int) + r.shift).toNat
  | none => c

/-- The single small letter of a character, which is the character itself if it has none. -/
def smallLetter (c : Char) : Char := if c.toNat < 128 then c.toLower else shifted lowerRanges c

/-- Whether a search for a neighbour with case passes over a character. -/
def isCaseIgnorable (c : Char) : Bool := inRanges caseIgnorableRanges c.toNat

/-- Whether the first character that is not passed over has case. -/
def meetsCased (text : List Char) : Bool :=
  match text.dropWhile isCaseIgnorable with
  | [] => false
  | c :: _ => inRanges casedRanges c.toNat

/-- The small form of a character between `before`, read backwards, and `after`. The dotted capital I
takes two characters, and a sigma that ends a word its final form. -/
def smallForm (before : List Char) (c : Char) (after : List Char) : List Char :=
  if c = 'Σ' then [if meetsCased before && !meetsCased after then 'ς' else 'σ']
  else if c = 'İ' then ['i', '\u0307']
  else [smallLetter c]

/-- The small form of the rest of a text after `before`, which is read backwards. -/
def lowercaseAfter (before : List Char) : List Char → List Char
  | [] => []
  | c :: rest => smallForm before c rest ++ lowercaseAfter (c :: before) rest

/-- The small form of a text. -/
def lowercase (text : List Char) : List Char := lowercaseAfter [] text

/-! ### Variants of a letter -/

/-- The letter that stands for all characters that differ from `c` in case alone. -/
def commonLetter (c : Char) : Char := if c.toNat < 128 then c.toLower else shifted foldRanges c

/-- The other characters for which a letter stands. -/
def lettersFor (c : Char) : List Char :=
  if c.isLower then c.toUpper :: beyondAscii else beyondAscii
where
  /-- Those beyond ASCII. -/
  beyondAscii : List Char :=
    foldRanges.filterMap fun r =>
      let n := ((c.toNat : Int) - r.shift).toNat
      if r.has n then some (Char.ofNat n) else none

/-- The characters that differ from `c` at most in case. -/
def caseVariants (c : Char) : List Char := commonLetter c :: lettersFor (commonLetter c)

end XmlDiagnostics.Text
