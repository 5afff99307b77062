import XmlDiagnostics.Yaml.Cursor
import XmlDiagnostics.Yaml.Node

/-! # YAML scalars

Plain scalars, scalars in quotation marks and block scalars, each read from a place on to the place after
it. The lines of a scalar are joined: a single line end counts as a space, and of several one is left
out. -/

namespace XmlDiagnostics.Yaml

/-! ### Gaps between words -/

/-- What stands between two words of a scalar: the blanks before the first line end, that line end if
there is one, and the line ends after it, which are kept backwards. -/
structure Gap where
  blanks : List Char := []
  broken : Bool := false
  first : List Char := []
  further : List Char := []
deriving Repr, DecidableEq

namespace Gap

/-- What a gap counts as in the text of the scalar. -/
def joined (gap : Gap) : List Char :=
  if !gap.broken then gap.blanks
  else if gap.first = ['\n'] then (if gap.further.isEmpty then [' '] else gap.further.reverse)
  else gap.first ++ gap.further.reverse

/-- Read on in a gap, `n` lines at most. A tab that stands for indentation to the left of the column `least`
is an error. -/
def read (least : Nat) : Nat → Gap → Cursor → Option (Gap × Cursor)
  | 0, gap, c => some (gap, c)
  | n + 1, gap, c =>
    let (blanks, next) := c.takeWhile isSpace
    if gap.broken && (blanks.take (least - c.column)).contains '\t' then none
    else
      let gap := if gap.broken then gap else { gap with blanks }
      if next.here.any isLineEnd then
        let (lineEnd, next) := next.takeLineEnd
        if gap.broken then read least n { gap with further := lineEnd ++ gap.further } next
        else read least n { gap with broken := true, first := lineEnd } next
      else some (gap, next)

end Gap

/-! ### Scalars in quotation marks -/

/-- The character that a letter after a backslash stands for. -/
def escapeLetters : List (Char × Char) :=
  [('0', '\x00'), ('a', '\x07'), ('b', '\x08'), ('t', '\t'), ('\t', '\t'), ('n', '\n'), ('v', '\x0b'),
    ('f', '\x0c'), ('r', '\r'), ('e', '\x1b'), (' ', ' '), ('"', '"'), ('/', '/'), ('\\', '\\'),
    ('N', '\u0085'), ('_', '\u00a0'), ('L', '\u2028'), ('P', '\u2029')]

/-- How many hexadecimal digits follow a letter after a backslash. -/
def escapeWidths : List (Char × Nat) := [('x', 2), ('u', 4), ('U', 8)]

/-- The character that an escape after a backslash stands for, and how many characters it takes. -/
def escape? : List Char → Option (Char × Nat)
  | [] => none
  | c :: rest =>
    match escapeLetters.lookup c, escapeWidths.lookup c with
    | some d, _ => some (d, 1)
    | none, some width =>
      if rest.length < width then none else (Text.charOfHex? (rest.take width)).map fun d => (d, width + 1)
    | none, none => none

/-- Read the rest of a scalar in quotation marks, at most `n` pieces of it; `read` holds what has been
read, backwards. A line in it does not begin with the mark of a document. Every piece takes a character, as
every line of a gap does. -/
def readQuoted (quote : Char) : Nat → List Char → Cursor → Option (List Char × Cursor)
  | 0, _, _ => none
  | n + 1, read, c =>
    let afterGap := fun (start : Gap) (c : Cursor) => do
      let (gap, c) ← Gap.read 0 (n + 1) start c
      readQuoted quote n (gap.joined.reverse ++ read) c
    if c.isDocumentMark then none
    else
      match c.here with
      | none => none
      | some ch =>
        if isSpace ch || isLineEnd ch then afterGap {} c
        else if ch = quote then
          if quote = '\'' && c.ahead 1 = some '\'' then readQuoted quote n ('\'' :: read) (c.advance 2)
          else some (read.reverse, c.advance 1)
        else if ch = '\\' && quote = '"' then
          if (c.ahead 1).any isLineEnd then afterGap { broken := true } (c.advance 1).takeLineEnd.2
          else
            match escape? (c.rest.drop 1) with
            | some (d, width) => readQuoted quote n (d :: read) (c.advance (width + 1))
            | none => none
        else readQuoted quote n (ch :: read) (c.advance 1)

/-! ### Plain scalars -/

/-- Characters that end a plain scalar inside a flow collection. -/
def isFlowMark (c : Char) : Bool := c = ',' || c = '[' || c = ']' || c = '\x7b' || c = '\x7d'

/-- Whether a plain scalar ends before the character `ch` at a place. -/
def endsPlain (inFlow : Bool) (c : Cursor) (ch : Char) : Bool :=
  (ch = ':' && endsWord (c.ahead 1)) || (inFlow && isFlowMark ch)

/-- Read the rest of a plain scalar, at most `n` pieces of it, from the beginning of a word if `fresh`.
`read` holds what has been read, backwards, and `gap` what came after it. Outside of flow collections its
lines begin at the column `least` or further right. The answer tells also whether a line end came last. -/
def readPlain (inFlow : Bool) (least : Nat) : Nat → Bool → List Char → Gap → Cursor →
    Option (List Char × Bool × Cursor)
  | 0, _, _, _, _ => none
  | n + 1, fresh, read, gap, c =>
    if fresh && (c.isDocumentMark || c.here = some '#') then some (read.reverse, gap.broken, c)
    else
      match c.here with
      | none => some (read.reverse, gap.broken, c)
      | some ch =>
        if isSpace ch || isLineEnd ch then do
          let (gap, c) ← Gap.read least (n + 1) {} c
          if !inFlow && c.column < least then some (read.reverse, gap.broken, c)
          else readPlain inFlow least n true read gap c
        else if inFlow && ch = ':' && (c.ahead 1).any (fun d => isFlowMark d || d = '?') then none
        else if endsPlain inFlow c ch then some (read.reverse, gap.broken, c)
        else readPlain inFlow least n false (ch :: (gap.joined.reverse ++ read)) {} (c.advance 1)

/-- Whether a plain scalar can begin at a place. -/
def beginsPlain (inFlow : Bool) (c : Cursor) : Bool :=
  match c.here with
  | none => false
  | some ch =>
    if ch = '-' then !(c.ahead 1).any isSpace
    else if ch = '?' || ch = ':' then !inFlow && !endsWord (c.ahead 1)
    else !(isSpace ch || isLineEnd ch || isFlowMark ch ||
      ['#', '&', '*', '!', '|', '>', '\'', '"', '%', '@', '\x60'].contains ch)

/-! ### Block scalars -/

/-- What becomes of the line ends after a block scalar. -/
inductive Chomping where
  | strip
  | clip
  | keep
deriving Repr, DecidableEq

/-- The chomping that a character demands. -/
def Chomping.of? : Option Char → Option Chomping
  | some '+' => some .keep
  | some '-' => some .strip
  | _ => none

/-- The header of a block scalar after its first character: the chomping and the indentation if it is
given, in either order. An indentation of zero is an error. -/
def readBlockHeader (c : Cursor) : Option (Chomping × Option Nat × Cursor) :=
  let digit := fun (c : Cursor) => c.here.filter Char.isDigit
  let width := fun (ch : Char) => ch.toNat - '0'.toNat
  match Chomping.of? c.here with
  | some chomping =>
    match digit (c.advance 1) with
    | some '0' => none
    | some ch => some (chomping, some (width ch), c.advance 2)
    | none => some (chomping, none, c.advance 1)
  | none =>
    match digit c with
    | some '0' => none
    | some ch =>
      match Chomping.of? (c.ahead 1) with
      | some chomping => some (chomping, some (width ch), c.advance 2)
      | none => some (.clip, some (width ch), c.advance 1)
    | none => some (.clip, none, c)

/-- Skip the indentation of lines and the empty lines among them, `n` lines at most: the line ends passed,
backwards, the largest column met, and the place after the indentation. Without a given column all spaces are
indentation. A tab in the indentation is an error. -/
def skipIndentation (column : Option Nat) : Nat → List Char → Nat → Cursor → Option (List Char × Nat × Cursor)
  | 0, _, _, _ => none
  | n + 1, lineEnds, widest, c =>
    let spaces := (c.rest.takeWhile (· = ' ')).length
    let c := c.advance (column.elim spaces fun column => min spaces (column - c.column))
    let widest := max widest c.column
    if c.here = some '\t' && column.all (c.column < ·) then none
    else if c.here.any isLineEnd then
      let (lineEnd, next) := c.takeLineEnd
      skipIndentation column n (lineEnd ++ lineEnds) widest next
    else some (lineEnds, widest, c)

/-- Read the lines of a block scalar, `n` of them at most, from the first character after the indentation
on. What has been read is in `read`, backwards, `lineEnd` is the end of the line before, `empty` the empty lines
after it, also backwards, and `blank` tells whether that line began with a blank; folding joins lines that do
not begin with one. -/
def readBlockLines (folded : Bool) (chomping : Chomping) (column : Nat) :
    Nat → List Char → List Char → List Char → Bool → Cursor → Option (List Char × Cursor)
  | 0, _, _, _, _, _ => none
  | n + 1, read, lineEnd, empty, blank, c =>
    if c.column = column && c.here.isSome then do
      let blankNow := c.here.any isSpace
      let joint :=
        if folded && lineEnd = ['\n'] && !blank && !blankNow then (if empty.isEmpty then [' '] else [])
        else lineEnd
      let (line, c) := c.takeWhile (!isLineEnd ·)
      let (lineEnd, c) := c.takeLineEnd
      let (emptyNext, _, c) ← skipIndentation (some column) (n + 1) [] 0 c
      readBlockLines folded chomping column n (line.reverse ++ empty ++ joint ++ read) lineEnd emptyNext blankNow c
    else
      match chomping with
      | .strip => some (read.reverse, c)
      | .clip => some ((lineEnd ++ read).reverse, c)
      | .keep => some ((empty ++ lineEnd ++ read).reverse, c)

/-- Read a block scalar of less than `n` lines after its first character. Its lines are indented as the header
says, or else as the first line is, but at least to the column `least`. -/
def readBlock (folded : Bool) (least n : Nat) (c : Cursor) : Option (List Char × Cursor) := do
  let (chomping, given, c) ← readBlockHeader c
  let c ← c.finishLine
  let column := given.map fun width => least - 1 + width
  let (lineEnds, widest, c) ← skipIndentation column n [] 0 c
  let column := column.getD (max widest (max least 1))
  readBlockLines folded chomping column n [] [] lineEnds false c

end XmlDiagnostics.Yaml
