import XmlDiagnostics.Text.Octets

/-! # Places in a YAML text

Characters that end a line or separate tokens, and a cursor: the rest of a text after a place, with the
line and the column of the place, which decide how the parts of a block belong together. -/

namespace XmlDiagnostics.Yaml

/-- Characters that may stand in a YAML text: no controls but the tab and line ends. -/
def isAllowed (c : Char) : Bool :=
  let n := c.toNat
  c = '\t' || c = '\n' || c = '\r' || (0x20 ≤ n && n ≤ 0x7e) || n = 0x85 || (0xa0 ≤ n && n ≤ 0xfffd) || 0x10000 ≤ n

/-- Characters that end a line. -/
def isLineEnd (c : Char) : Bool := c = '\n' || c = '\r' || c = '\u0085' || c = '\u2028' || c = '\u2029'

/-- Space and tab. -/
def isSpace (c : Char) : Bool := c = ' ' || c = '\t'

/-- Whether what stands at a place is a line end or the end of the text. -/
def endsLine (c : Option Char) : Bool := c.all isLineEnd

/-- Whether what stands at a place is a space, a tab, a line end or the end of the text. -/
def endsWord (c : Option Char) : Bool := c.all fun c => isSpace c || isLineEnd c

/-- The characters of which the names of anchors and tags consist. -/
def isNameChar (c : Char) : Bool := c.isAlphanum || c = '_' || c = '-'

/-- A place in a text: what follows it, how many octets lie before it in UTF-8, its line, and its column in
characters. -/
structure Cursor where
  rest : List Char
  index : Nat := 0
  line : Nat := 0
  column : Nat := 0
deriving Repr, DecidableEq

namespace Cursor

/-- The character at a distance from a place. -/
def ahead (c : Cursor) (n : Nat) : Option Char := c.rest[n]?

/-- The character at a place. -/
def here (c : Cursor) : Option Char := c.rest.head?

/-- A place further in the same line. -/
def advance (c : Cursor) (n : Nat) : Cursor :=
  { c with
    rest := c.rest.drop n, index := c.index + Text.byteLength (c.rest.take n), column := c.column + n }

/-- The characters of a class from a place on, none of which ends a line, and the place after them. -/
def takeWhile (p : Char → Bool) (c : Cursor) : List Char × Cursor :=
  let taken := c.rest.takeWhile p
  (taken, c.advance taken.length)

/-- The place after the characters of a class, none of which ends a line. -/
def skipWhile (p : Char → Bool) (c : Cursor) : Cursor := (c.takeWhile p).2

/-- The place after a line end of some characters. -/
def nextLine (c : Cursor) (n : Nat) : Cursor :=
  { rest := c.rest.drop n, index := c.index + Text.byteLength (c.rest.take n), line := c.line + 1 }

/-- The line end at a place as a text keeps it, and the place after it. Only the separators of lines and
paragraphs stay what they are. -/
def takeLineEnd (c : Cursor) : List Char × Cursor :=
  match c.rest with
  | '\r' :: '\n' :: _ => (['\n'], c.nextLine 2)
  | ch :: _ =>
    if ch = '\u2028' || ch = '\u2029' then ([ch], c.nextLine 1)
    else if isLineEnd ch then (['\n'], c.nextLine 1)
    else ([], c)
  | [] => ([], c)

/-- The rest of a line up to its end, which may hold a comment; nothing else may stand there. -/
def finishLine (c : Cursor) : Option Cursor :=
  let c := c.skipWhile isSpace
  let c := if c.here = some '#' then c.skipWhile (!isLineEnd ·) else c
  if endsLine c.here then some c.takeLineEnd.2 else none

/-- Whether a line begins with three of the same character as a word of their own. -/
def isMarker (ch : Char) (c : Cursor) : Bool :=
  c.column = 0 && c.rest.take 3 = [ch, ch, ch] && endsWord (c.ahead 3)

/-- Whether a line begins with the mark of the beginning or the end of a document. -/
def isDocumentMark (c : Cursor) : Bool := c.isMarker '-' || c.isMarker '.'

end Cursor

end XmlDiagnostics.Yaml
