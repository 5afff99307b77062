import XmlDiagnostics.Yaml.Scalar

/-! # YAML tokens

A YAML text is cut into tokens. Where blocks begin and end is told by columns alone, and that a scalar is a
key only by the colon after it, so the tokens for the beginning of a block and for a key are put in before
the tokens that turn out to belong to them. A key of this kind lies in one line and within 1024
characters. -/

namespace XmlDiagnostics.Yaml

/-- A token. -/
inductive Token where
  | version (major minor : Nat)
  | tagHandle (handle : List Char) (replacement : List Nat)
  | documentStart
  | documentEnd
  | blockSequence
  | blockMapping
  | blockEnd
  | openBracket
  | closeBracket
  | openBrace
  | closeBrace
  | comma
  | item
  | key
  | value
  | alias (name : List Char)
  | anchor (name : List Char)
  | tag (handle : List Char) (suffix : List Nat)
  | scalar (style : Style) (text : List Char)
deriving Repr, DecidableEq

namespace Token

/-! ### Directives, anchors and tags -/

/-- Read a number of at most nine digits. -/
def readNumber (c : Cursor) : Option (Nat × Cursor) := do
  let (digits, c) := c.takeWhile Char.isDigit
  guard (digits.length ≤ 9)
  return (← Text.numberOf? 10 digits, c)

/-- Characters of a tag. Those of flow collections belong to it only in the long form. -/
def isTagChar (long : Bool) (c : Char) : Bool :=
  isNameChar c || ";/?:@&=+$.%!~*'()".toList.contains c || (long && (c = ',' || c = '[' || c = ']'))

/-- The length of the character that an octet begins in UTF-8. -/
def widthOfLead (octet : Nat) : Option Nat :=
  if octet < 0x80 then some 1
  else if 0xc0 ≤ octet && octet < 0xe0 then some 2
  else if 0xe0 ≤ octet && octet < 0xf0 then some 3
  else if 0xf0 ≤ octet && octet < 0xf8 then some 4
  else none

/-- An octet given by two hexadecimal digits. -/
def octetOf? : List Char → Option Nat
  | [a, b] => Text.numberOf? 16 [a, b]
  | _ => none

/-- The octets of the characters of a tag, if its percent signs are those of characters: `left` tells how
many octets the character at hand still has. -/
def octetsOfTag? : Nat → List Char → Option (List Nat)
  | left, '%' :: a :: b :: rest => do
    let octet ← octetOf? [a, b]
    match left with
    | 0 => do
      let width ← widthOfLead octet
      return octet :: (← octetsOfTag? (width - 1) rest)
    | left + 1 => do
      guard (0x80 ≤ octet && octet < 0xc0)
      return octet :: (← octetsOfTag? left rest)
  | _, '%' :: _ => none
  | 0, c :: rest => (octetsOfTag? 0 rest).map (Text.octetsOf c ++ ·)
  | 0, [] => some []
  | _ + 1, _ => none

/-- The octets of a part of a tag that is written after `start`. A part ends before an octet zero, but what
follows has to be well-formed too. -/
def partOfTag? (start text : List Char) : Option (List Nat) :=
  (octetsOfTag? 0 text).map fun octets => (start.flatMap Text.octetsOf ++ octets).takeWhile (· ≠ 0)

/-- Read a part of a tag, which goes on with the name in a handle, and is not empty together with it. -/
def readTagPart (long : Bool) (handle : List Char) (c : Cursor) : Option (List Nat × Cursor) := do
  let (text, c) := c.takeWhile (isTagChar long)
  guard (!(handle ++ text).isEmpty)
  return (← partOfTag? (handle.drop 1) text, c)

/-- Read the handle of a tag: an exclamation mark, and a name with another one or not. -/
def readHandle (c : Cursor) : Option (List Char × Cursor) :=
  if c.here = some '!' then
    let (name, c) := (c.advance 1).takeWhile isNameChar
    if c.here = some '!' then some ('!' :: name ++ ['!'], c.advance 1) else some ('!' :: name, c)
  else none

/-- Read a directive after its percent sign. -/
def readDirective (c : Cursor) : Option (Token × Cursor) := do
  let (name, c) := c.takeWhile isNameChar
  guard (endsWord c.here)
  let c := c.skipWhile isSpace
  match String.ofList name with
  | "YAML" => do
    let (major, c) ← readNumber c
    guard (c.here = some '.')
    let (minor, c) ← readNumber (c.advance 1)
    return (.version major minor, ← c.finishLine)
  | "TAG" => do
    let (handle, c) ← readHandle c
    guard (handle = ['!'] || handle.getLast? = some '!')
    guard (c.here.any isSpace)
    let (replacement, c) ← readTagPart true [] (c.skipWhile isSpace)
    guard (endsWord c.here)
    return (.tagHandle handle replacement, ← c.finishLine)
  | _ => none

/-- Read the name of an anchor or alias after its mark. -/
def readAnchorName (c : Cursor) : Option (List Char × Cursor) :=
  let (name, c) := c.takeWhile isNameChar
  if !name.isEmpty && (endsWord c.here || c.here.any "?:,]\x7d%@\x60".toList.contains) then some (name, c) else none

/-- Read a tag: in angle brackets, with a handle, or short. A lone exclamation mark is a tag of its own. -/
def readTag (inFlow : Bool) (c : Cursor) : Option (Token × Cursor) := do
  let (token, c) ←
    if c.ahead 1 = some '<' then do
      let (suffix, c) ← readTagPart true [] (c.advance 2)
      guard (c.here = some '>')
      pure (tag [] suffix, c.advance 1)
    else do
      let (handle, c) ← readHandle c
      if handle.length > 1 && handle.getLast? = some '!' then do
        let (suffix, c) ← readTagPart false [] c
        pure (tag handle suffix, c)
      else do
        let (suffix, c) ← readTagPart false handle c
        pure (if suffix.isEmpty then tag [] (Text.octetsOf '!') else tag ['!'] suffix, c)
  guard (endsWord c.here || (inFlow && c.here = some ','))
  return (token, c)

end Token

/-! ### Keys and blocks -/

/-- A place where a key without a mark may begin: the number of tokens before it, whether it has to be a
key, and where it stands. -/
structure KeyPlace where
  tokens : Nat
  required : Bool
  index : Nat
  line : Nat
  column : Nat
deriving Repr, DecidableEq

/-- A text being cut into tokens. The contents of the innermost block begin at the column `margin` or
further right, if they are not further parts of the block itself, which begins one column before; the
margins of the blocks around it follow. For each flow collection being open, and for what is around them,
`keys` has the place where a key may begin. -/
structure Cutter where
  cursor : Cursor
  tokens : Array Token := #[]
  margin : Nat := 0
  outer : List Nat := []
  keys : List (Option KeyPlace) := [none]
  keyAllowed : Bool := true
deriving Repr

namespace Cutter

/-- Whether a flow collection is open. -/
def inFlow (s : Cutter) : Bool := 1 < s.keys.length

/-- One more token. -/
def push (token : Token) (s : Cutter) : Cutter := { s with tokens := s.tokens.push token }

/-- A token of some characters, after which a key may begin or not. -/
def take (token : Token) (width : Nat) (keyAllowed : Bool) (s : Cutter) : Cutter :=
  { s.push token with cursor := s.cursor.advance width, keyAllowed }

/-- A token read up to a place, after which no key may begin. -/
def takeTo (token : Token) (c : Cursor) (s : Cutter) : Cutter :=
  { s.push token with cursor := c, keyAllowed := false }

/-- Skip blanks, comments and line ends, at most `n` lines. Outside of flow collections a key may begin in
a new line, and a tab is no blank where a key may begin. -/
def skipBlanks : Nat → Cutter → Cutter
  | 0, s => s
  | n + 1, s =>
    let c := s.cursor
    let c := if c.column = 0 && c.here = some '\ufeff' then c.advance 1 else c
    let c := c.skipWhile fun ch => ch = ' ' || (ch = '\t' && (s.inFlow || !s.keyAllowed))
    let c := if c.here = some '#' then c.skipWhile (!isLineEnd ·) else c
    if c.here.any isLineEnd then
      skipBlanks n { s with cursor := c.takeLineEnd.2, keyAllowed := s.keyAllowed || !s.inFlow }
    else { s with cursor := c }

/-- End the blocks whose column lies to the right of the column before `margin`. -/
def endBlocks (margin : Nat) (s : Cutter) : Cutter :=
  if s.inFlow then s else go (s.margin :: s.outer) s
where
  /-- End the innermost of some blocks, and go on with the others. -/
  go : List Nat → Cutter → Cutter
    | innermost :: outer, s =>
      if margin < innermost then
        go outer { s.push .blockEnd with margin := outer.head?.getD 0, outer := outer.tail }
      else s
    | [], s => s

/-- Begin a block at a column unless one has begun there; its token comes after `before` tokens. -/
def beginBlock (column : Nat) (token : Token) (before : Nat) (s : Cutter) : Cutter :=
  if s.inFlow || column < s.margin then s
  else
    { s with
      margin := column + 1, outer := s.margin :: s.outer, tokens := s.tokens.insertIdxIfInBounds before token }

/-- Give up the innermost place of a key; a required key is an error. -/
def dropKey (s : Cutter) : Option Cutter :=
  match s.keys with
  | some key :: keys => if key.required then none else some { s with keys := none :: keys }
  | _ => some s

/-- Whether the place of a key lies in an earlier line or too far back. -/
def isOld (s : Cutter) (key : KeyPlace) : Bool :=
  key.line < s.cursor.line || key.index + 1024 < s.cursor.index

/-- Give up the innermost place of a key if it is old. Those around it are looked at when they are the
innermost. -/
def dropOldKey (s : Cutter) : Option Cutter :=
  if (s.keys.head?.join).any s.isOld then s.dropKey else some s

/-- Note that a key may begin here, if it may. -/
def noteKey (s : Cutter) : Option Cutter :=
  if s.keyAllowed then do
    let required := !s.inFlow && s.margin = s.cursor.column + 1
    let s ← s.dropKey
    let key : KeyPlace := ⟨s.tokens.size, required, s.cursor.index, s.cursor.line, s.cursor.column⟩
    return { s with keys := some key :: s.keys.tail }
  else some s

/-! ### The tokens of a text -/

/-- Take the mark of a document. -/
def takeDocumentMark (token : Token) (s : Cutter) : Option Cutter := do
  let s ← (s.endBlocks 0).dropKey
  return s.take token 3 false

/-- Take an opening bracket or brace. -/
def openFlow (token : Token) (s : Cutter) : Option Cutter := do
  let s ← s.noteKey
  return { s with keys := none :: s.keys }.take token 1 true

/-- Take a closing bracket or brace. -/
def closeFlow (token : Token) (s : Cutter) : Option Cutter := do
  let s ← s.dropKey
  return { s with keys := if s.inFlow then s.keys.tail else s.keys }.take token 1 false

/-- Take the mark of an item or a key that begins a block if none has begun in its column. -/
def takeMark (token block : Token) (keyAllowed : Bool) (s : Cutter) : Option Cutter := do
  guard (s.inFlow || s.keyAllowed)
  let s ← (s.beginBlock s.cursor.column block s.tokens.size).dropKey
  return s.take token 1 keyAllowed

/-- Take the colon before a value. If a key has begun before it, the tokens for the key and its block are
put in there. -/
def takeValue (s : Cutter) : Option Cutter :=
  match s.keys with
  | some key :: keys =>
    let s := { s with keys := none :: keys, tokens := s.tokens.insertIdxIfInBounds key.tokens .key }
    some ((s.beginBlock key.column .blockMapping key.tokens).take .value 1 false)
  | _ => do
    guard (s.inFlow || s.keyAllowed)
    return (s.beginBlock s.cursor.column .blockMapping s.tokens.size).take .value 1 (!s.inFlow)

/-- Take a directive. -/
def takeDirective (s : Cutter) : Option Cutter := do
  let s ← (s.endBlocks 0).dropKey
  let (token, c) ← Token.readDirective (s.cursor.advance 1)
  return s.takeTo token c

/-- Take an anchor or alias. -/
def takeAnchor (token : List Char → Token) (s : Cutter) : Option Cutter := do
  let s ← s.noteKey
  let (name, c) ← Token.readAnchorName (s.cursor.advance 1)
  return s.takeTo (token name) c

/-- Take a tag. -/
def takeTag (s : Cutter) : Option Cutter := do
  let s ← s.noteKey
  let (token, c) ← Token.readTag s.inFlow s.cursor
  return s.takeTo token c

/-- Take a scalar in quotation marks, of less than `n` characters. -/
def takeQuoted (quote : Char) (n : Nat) (s : Cutter) : Option Cutter := do
  let s ← s.noteKey
  let (text, c) ← readQuoted quote n [] (s.cursor.advance 1)
  return s.takeTo (.scalar .other text) c

/-- Take a block scalar of less than `n` lines, after which a key may begin. -/
def takeBlock (folded : Bool) (n : Nat) (s : Cutter) : Option Cutter := do
  let s ← s.dropKey
  let (text, c) ← readBlock folded s.margin n (s.cursor.advance 1)
  return { s.push (.scalar (if folded then .other else .literal) text) with cursor := c, keyAllowed := true }

/-- Take a plain scalar of less than `n` characters. If it ends at a line end, a key may begin after it. -/
def takePlain (n : Nat) (s : Cutter) : Option Cutter := do
  let s ← s.noteKey
  let (text, atLineEnd, c) ← readPlain s.inFlow s.margin n true [] {} s.cursor
  return { s.push (.scalar .plain text) with cursor := c, keyAllowed := atLineEnd }

/-- Take the next token, which begins with the character `ch`, from less than `n` characters that are left. -/
def takeToken (ch : Char) (n : Nat) (s : Cutter) : Option Cutter :=
  let c := s.cursor
  let alone := endsWord (c.ahead 1)
  if c.column = 0 && ch = '%' then s.takeDirective
  else if c.isMarker '-' then s.takeDocumentMark .documentStart
  else if c.isMarker '.' then s.takeDocumentMark .documentEnd
  else if ch = '[' then s.openFlow .openBracket
  else if ch = '\x7b' then s.openFlow .openBrace
  else if ch = ']' then s.closeFlow .closeBracket
  else if ch = '\x7d' then s.closeFlow .closeBrace
  else if ch = ',' then s.dropKey.map (take .comma 1 true)
  else if ch = '-' && alone then s.takeMark .item .blockSequence true
  else if ch = '?' && (s.inFlow || alone) then s.takeMark .key .blockMapping (!s.inFlow)
  else if ch = ':' && (s.inFlow || alone) then s.takeValue
  else if ch = '*' then s.takeAnchor .alias
  else if ch = '&' then s.takeAnchor .anchor
  else if ch = '!' then s.takeTag
  else if ch = '|' && !s.inFlow then s.takeBlock false n
  else if ch = '>' && !s.inFlow then s.takeBlock true n
  else if ch = '\'' || ch = '"' then s.takeQuoted ch n
  else if beginsPlain s.inFlow c then s.takePlain n
  else none

/-- Take the tokens to the end of the text, of which less than `n` characters are left; what is open at the end
ends there. -/
def takeAll : Nat → Cutter → Option (List Token)
  | 0, _ => none
  | n + 1, s => do
    let s ← (s.skipBlanks (n + 1)).dropOldKey
    match s.cursor.here with
    | none =>
      let s ← (s.endBlocks 0).dropKey
      return s.tokens.toList
    | some ch => takeAll n (← (s.endBlocks (s.cursor.column + 1)).takeToken ch (n + 1))

end Cutter

/-- The tokens of a text. Every token takes a character. -/
def tokens? (text : List Char) : Option (List Token) :=
  if text.all isAllowed then Cutter.takeAll (text.length + 1) { cursor := { rest := text } } else none

end XmlDiagnostics.Yaml
