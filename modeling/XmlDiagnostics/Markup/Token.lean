import XmlDiagnostics.Text.Blank
import XmlDiagnostics.Text.Octets

/-! # Tokens of markup

A document is cut into tokens: runs of text, tags, comments, sections of character data, document type
declarations, and instructions. Each token remembers the octets at which it starts and stops. The
cutting ends with the text or at the first place where the markup is broken; an end tag is broken
when it does not name the innermost start tag that is still open. -/

namespace XmlDiagnostics.Markup

open Text

/-- The content of a start or empty tag: what stands between the angle brackets, and for an empty tag
before its slash. -/
structure Tag where
  content : List Char
deriving DecidableEq, Repr

/-- The name of a tag reaches to the first separator. -/
def Tag.name (tag : Tag) : List Char := tag.content.takeWhile fun c => !isSeparator c

/-- A piece of a document. -/
inductive Token where
  | text (content : List Char)
  | startTag (tag : Tag)
  | emptyTag (tag : Tag)
  | endTag (name : List Char)
  | comment (content : List Char)
  | characterData (content : List Char)
  | documentType (content : List Char)
  | instruction (content : List Char)
deriving DecidableEq, Repr

/-- A token with the numbers of octets before it and up to its end. -/
structure PlacedToken where
  token : Token
  start : Nat
  stop : Nat
deriving DecidableEq, Repr

/-! ### Broken markup -/

/-- The kinds of markup that can be left unfinished. -/
inductive Unfinished where
  | bang
  | comment
  | characterData
  | documentType
  | declaration
  | element
deriving DecidableEq, Repr

/-- The name of a kind of markup in messages. -/
def Unfinished.name : Unfinished → String
  | bang => "Bang"
  | comment => "Comment"
  | characterData => "CData"
  | documentType => "DOCTYPE"
  | declaration => "XmlDecl"
  | element => "Element"

/-- Why markup is broken. -/
inductive Flaw where
  /-- markup that does not end or does not have its form -/
  | unfinished (kind : Unfinished)
  /-- an exclamation mark with a wrong octet after it -/
  | unknownBang (octet : Nat)
  /-- a document type declaration that declares nothing -/
  | emptyDocumentType
  /-- an end tag that does not name the innermost open tag -/
  | wrongEndTag (expected found : List Char)
deriving DecidableEq, Repr

/-- The text of a flaw. -/
def Flaw.message : Flaw → String
  | unfinished kind => "Unexpected EOF during reading " ++ kind.name
  | unknownBang octet =>
    "Only Comment (`--`), CDATA (`[CDATA[`) and DOCTYPE (`DOCTYPE`) nodes can start with a '!', but symbol `"
      ++ String.singleton (Char.ofNat octet) ++ "` found"
  | emptyDocumentType => "DOCTYPE declaration must not be empty"
  | wrongEndTag expected found =>
    "Expecting </" ++ String.ofList expected ++ "> found </" ++ String.ofList found ++ ">"

/-- A flaw and the number of octets before the place where it is noticed. -/
structure PlacedFlaw where
  flaw : Flaw
  offset : Nat
deriving DecidableEq, Repr

/-! ### Where markup ends -/

/-- Split before the first closing angle bracket that `ends` accepts, given what precedes it read
backwards, and leave that bracket out. -/
def splitAtClose (ends : List Char → Bool) (before : List Char) : List Char → Option (List Char × List Char)
  | [] => none
  | c :: rest =>
    if c = '>' && ends before then some (before.reverse, rest) else splitAtClose ends (c :: before) rest

/-- Split before the first closing angle bracket outside quotation marks and leave it out; `quote` is
the mark that is open. -/
def splitAtTagEnd (quote : Option Char) (before : List Char) : List Char → Option (List Char × List Char)
  | [] => none
  | c :: rest =>
    match quote with
    | some q => splitAtTagEnd (if c = q then none else quote) (c :: before) rest
    | none =>
      if c = '>' then some (before.reverse, rest)
      else splitAtTagEnd (if c = '"' ∨ c = '\'' then some c else none) (c :: before) rest

/-- Split before the first closing angle bracket that closes no opening one, given how many of these are open and
what precedes the text read backwards, and leave that bracket out. -/
def splitAtBalance (opened : Nat) (before : List Char) : List Char → Option (List Char × List Char)
  | [] => none
  | '>' :: rest =>
    match opened with
    | 0 => some (before.reverse, rest)
    | opened + 1 => splitAtBalance opened ('>' :: before) rest
  | c :: rest => splitAtBalance (if c = '<' then opened + 1 else opened) (c :: before) rest

/-- What stands before the first closing angle bracket, or before the end of the text; the number of octets
that the bracket takes, which is zero at the end; and the rest of the text. -/
def splitAtCloseOrEnd (text : List Char) : List Char × Nat × List Char :=
  match text.dropWhile (· ≠ '>') with
  | [] => (text, 0, [])
  | _ :: rest => (text.takeWhile (· ≠ '>'), 1, rest)

/-- A comment ends after two hyphens that are not those of its beginning. -/
def endsComment (before : List Char) : Bool := !(before.drop 4).isEmpty && ['-', '-'].isPrefixOf before

/-- A section of character data ends after two closing brackets. -/
def endsCharacterData (before : List Char) : Bool := [']', ']'].isPrefixOf before

/-- Whether a text begins with capital ASCII letters and signs, whatever the case of its letters. -/
def beginsWith (beginning text : List Char) : Bool :=
  beginning.isPrefixOf ((text.take beginning.length).map Char.toUpper)

/-! ### Reading markup -/

/-- What is read after an opening angle bracket: a token with the number of octets it takes and the
rest of the text, or a flaw with the number of octets before it is noticed. -/
inductive Reading where
  | read (token : Token) (length : Nat) (rest : List Char)
  | broken (flaw : Flaw) (skipped : Nat)
deriving DecidableEq, Repr

/-- Read markup that begins with an exclamation mark: it stops where `split` says, and `check` finds the
flaw of what stands before that. -/
def readBang (kind : Unfinished) (split : List Char → Option (List Char × List Char))
    (check : List Char → Option Flaw) (token : List Char → Token) (text : List Char) : Reading :=
  match split text with
  | none => .broken (.unfinished kind) 0
  | some (content, rest) =>
    match check content with
    | some flaw => .broken flaw (byteLength content + 1)
    | none => .read (token content) (byteLength content + 1) rest

/-- A comment begins with two hyphens. -/
def commentFlaw (content : List Char) : Option Flaw :=
  if ['!', '-', '-'].isPrefixOf content then none else some (.unfinished .comment)

/-- A section of character data begins with its name in brackets. -/
def characterDataFlaw (content : List Char) : Option Flaw :=
  if beginsWith "![CDATA[".toList content then none else some (.unfinished .characterData)

/-- A document type declaration begins with its keyword and declares something. -/
def documentTypeFlaw (content : List Char) : Option Flaw :=
  if beginsWith "!DOCTYPE".toList content then
    if (content.drop 8).all isSeparator then some .emptyDocumentType else none
  else some (.unfinished .documentType)

/-- Read an end tag. Separators after its name are left out unless there is nothing else; with no tag
open, the flaw shows the name as it stands. -/
def readEndTag (opened : List (List Char)) (text : List Char) : Reading :=
  let (content, bracket, rest) := splitAtCloseOrEnd text
  let closed := byteLength content + bracket
  let raw := content.tail
  let name := if raw.all isSeparator then raw else (raw.reverse.dropWhile isSeparator).reverse
  match opened with
  | [] => .broken (.wrongEndTag [] raw) bracket
  | expected :: _ =>
    if name = expected then .read (.endTag name) closed rest
    else .broken (.wrongEndTag expected name) bracket

/-- Read an instruction, which ends with a question mark other than the one it begins with. -/
def readInstruction (text : List Char) : Reading :=
  let (content, bracket, rest) := splitAtCloseOrEnd text
  let length := byteLength content
  if 2 < length ∧ content.getLast? = some '?' then .read (.instruction content) (length + bracket) rest
  else .broken (.unfinished .declaration) bracket

/-- Read a start tag, or an empty tag when a slash stands before its end. -/
def readTag (text : List Char) : Reading :=
  match splitAtTagEnd none [] text with
  | none => .broken (.unfinished .element) 0
  | some (content, rest) =>
    let length := byteLength content + 1
    if content.getLast? = some '/' then .read (.emptyTag ⟨content.dropLast⟩) length rest
    else .read (.startTag ⟨content⟩) length rest

/-- Read what follows an opening angle bracket, given the names of the open tags, innermost first. -/
def readMarkup (opened : List (List Char)) : List Char → Reading
  | '!' :: '-' :: rest => readBang .comment (splitAtClose endsComment []) commentFlaw .comment ('!' :: '-' :: rest)
  | '!' :: '[' :: rest =>
    readBang .characterData (splitAtClose endsCharacterData []) characterDataFlaw .characterData ('!' :: '[' :: rest)
  | '!' :: 'D' :: rest =>
    readBang .documentType (splitAtBalance 0 []) documentTypeFlaw .documentType ('!' :: 'D' :: rest)
  | '!' :: 'd' :: rest =>
    readBang .documentType (splitAtBalance 0 []) documentTypeFlaw .documentType ('!' :: 'd' :: rest)
  | ['!'] => .broken (.unfinished .bang) 0
  | '!' :: c :: _ => .broken (.unknownBang (firstOctet c)) 0
  | '/' :: rest => readEndTag opened ('/' :: rest)
  | '?' :: rest => readInstruction ('?' :: rest)
  | text => readTag text

/-- The names of the open tags after a token. -/
def openedAfter (opened : List (List Char)) : Token → List (List Char)
  | .startTag tag => tag.name :: opened
  | .endTag _ => opened.tail
  | _ => opened

/-! ### Cutting a document -/

/-- The tokens of a text, and the flaw that ends them. -/
structure Tokens where
  tokens : List PlacedToken
  flaw : Option PlacedFlaw
deriving DecidableEq, Repr

/-- One more token in front. -/
def Tokens.cons (token : PlacedToken) (tokens : Tokens) : Tokens := ⟨token :: tokens.tokens, tokens.flaw⟩

/-- Cut the rest of a text with `offset` octets before it into at most `n` tokens, given the names of
the open tags. An opening angle bracket at the very end is no markup. -/
def cut : Nat → Nat → List (List Char) → List Char → Tokens
  | 0, _, _, _ => ⟨[], none⟩
  | _ + 1, _, _, [] => ⟨[], none⟩
  | _ + 1, _, _, ['<'] => ⟨[], none⟩
  | n + 1, offset, opened, '<' :: text =>
    match readMarkup opened text with
    | .broken flaw skipped => ⟨[], some ⟨flaw, offset + 1 + skipped⟩⟩
    | .read token length rest =>
      (cut n (offset + 1 + length) (openedAfter opened token) rest).cons ⟨token, offset, offset + 1 + length⟩
  | n + 1, offset, opened, text =>
    let content := text.takeWhile (· ≠ '<')
    let stop := offset + byteLength content
    (cut n stop opened (text.dropWhile (· ≠ '<'))).cons ⟨.text content, offset, stop⟩

/-- The text without the mark that may stand at its beginning. -/
def withoutMark : List Char → List Char
  | '\ufeff' :: rest => rest
  | text => text

/-- The tokens of a document. Octets are counted after a leading byte-order mark. Every token takes a
character, so there are no more tokens than characters. -/
def tokens (text : List Char) : Tokens := cut (text.length + 1) 0 [] (withoutMark text)

end XmlDiagnostics.Markup
