import XmlDiagnostics.Markup.Entity
import XmlDiagnostics.Markup.Token
import XmlDiagnostics.Text.Split

/-! # Attributes of a tag

After its name a tag holds attributes: a key, an equals sign, and a value in quotation marks, with
separators allowed around each. They are read one at a time, so of two flaws the first in the text is
the one reported. -/

namespace XmlDiagnostics.Markup

open Text

/-- Why the attributes of a tag are broken. The numbers are octets of the content of the tag. -/
inductive AttributeFlaw where
  | expectedEquals (position : Nat)
  | duplicated (position earlier : Nat)
  | unquotedValue (position : Nat)
  | missingValue (position : Nat)
  | missingQuote (position : Nat) (quote : Char)
  | badEntity (flaw : EntityFlaw)
deriving DecidableEq, Repr

/-- The text of a flaw. -/
def AttributeFlaw.message : AttributeFlaw → String
  | expectedEquals position =>
    placed position "attribute key must be directly followed by `=` or space"
  | duplicated position earlier =>
    placed position ("duplicated attribute, previous declaration at position " ++ toString earlier)
  | unquotedValue position => placed position "attribute value must be enclosed in `\"` or `'`"
  | missingValue position => placed position "`=` must be followed by an attribute value"
  | missingQuote position quote =>
    placed position ("missing closing quote `" ++ String.singleton quote ++ "` in attribute value")
  | badEntity flaw => flaw.message
where
  /-- The text of a flaw at a position. -/
  placed (position : Nat) (text : String) : String := "position " ++ toString position ++ ": " ++ text

/-- An attribute as it is written: its key, the octet at which the key starts, and its value between
the quotation marks. -/
structure RawAttribute where
  key : List Char
  start : Nat
  value : List Char
deriving DecidableEq, Repr

/-- The separators at the beginning of a text with `offset` octets before it: how many octets they
reach to, and the rest. -/
def skipSeparators (offset : Nat) : List Char → Nat × List Char
  | [] => (offset, [])
  | c :: rest => if isSeparator c then skipSeparators (offset + 1) rest else (offset, c :: rest)

/-- Read one attribute from a text with `offset` octets before it; `earlier` are the attributes before
it, and the result holds the number of octets before the rest, and the rest. Nothing but separators
makes no attribute. The first character of a key may be any but a separator. -/
def readAttribute (earlier : List RawAttribute) (offset : Nat) (text : List Char) :
    Except AttributeFlaw (Option (RawAttribute × Nat × List Char)) :=
  let length := offset + byteLength text
  match skipSeparators offset text with
  | (_, []) => .ok none
  | (start, first :: rest) =>
    let (more, rest) := splitBefore (fun c => c = '=' || isSeparator c) rest
    let key := first :: more
    match skipSeparators (start + byteLength key) rest with
    | (_, []) => .error (.expectedEquals length)
    | (position, sign :: rest) =>
      if sign ≠ '=' then .error (.expectedEquals position)
      else
        match earlier.find? fun a => a.key = key with
        | some a => .error (.duplicated start a.start)
        | none =>
          match skipSeparators (position + 1) rest with
          | (_, []) => .error (.missingValue length)
          | (position, quote :: rest) =>
            if quote ≠ '"' ∧ quote ≠ '\'' then .error (.unquotedValue position)
            else
              match splitBefore (· = quote) rest with
              | (_, []) => .error (.missingQuote length quote)
              | (value, _ :: rest) =>
                .ok (some (⟨key, start, value⟩, position + byteLength value + 2, rest))

/-- Read at most `n` attributes, in order, each with the text of its value. -/
def readAttributes : Nat → List RawAttribute → Nat → List Char →
    Except AttributeFlaw (List (RawAttribute × List Char))
  | 0, _, _, _ => .ok []
  | n + 1, earlier, offset, text => do
    match ← readAttribute earlier offset text with
    | none => return []
    | some (a, offset, rest) =>
      let value ← (unescape a.value).mapError .badEntity
      let further ← readAttributes n (a :: earlier) offset rest
      return (a, value) :: further

/-- What follows the name of a tag. -/
def Tag.afterName (tag : Tag) : List Char := tag.content.dropWhile fun c => !isSeparator c

/-- The attributes of a tag as they are written, in order, with the texts of their values. Every
attribute takes a character, so there are no more attributes than characters. -/
def Tag.writtenAttributes (tag : Tag) : Except AttributeFlaw (List (RawAttribute × List Char)) :=
  readAttributes (tag.afterName.length + 1) [] (byteLength tag.name) tag.afterName

/-- The keys and values of a tag, in order. -/
def Tag.attributes (tag : Tag) : Except AttributeFlaw (List (List Char × List Char)) :=
  tag.writtenAttributes.map fun written => written.map fun (a, value) => (a.key, value)

end XmlDiagnostics.Markup
