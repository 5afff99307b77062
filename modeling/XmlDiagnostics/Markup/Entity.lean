import XmlDiagnostics.Text.Octets
import XmlDiagnostics.Text.Quoted

/-! # Entities in attribute values

An ampersand, a name and a semicolon stand for a character: one of five by name, or any by its decimal
or hexadecimal number. -/

namespace XmlDiagnostics.Markup

open Text

/-- Why a value is no text. The numbers are octets of the value. -/
inductive EntityFlaw where
  /-- an ampersand without semicolon -/
  | unterminated (start stop : Nat)
  /-- a name that stands for nothing -/
  | unknownName (start stop : Nat) (name : List Char)
  | longHexadecimal
  | badHexadecimal (octet : Nat)
  | longDecimal
  | badDecimal (octet : Nat)
  /-- the number zero -/
  | zero (start stop : Nat)
  /-- a number that no character has -/
  | noCharacter (number : Nat)
deriving DecidableEq, Repr

/-- The text of a flaw about a range of octets. -/
def EntityFlaw.inRange (start stop : Nat) (text : String) : String :=
  "Error while escaping character at range " ++ toString start ++ ".." ++ toString stop ++ ": " ++ text

/-- The text of a flaw. -/
def EntityFlaw.message : EntityFlaw → String
  | unterminated start stop => inRange start stop "Cannot find ';' after '&'"
  | unknownName start stop name =>
    inRange start stop ("Unrecognized escape symbol: " ++ String.ofList (quoted name))
  | longHexadecimal => "Cannot convert hexadecimal to utf8"
  | badHexadecimal octet =>
    "'" ++ String.singleton (Char.ofNat octet) ++ "' is not a valid hexadecimal character"
  | longDecimal => "Cannot convert decimal to utf8"
  | badDecimal octet => "'" ++ String.singleton (Char.ofNat octet) ++ "' is not a valid decimal character"
  | zero start stop => inRange start stop "Null character entity not allowed"
  | noCharacter number => "'" ++ toString number ++ "' is not a valid codepoint"

/-- The characters that have a name. -/
def namedCharacters : List (List Char × Char) :=
  [("lt".toList, '<'), ("gt".toList, '>'), ("amp".toList, '&'), ("apos".toList, '\''), ("quot".toList, '"')]

/-- The number that digits of a base denote, or the first character that is no digit. -/
def numberOf (base : Nat) (digit? : Char → Option Nat) (digits : List Char) : Except Char Nat :=
  digits.foldlM (fun n c => match digit? c with | some d => .ok (n * base + d) | none => .error c) 0

/-- The number of a character after the number sign: hexadecimal after a small x, else decimal. -/
def characterNumber : List Char → Except EntityFlaw Nat
  | 'x' :: digits =>
    if 6 < byteLength digits then .error .longHexadecimal
    else (numberOf 16 hexDigit? digits).mapError fun c => .badHexadecimal (firstOctet c)
  | digits =>
    if 7 < byteLength digits then .error .longDecimal
    else (numberOf 10 decimalDigit? digits).mapError fun c => .badDecimal (firstOctet c)

/-- The character that an entity stands for; it covers the octets from `start` to `stop`. -/
def entityCharacter (start stop : Nat) (name : List Char) : Except EntityFlaw Char :=
  match name with
  | '#' :: digits => do
    let n ← characterNumber digits
    if n = 0 then .error (.zero start stop)
    else if n.isValidChar then .ok (Char.ofNat n)
    else .error (.noCharacter n)
  | name =>
    match namedCharacters.lookup name with
    | some c => .ok c
    | none => .error (.unknownName (start + 1) stop name)

/-- The text of a value with `offset` octets before it, whose octets end at `stop`. `entity` holds what
has been read, backwards, since the ampersand at the octet it names. -/
def unescapeFrom (stop offset : Nat) : Option (Nat × List Char) → List Char → Except EntityFlaw (List Char)
  | none, [] => .ok []
  | some (start, _), [] => .error (.unterminated start stop)
  | none, c :: rest =>
    if c = '&' then unescapeFrom stop (offset + 1) (some (offset, [])) rest
    else (unescapeFrom stop (offset + c.utf8Size) none rest).map (c :: ·)
  | some (start, read), c :: rest =>
    if c = '&' then .error (.unterminated start stop)
    else if c = ';' then do
      let character ← entityCharacter start offset read.reverse
      let text ← unescapeFrom stop (offset + 1) none rest
      return character :: text
    else unescapeFrom stop (offset + c.utf8Size) (some (start, c :: read)) rest

/-- The text of an attribute value. -/
def unescape (value : List Char) : Except EntityFlaw (List Char) :=
  unescapeFrom (byteLength value) 0 none value

end XmlDiagnostics.Markup
