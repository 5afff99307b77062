import XmlDiagnostics.Encoding.Unicode

/-! # Percent signs

Characters that cannot stand for themselves in a part of a URL are written as their octets, each of them
as a percent sign with two hexadecimal digits. -/

namespace XmlDiagnostics.Url

/-- A hexadecimal digit in capitals. -/
def hexCapital (n : Nat) : Char := if n < 10 then Char.ofNat (48 + n) else Char.ofNat (55 + n)

/-- The octets of a character, each as a percent sign with two digits. -/
def percentForm (c : Char) : List Char :=
  (Text.octetsOf c).flatMap fun b => ['%', hexCapital (b / 16), hexCapital (b % 16)]

/-- Write the characters of a class with percent signs. -/
def percentEncode (escaped : Char → Bool) (text : List Char) : List Char :=
  text.flatMap fun c => if escaped c then percentForm c else [c]

/-- Controls and everything beyond ASCII. -/
def isControlOrBeyond (c : Char) : Bool := c.toNat < 32 || 126 < c.toNat

/-- Characters that cannot stand in a fragment. -/
def escapedInFragment (c : Char) : Bool := isControlOrBeyond c || [' ', '"', '<', '>', '\x60'].contains c

/-- Characters that cannot stand in a query; in one of the common schemes the apostrophe neither. -/
def escapedInQuery (special : Bool) (c : Char) : Bool :=
  isControlOrBeyond c || [' ', '"', '#', '<', '>'].contains c || (special && c = '\'')

/-- Characters that cannot stand in a path. -/
def escapedInPath (c : Char) : Bool :=
  isControlOrBeyond c || [' ', '"', '#', '<', '>', '?', '\x60', '\x7b', '\x7d'].contains c

/-- Characters of a file name that cannot stand in a segment. -/
def escapedInSegment (c : Char) : Bool := escapedInPath c || ['/', '%', '\\'].contains c

/-- Characters that cannot stand in the name or the password of a user. -/
def escapedInUser (c : Char) : Bool :=
  escapedInPath c || ['/', ':', ';', '=', '@', '[', '\\', ']', '^', '|'].contains c

/-- The octets that a text with percent signs stands for. -/
def percentDecode : List Char → List UInt8
  | [] => []
  | '%' :: a :: b :: rest =>
    match Text.hexDigit? a, Text.hexDigit? b with
    | some x, some y => .ofNat (x * 16 + y) :: percentDecode rest
    | _, _ => Encoding.encodeUtf8Char '%' ++ percentDecode (a :: b :: rest)
  | c :: rest => Encoding.encodeUtf8Char c ++ percentDecode rest

end XmlDiagnostics.Url
