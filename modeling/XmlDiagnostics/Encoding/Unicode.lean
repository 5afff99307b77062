import XmlDiagnostics.Encoding.Label
import XmlDiagnostics.Text.Octets

/-! # The Unicode encodings

Decoders of UTF-8 and UTF-16 that never fail: what is not well-formed becomes a replacement character.
In UTF-8 that is one for every longest piece that could begin a character but does not go on, in UTF-16
one for every surrogate without its partner, and at the end of the text one for whatever is unfinished.
The encoders beside them write the octets of a text. -/

namespace XmlDiagnostics.Encoding

/-- The character that stands for octets that are none. -/
def replacementChar : Char := '\ufffd'

/-! ### UTF-8 -/

/-- A character that has begun: how many octets are still to come, the bits so far, and the bounds of
the next octet. -/
structure Pending where
  needed : Nat
  value : Nat
  low : Nat
  high : Nat
deriving DecidableEq, Repr

/-- What an octet at the beginning of a character calls for: characters at once, or more octets. -/
def beginUtf8 (b : Nat) : List Char × Option Pending :=
  if b < 0x80 then ([Char.ofNat b], none)
  else if 0xc2 ≤ b ∧ b ≤ 0xdf then ([], some ⟨1, b - 0xc0, 0x80, 0xbf⟩)
  else if 0xe0 ≤ b ∧ b ≤ 0xef then
    ([], some ⟨2, b - 0xe0, if b = 0xe0 then 0xa0 else 0x80, if b = 0xed then 0x9f else 0xbf⟩)
  else if 0xf0 ≤ b ∧ b ≤ 0xf4 then
    ([], some ⟨3, b - 0xf0, if b = 0xf0 then 0x90 else 0x80, if b = 0xf4 then 0x8f else 0xbf⟩)
  else ([replacementChar], none)

/-- Take in one octet. One that does not go on with a character ends it and begins another. -/
def stepUtf8 (pending : Option Pending) (b : Nat) : List Char × Option Pending :=
  match pending with
  | none => beginUtf8 b
  | some p =>
    if p.low ≤ b ∧ b ≤ p.high then
      let value := p.value * 64 + (b - 0x80)
      if p.needed = 1 then ([Char.ofNat value], none)
      else ([], some ⟨p.needed - 1, value, 0x80, 0xbf⟩)
    else
      let (text, pending) := beginUtf8 b
      (replacementChar :: text, pending)

/-- Decode octets after the beginning of a character. -/
def decodeUtf8From (pending : Option Pending) : List UInt8 → List Char
  | [] => if pending.isSome then [replacementChar] else []
  | b :: rest =>
    let (text, pending) := stepUtf8 pending b.toNat
    text ++ decodeUtf8From pending rest

/-- Decode UTF-8. -/
def decodeUtf8 (bytes : List UInt8) : List Char := decodeUtf8From none bytes

/-- The octets of a character in UTF-8. -/
def encodeUtf8Char (c : Char) : List UInt8 := (Text.octetsOf c).map UInt8.ofNat

/-- The octets of a text in UTF-8. -/
def encodeUtf8 (text : List Char) : List UInt8 := text.flatMap encodeUtf8Char

/-- Whether octets are UTF-8 without fault: decoding has replaced nothing, so encoding gives them back. -/
def isUtf8 (bytes : List UInt8) : Bool := encodeUtf8 (decodeUtf8 bytes) = bytes

/-! ### UTF-16 -/

/-- The unit of two octets. -/
def unitOf : ByteOrder → UInt8 → UInt8 → Nat
  | .big, a, b => a.toNat * 256 + b.toNat
  | .little, a, b => b.toNat * 256 + a.toNat

/-- Whether a unit is the first half of a pair. -/
def isLeadUnit (u : Nat) : Bool := 0xd800 ≤ u && u ≤ 0xdbff

/-- Whether a unit is the second half of a pair. -/
def isTrailUnit (u : Nat) : Bool := 0xdc00 ≤ u && u ≤ 0xdfff

/-- What a unit without a first half before it stands for; a first half has to wait. -/
def beginUtf16 (u : Nat) : List Char × Option Nat :=
  if isLeadUnit u then ([], some u)
  else if isTrailUnit u then ([replacementChar], none)
  else ([Char.ofNat u], none)

/-- Take in one unit. -/
def stepUtf16 (lead : Option Nat) (u : Nat) : List Char × Option Nat :=
  match lead with
  | none => beginUtf16 u
  | some l =>
    if isTrailUnit u then ([Char.ofNat (0x10000 + (l - 0xd800) * 1024 + (u - 0xdc00))], none)
    else
      let (text, lead) := beginUtf16 u
      (replacementChar :: text, lead)

/-- Decode octets after the first half of a pair. -/
def decodeUtf16From (order : ByteOrder) (lead : Option Nat) : List UInt8 → List Char
  | [] => if lead.isSome then [replacementChar] else []
  | [_] => [replacementChar]
  | a :: b :: rest =>
    let (text, lead) := stepUtf16 lead (unitOf order a b)
    text ++ decodeUtf16From order lead rest

/-- Decode UTF-16. -/
def decodeUtf16 (order : ByteOrder) (bytes : List UInt8) : List Char := decodeUtf16From order none bytes

/-- The octets of a unit. -/
def encodeUnit : ByteOrder → Nat → List UInt8
  | .big, u => [.ofNat (u / 256), .ofNat (u % 256)]
  | .little, u => [.ofNat (u % 256), .ofNat (u / 256)]

/-- The octets of a character in UTF-16. -/
def encodeUtf16Char (order : ByteOrder) (c : Char) : List UInt8 :=
  let n := c.toNat
  if n < 0x10000 then encodeUnit order n
  else encodeUnit order (0xd800 + (n - 0x10000) / 1024) ++ encodeUnit order (0xdc00 + (n - 0x10000) % 1024)

/-- The octets of a text in UTF-16. -/
def encodeUtf16 (order : ByteOrder) (text : List Char) : List UInt8 := text.flatMap (encodeUtf16Char order)

end XmlDiagnostics.Encoding
