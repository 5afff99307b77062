import XmlDiagnostics.Config
import XmlDiagnostics.Encoding.Iso2022
import XmlDiagnostics.Pattern.Search

/-! # Which encoding, and decoding

The encoding of a resource is named by its byte-order mark, else by the declaration on its first line,
else by the configuration. Decoding leaves out one byte-order mark of the encoding itself. -/

namespace XmlDiagnostics.Encoding

/-! ### Decoding -/

/-- The octets that mark the beginning of a text in an encoding. -/
def mark : Encoding → List UInt8
  | utf8 => [0xef, 0xbb, 0xbf]
  | utf16 .big => [0xfe, 0xff]
  | utf16 .little => [0xff, 0xfe]
  | _ => []

/-- Octets without the mark of an encoding at their beginning. -/
def withoutMark (encoding : Encoding) (bytes : List UInt8) : List UInt8 :=
  if encoding.mark.isPrefixOf bytes then bytes.drop encoding.mark.length else bytes

/-- The character of an octet whose upper half is for private use. -/
def userDefinedChar (b : UInt8) : Char :=
  if b.toNat < 128 then Char.ofNat b.toNat else Char.ofNat (0xf780 + (b.toNat - 128))

/-- The text of octets that have no mark to leave out. -/
def decodeAll (encoding : Encoding) (bytes : List UInt8) (tables : CharacterTables := .asciiOnly) : List Char :=
  match encoding with
  | utf8 => decodeUtf8 bytes
  | utf16 order => decodeUtf16 order bytes
  | replacement => if bytes.isEmpty then [] else [replacementChar]
  | userDefined => bytes.map userDefinedChar
  | singleByte page => bytes.map page.decodeByte
  | iso2022jp => decodeIso2022 tables.pair? bytes
  | multibyte kind => tables.decode kind bytes

/-- The text of octets in an encoding. -/
def decode (encoding : Encoding) (bytes : List UInt8) (tables : CharacterTables := .asciiOnly) : List Char :=
  encoding.decodeAll (encoding.withoutMark bytes) tables

/-! ### Detection -/

/-- The encoding whose mark stands at the beginning. -/
def ofMark? (bytes : List UInt8) : Option Encoding :=
  [utf8, utf16 .big, utf16 .little].find? fun encoding => encoding.mark.isPrefixOf bytes

/-- The encoding as a declaration names it: the word after white space, an equals sign, and the label in
quotation marks. -/
def declarationPattern : Pattern :=
  .sequence [.one .blank, .literal "encoding".toList, .anyOf .blank, .char '=', .anyOf .blank, .quote,
    .group 1 (.many (.one .notLineFeed) 0 none false), .quote]

/-- The encoding that a line declares. -/
def ofDeclaration? (line : List Char) : Option Encoding := do
  let line := Text.trim Text.isBlank line
  let label ← (← declarationPattern.find? line).groupText? line.toArray 1
  ofLabel? (String.ofList label)

/-- The octets before the first line feed. -/
def firstLine (bytes : List UInt8) : List UInt8 := bytes.takeWhile (· ≠ 10)

/-- The encoding to fall back on. -/
def fallback (config : EncodingConfig) : Encoding := (ofLabel? config.fallback).getD utf8

/-- The encoding of a resource. -/
def detect (config : EncodingConfig) (bytes : List UInt8) : Encoding :=
  let marked := if config.detectBom then ofMark? bytes else none
  let declared := if config.detectDeclaration then ofDeclaration? (decodeUtf8 (firstLine bytes)) else none
  (marked.or declared).getD (fallback config)

end XmlDiagnostics.Encoding
