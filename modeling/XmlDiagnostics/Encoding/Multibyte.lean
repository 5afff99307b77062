/-! # Encodings from large tables

The encodings of East Asian texts take characters of several octets from tables of many thousands of entries. The
tables are not part of this development; what is decoded from them is a parameter. -/

namespace XmlDiagnostics

/-- The encodings that are decoded from such tables alone. -/
inductive Multibyte where
  | gbk
  | gb18030
  | big5
  | eucJp
  | shiftJis
  | eucKr
deriving DecidableEq, Repr

/-- The name of an encoding. -/
def Multibyte.name : Multibyte → String
  | gbk => "GBK"
  | gb18030 => "gb18030"
  | big5 => "Big5"
  | eucJp => "EUC-JP"
  | shiftJis => "Shift_JIS"
  | eucKr => "EUC-KR"

/-- What is decoded from tables: the text of octets in one of these encodings, and the character of two octets in the
set of ISO-2022-JP that has two octets a character. -/
structure CharacterTables where
  decode : Multibyte → List UInt8 → List Char
  pair? : UInt8 → UInt8 → Option Char

/-- Tables without any character besides ASCII. -/
def CharacterTables.asciiOnly : CharacterTables where
  decode _ bytes := bytes.map fun b => if b.toNat < 128 then Char.ofNat b.toNat else '\ufffd'
  pair? _ _ := none

end XmlDiagnostics
