import XmlDiagnostics.Text.PrintTable
import XmlDiagnostics.Text.WordTable

/-! # Quoted text

A text in quotation marks for messages: quotation marks and backslashes take a backslash, common
controls their letter, and other characters that show nothing of their own their number. -/

namespace XmlDiagnostics.Text

/-- Whether a quoted text shows a character by its number. -/
def isUnshown (c : Char) : Bool :=
  if c.toNat < 128 then c.toNat < 32 || c.toNat = 127 else inRanges unshownRanges c.toNat

/-- The form of a character inside quotation marks. -/
def quotedChar (c : Char) : List Char :=
  if c = '"' || c = '\\' then ['\\', c]
  else if c = '\n' then ['\\', 'n']
  else if c = '\r' then ['\\', 'r']
  else if c = '\t' then ['\\', 't']
  else if c = '\x00' then ['\\', '0']
  else if isUnshown c then ['\\', 'u', '\x7b'] ++ Nat.toDigits 16 c.toNat ++ ['\x7d']
  else [c]

/-- A text in quotation marks. -/
def quoted (text : List Char) : List Char := '"' :: text.flatMap quotedChar ++ ['"']

end XmlDiagnostics.Text
