/-! # Blank characters

Three notions of white space: the four characters that separate markup, those of ASCII, and those
with the White_Space property. Each is contained in the next. -/

namespace XmlDiagnostics.Text

/-- The characters that separate the parts of a tag: space, tab, carriage return, line feed. -/
def isSeparator (c : Char) : Bool := c = ' ' || c = '\t' || c = '\r' || c = '\n'

/-- White space of ASCII: the separators and the form feed. -/
def isAsciiBlank (c : Char) : Bool := isSeparator c || c = '\x0c'

/-- The characters with the White_Space property. -/
def isBlank (c : Char) : Bool :=
  let n := c.toNat
  (9 ≤ n && n ≤ 13) || n = 0x20 || n = 0x85 || n = 0xa0 || n = 0x1680 || (0x2000 ≤ n && n ≤ 0x200a)
    || n = 0x2028 || n = 0x2029 || n = 0x202f || n = 0x205f || n = 0x3000

theorem isAsciiBlank_of_isSeparator {c : Char} (h : isSeparator c) : isAsciiBlank c := by
  simp [isAsciiBlank, h]

theorem isBlank_of_isAsciiBlank {c : Char} (h : isAsciiBlank c) : isBlank c := by
  simp only [isAsciiBlank, isSeparator, Bool.or_eq_true, decide_eq_true_eq] at h
  rcases h with (((rfl | rfl) | rfl) | rfl) | rfl <;> decide

theorem isBlank_of_isSeparator {c : Char} (h : isSeparator c) : isBlank c :=
  isBlank_of_isAsciiBlank (isAsciiBlank_of_isSeparator h)

/-- Leave out the characters of a class at both ends. -/
def trim (blank : Char → Bool) (text : List Char) : List Char :=
  ((text.dropWhile blank).reverse.dropWhile blank).reverse

end XmlDiagnostics.Text
