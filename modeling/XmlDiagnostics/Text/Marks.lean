import XmlDiagnostics.Text.MarkTable

/-! # Letters with marks

A letter with marks can be written as one character or with the marks after it, and marks at different
places around it in any order. The normal form of a text has the marks in the order of their classes, joined
with the letter before them as far as there are characters for that. The syllables of Hangul are joined of
their parts by arithmetic. -/

namespace XmlDiagnostics.Text

/-- The class of a mark, and zero for other characters. -/
def markClass (c : Char) : Nat :=
  ((markClasses.find? fun (first, last, _) => first ≤ c.toNat && c.toNat ≤ last).map fun row => row.2.2).getD 0

/-! ### Splitting -/

/-- The parts of a syllable of Hangul: two or three. -/
def syllableParts? (c : Char) : Option (List Char) :=
  if 0xac00 ≤ c.toNat && c.toNat ≤ 0xd7a3 then
    let n := c.toNat - 0xac00
    let last := if n % 28 = 0 then [] else [Char.ofNat (0x11a7 + n % 28)]
    some (Char.ofNat (0x1100 + n / 588) :: Char.ofNat (0x1161 + n % 588 / 28) :: last)
  else none

/-- The letter and the mark of which a character is joined. -/
def splitMark? (c : Char) : Option (Char × Char) :=
  joinedLetters.findSome? fun (mark, letters, joined) =>
    (joined.toList.zip letters.toList).lookup c |>.map fun letter => (letter, Char.ofNat mark)

/-- A letter with the marks that are joined with it, at most `n` of them, after it. -/
def splitMarks : Nat → Char → List Char
  | 0, c => [c]
  | n + 1, c =>
    match splitMark? c with
    | some (letter, mark) => splitMarks n letter ++ [mark]
    | none => [c]

/-- The parts of a character. No letter has more than three marks of its own. -/
def partsOf (c : Char) : List Char :=
  if c.toNat < 128 then [c] else (syllableParts? c).getD (splitMarks 3 c)

/-! ### Order -/

/-- Put a mark that comes before others behind those of lower classes that follow it directly. -/
def insertMark (c : Char) : List Char → List Char
  | [] => [c]
  | d :: rest =>
    if 0 < markClass d && markClass d < markClass c then d :: insertMark c rest else c :: d :: rest

/-- Put the marks after each letter in the order of their classes; those of one class stay in order. -/
def orderMarks : List Char → List Char
  | [] => []
  | c :: rest => insertMark c (orderMarks rest)

/-! ### Joining -/

/-- The syllable that two parts of Hangul make. -/
def joinSyllable? (c d : Char) : Option Char :=
  let first := c.toNat
  let next := d.toNat
  if 0x1100 ≤ first && first ≤ 0x1112 && 0x1161 ≤ next && next ≤ 0x1175 then
    some (Char.ofNat (0xac00 + (first - 0x1100) * 588 + (next - 0x1161) * 28))
  else if 0xac00 ≤ first && first ≤ 0xd7a3 && (first - 0xac00) % 28 = 0 && 0x11a8 ≤ next && next ≤ 0x11c2 then
    some (Char.ofNat (first + (next - 0x11a7)))
  else none

/-- The character for a letter with a mark. -/
def joinMark? (c mark : Char) : Option Char :=
  (joinSyllable? c mark).or <|
    joinedLetters.findSome? fun (number, letters, joined) =>
      if number = mark.toNat then (letters.toList.zip joined.toList).lookup c else none

/-- Join the marks after a letter with it. Those that could not be joined are in `marks`, backwards; one of
them keeps later marks of its class from the letter. -/
def joinAfter (letter : Char) (marks : List Char) : List Char → List Char
  | [] => letter :: marks.reverse
  | c :: rest =>
    match if marks.all (markClass · < markClass c) then joinMark? letter c else none with
    | some joined => joinAfter joined marks rest
    | none =>
      if markClass c = 0 then letter :: marks.reverse ++ joinAfter c [] rest
      else joinAfter letter (c :: marks) rest

/-- Join the marks of a text with the letters before them. -/
def joinAll : List Char → List Char
  | [] => []
  | c :: rest => if markClass c = 0 then joinAfter c [] rest else c :: joinAll rest

/-- The normal form of a text with marks. -/
def joinMarks (text : List Char) : List Char :=
  if text.all (·.toNat < 128) then text else joinAll (orderMarks (text.flatMap partsOf))

end XmlDiagnostics.Text
