import XmlDiagnostics.Text.Lowercase
import XmlDiagnostics.Text.Marks
import XmlDiagnostics.Text.Split
import XmlDiagnostics.Url.DomainTable

/-! # Domain names

The normal form of a domain name has small letters and no characters beyond ASCII: a label with others is
written in Punycode. There the characters beyond ASCII are left out of the label and described after it, in
increasing order, by how far each lies from the one before; the distances are numbers of base 36 whose
length adapts to the distances so far. -/

namespace XmlDiagnostics.Url

/-! ### Punycode -/

/-- The digit of base 36 with a value. -/
def digit36 (n : Nat) : Char := if n < 26 then Char.ofNat (97 + n) else Char.ofNat (22 + n)

/-- The least value of a digit at a position of weight `k` that is not the last one. -/
def digitBound (bias k : Nat) : Nat := min 26 (max 1 (k - bias))

theorem digitBound_pos (bias k : Nat) : 0 < digitBound bias k := by
  unfold digitBound; omega

/-- The digits of a distance. -/
def distanceDigits (bias k distance : Nat) : List Char :=
  let bound := digitBound bias k
  if distance < bound then [digit36 distance]
  else
    digit36 (bound + (distance - bound) % (36 - bound))
      :: distanceDigits bias (k + 36) ((distance - bound) / (36 - bound))
termination_by distance
decreasing_by
  have := digitBound_pos bias k
  exact Nat.lt_of_le_of_lt (Nat.div_le_self _ _) (by omega)

/-- Scale a distance down for the next bias, counting the steps by 36. -/
def scaleDown (distance steps : Nat) : Nat :=
  if 455 < distance then scaleDown (distance / 35) (steps + 36) else steps + 36 * distance / (distance + 38)
termination_by distance

/-- The bias after a distance, when `count` characters have been written. -/
def nextBias (first : Bool) (distance count : Nat) : Nat :=
  let scaled := if first then distance / 700 else distance / 2
  scaleDown (scaled + scaled / count) 0

/-- Punycode being written: the digits so far backwards, the distance since the last character, the bias,
and how many characters have been written. -/
structure Puny where
  digits : List Char := []
  distance : Nat := 0
  bias : Nat := 72
  count : Nat

/-- Pass one character of a label while the characters with the number `n` are written; `basic` counts
those of ASCII. -/
def Puny.pass (basic n : Nat) (s : Puny) (c : Char) : Puny :=
  if c.toNat < n then { s with distance := s.distance + 1 }
  else if c.toNat = n then
    { digits := (distanceDigits s.bias 36 s.distance).reverse ++ s.digits
      distance := 0
      bias := nextBias (s.count = basic) s.distance (s.count + 1)
      count := s.count + 1 }
  else s

/-- Write the characters of a label with some numbers, which increase; the number `n` comes next. -/
def Puny.write (label : List Char) (basic : Nat) : Nat → List Nat → Puny → Puny
  | _, [], s => s
  | n, m :: rest, s =>
    let s := { s with distance := s.distance + (m - n) * (s.count + 1) }
    let s := label.foldl (Puny.pass basic m) s
    write label basic (m + 1) rest { s with distance := s.distance + 1 }

/-- The Punycode of a label. -/
def punycode (label : List Char) : List Char :=
  let basic := label.filter fun c => c.toNat < 128
  let others := (label.filter fun c => 128 ≤ c.toNat).map Char.toNat
  let numbers := (others.mergeSort (· ≤ ·)).eraseDups
  let start : Puny := { count := basic.length }
  basic ++ (if basic.isEmpty then [] else ['-'])
    ++ (Puny.write label basic.length 128 numbers start).digits.reverse

/-! ### Normal form -/

/-- Whether a character is a capital letter of Cherokee, whose small letters count as the capitals. -/
def isCherokeeCapital (c : Char) : Bool := 0x13a0 ≤ c.toNat && c.toNat ≤ 0x13f5

/-- What a character stands for by the table. -/
def standIn? (c : Char) : Option (List Char) := do
  let (first, words) ← (standIns.takeWhile (·.1 ≤ c.toNat)).getLast?
  (Text.splitAtEvery (· = ' ') words.toList)[c.toNat - first]?

/-- What a character counts as in a domain name. -/
def domainForm (c : Char) : List Char :=
  if c.toNat < 128 then [c.toLower]
  else if Text.inRanges ignoredRanges c.toNat then []
  else (standIn? c).getD [if isCherokeeCapital c then c else Text.smallLetter c]

/-- The normal form of a domain name. -/
def domainName (name : List Char) : List Char :=
  let labels := Text.splitAtEvery (· = '.') (Text.joinMarks (name.flatMap domainForm))
  List.intercalate ['.'] <| labels.map fun label =>
    if label.all fun c => c.toNat < 128 then label else "xn--".toList ++ punycode label

end XmlDiagnostics.Url
