import XmlDiagnostics.Text.Octets
import XmlDiagnostics.Text.Split

/-! # Numeric addresses

The addresses of hosts as numbers: four octets with dots, of which some may be left out and which may be
written in other bases, and eight groups of hexadecimal digits with colons, of which the longest run of
zeros may be left out. Both have one normal form. -/

namespace XmlDiagnostics.Url

/-! ### Four octets -/

/-- The number that a part of an address denotes: decimal, octal after a zero, or hexadecimal after its
mark. -/
def addressNumber? : List Char → Option Nat
  | '0' :: 'x' :: digits => if digits.isEmpty then some 0 else Text.numberOf? 16 digits
  | '0' :: 'X' :: digits => if digits.isEmpty then some 0 else Text.numberOf? 16 digits
  | '0' :: d :: digits => Text.numberOf? 8 (d :: digits)
  | digits => Text.numberOf? 10 digits

/-- The parts of an address; a dot at its end does not count. -/
def addressParts (text : List Char) : List (List Char) :=
  let parts := Text.splitAtEvery (· = '.') text
  if parts.getLast? = some [] then parts.dropLast else parts

/-- Whether the last part of a text is a number, so that all of it has to be an address. -/
def endsInNumber (text : List Char) : Bool :=
  (addressParts text).getLast?.any fun last =>
    (!last.isEmpty && last.all Char.isDigit) || (addressNumber? last).isSome

/-- The address that a text denotes. Its last part stands for all octets that are left. -/
def address? (text : List Char) : Option Nat := do
  let numbers ← (addressParts text).mapM addressNumber?
  let last ← numbers.getLast?
  let octets := numbers.dropLast
  let limit ← [4294967296, 16777216, 65536, 256][octets.length]?
  guard (octets.all (· < 256) && last < limit)
  return (octets.zip [16777216, 65536, 256]).foldl (fun sum (n, weight) => sum + n * weight) last

/-- The normal form of an address. -/
def addressText (n : Nat) : String :=
  ".".intercalate ([n / 16777216, n / 65536 % 256, n / 256 % 256, n % 256].map toString)

/-! ### Eight groups -/

/-- The value of a group. -/
def group? (text : List Char) : Option Nat := do
  guard (text.length ≤ 4)
  Text.numberOf? 16 text

/-- The groups that a list of parts denotes, of which the last one may be four decimal octets. -/
def groups? : List (List Char) → Option (List Nat)
  | [] => some []
  | [last] =>
    match group? last with
    | some n => some [n]
    | none => do
      let octets ← (Text.splitAtEvery (· = '.') last).mapM fun part => do
        guard (part.head? ≠ some '0' || part.length = 1)
        (Text.numberOf? 10 part).filter (· < 256)
      match octets with
      | [a, b, c, d] => some [a * 256 + b, c * 256 + d]
      | _ => none
  | part :: rest => do return (← group? part) :: (← groups? rest)

/-- The parts between colons; a text without characters has none. -/
def colonParts (text : List Char) : List (List Char) :=
  if text.isEmpty then [] else Text.splitAtEvery (· = ':') text

/-- The parts of a text before and after the first two colons in a row. -/
def splitAtColons : List Char → Option (List Char × List Char)
  | ':' :: ':' :: rest => some ([], rest)
  | c :: rest => (splitAtColons rest).map fun (before, after) => (c :: before, after)
  | [] => none

/-- The eight groups that a text denotes; two colons in a row stand for groups of zero. -/
def longAddress? (text : List Char) : Option (List Nat) :=
  match splitAtColons text with
  | none => (groups? (colonParts text)).filter fun groups => groups.length = 8
  | some (before, after) => do
    let first ← groups? (colonParts before)
    let last ← groups? (colonParts after)
    guard (first.length + last.length < 8)
    return first ++ List.replicate (8 - first.length - last.length) 0 ++ last

/-- The number of zeros at the beginning of a list. -/
def leadingZeros (groups : List Nat) : Nat := (groups.takeWhile (· = 0)).length

/-- Where the longest run of zeros begins, and its length; of equal ones the first. -/
def longestZeros (groups : List Nat) : Nat × Nat :=
  (List.range groups.length).foldl
    (fun best i => if best.2 < leadingZeros (groups.drop i) then (i, leadingZeros (groups.drop i)) else best)
    (0, 0)

/-- Groups with colons between them. -/
def groupsText (groups : List Nat) : String :=
  ":".intercalate (groups.map fun n => String.ofList (Nat.toDigits 16 n))

/-- The normal form of eight groups: the longest run of at least two zeros is left out. -/
def longAddressText (groups : List Nat) : String :=
  let (start, length) := longestZeros groups
  if length < 2 then groupsText groups
  else groupsText (groups.take start) ++ "::" ++ groupsText (groups.drop (start + length))

end XmlDiagnostics.Url
