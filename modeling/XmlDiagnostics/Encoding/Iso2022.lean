import XmlDiagnostics.Encoding.Unicode

/-! # ISO-2022-JP

Octets of seven bits whose meaning depends on the set of characters in use. A text begins with ASCII, and
an escape sequence of three octets puts another set in its place. What is no escape sequence after an
escape becomes a replacement character for the escape alone; so does an escape sequence that follows
another at once, as the first then served nothing. The set with two octets a character is a table that is
given. -/

namespace XmlDiagnostics.Encoding

/-- A set of characters that an escape sequence puts into use. -/
inductive ShiftSet where
  | ascii
  | roman
  | katakana
  | twoOctets
deriving DecidableEq, Repr

/-- The escape. -/
def escapeOctet : UInt8 := 0x1b

/-- The set that the two octets after an escape put into use. -/
def ShiftSet.ofOctets? (a b : UInt8) : Option ShiftSet :=
  [(0x28, 0x42, ascii), (0x28, 0x4a, roman), (0x28, 0x49, katakana), (0x24, 0x40, twoOctets),
    (0x24, 0x42, twoOctets)].findSome? fun (x, y, set) => if a = x ∧ b = y then some set else none

/-- Whether an octet of seven bits stands for itself in ASCII: the two that shift without an escape and the
escape do not. -/
def isUnshifted (b : UInt8) : Bool := b.toNat < 128 && !([0x0e, 0x0f, escapeOctet].contains b)

/-- The character of an octet in a set with one octet a character. -/
def ShiftSet.char? (set : ShiftSet) (b : UInt8) : Option Char :=
  match set with
  | ascii => if isUnshifted b then some (Char.ofNat b.toNat) else none
  | roman =>
    if b = 0x5c then some '\u00a5'
    else if b = 0x7e then some '\u203e'
    else if isUnshifted b then some (Char.ofNat b.toNat) else none
  | katakana =>
    if 0x21 ≤ b.toNat ∧ b.toNat ≤ 0x5f then some (Char.ofNat (0xff61 + (b.toNat - 0x21))) else none
  | twoOctets => none

/-- Whether an octet may begin or end a character of two octets. -/
def isPairOctet (b : UInt8) : Bool := 0x21 ≤ b.toNat && b.toNat ≤ 0x7e

/-- The character of an octet together with the one after it, and what comes then. -/
def ShiftSet.pairAt? (pair? : UInt8 → UInt8 → Option Char) (set : ShiftSet) (b : UInt8) :
    List UInt8 → Option (Char × List UInt8)
  | second :: rest =>
    if set = twoOctets ∧ isPairOctet b ∧ isPairOctet second then (pair? b second).map (·, rest) else none
  | [] => none

theorem ShiftSet.length_of_pairAt? {pair? : UInt8 → UInt8 → Option Char} {set : ShiftSet} {b : UInt8}
    {rest after : List UInt8} {c : Char} (h : set.pairAt? pair? b rest = some (c, after)) :
    after.length ≤ rest.length := by
  cases rest with
  | nil => cases h
  | cons second rest =>
    rw [pairAt?] at h
    split at h
    · obtain ⟨c', -, hpair⟩ := Option.map_eq_some_iff.mp h
      obtain ⟨rfl, rfl⟩ := Prod.mk.inj hpair
      exact Nat.le_succ _
    · cases h

/-- What is left after an octet without a character, before `rest`. In the set with two octets a character
the next octet goes with it, unless it is an escape. -/
def afterFault (set : ShiftSet) (b : UInt8) (rest : List UInt8) : List UInt8 :=
  if set = .twoOctets ∧ isPairOctet b ∧ rest.head? ≠ some escapeOctet then rest.tail else rest

theorem length_afterFault_le (set : ShiftSet) (b : UInt8) (rest : List UInt8) :
    (afterFault set b rest).length ≤ rest.length := by
  unfold afterFault
  split
  · simp only [List.length_tail]; omega
  · exact Nat.le_refl _

/-- Decode octets with a set in use; `idle` tells that it has just been put into use. -/
def decodeShifted (pair? : UInt8 → UInt8 → Option Char) (set : ShiftSet) (idle : Bool) : List UInt8 → List Char
  | [] => []
  | b :: rest =>
    if b = escapeOctet then
      match rest with
      | x :: y :: after =>
        match ShiftSet.ofOctets? x y with
        | some next => (if idle then [replacementChar] else []) ++ decodeShifted pair? next true after
        | none => replacementChar :: decodeShifted pair? set false (x :: y :: after)
      | [x] => replacementChar :: decodeShifted pair? set false [x]
      | [] => [replacementChar]
    else
      match set.char? b with
      | some c => c :: decodeShifted pair? set false rest
      | none =>
        match _hpair : set.pairAt? pair? b rest with
        | some (c, after) => c :: decodeShifted pair? set false after
        | none => replacementChar :: decodeShifted pair? set false (afterFault set b rest)
termination_by bytes => bytes.length
decreasing_by
  · simp only [List.length_cons]; omega
  · simp only [List.length_cons]; omega
  · simp only [List.length_cons]; omega
  · simp only [List.length_cons]; omega
  · have := ShiftSet.length_of_pairAt? _hpair
    simp only [List.length_cons]; omega
  · have := length_afterFault_le set b rest
    simp only [List.length_cons]; omega

/-- Decode ISO-2022-JP. -/
def decodeIso2022 (pair? : UInt8 → UInt8 → Option Char) (bytes : List UInt8) : List Char :=
  decodeShifted pair? .ascii false bytes

end XmlDiagnostics.Encoding
