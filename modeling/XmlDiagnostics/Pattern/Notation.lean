import XmlDiagnostics.Pattern.Property
import XmlDiagnostics.Pattern.Size

/-! # The notation of patterns

Reads the written form of a pattern: literals, the dot, bracketed sets with ranges, negation and set
operations, classes, properties and escapes, groups with names or flags, alternatives, repetitions with
counts and their lazy forms, and anchors. A text that is not well-formed, that nests its parts too deeply, or
whose pattern is too large, denotes no pattern. In the ASCII notation sets have only characters of ASCII, so
that what could match others denotes no pattern either. -/

namespace XmlDiagnostics.Pattern

namespace Notation

/-- The settings that a pattern may change on its way. -/
structure Flags where
  ignoreCase : Bool := false
  dotAll : Bool := false
  multiLine : Bool := false
  carriageReturns : Bool := false
  swapGreed : Bool := false
  verbose : Bool := false
  ascii : Bool := false
deriving Repr, DecidableEq

/-- A set closed under differences of case, if they do not count. -/
def Flags.fold (flags : Flags) (set : CharSet) : CharSet :=
  if !flags.ignoreCase then set else if flags.ascii then .anyAsciiCase set else .anyCase set

/-- The complement of a set, which the ASCII notation has not. -/
def Flags.negate? (flags : Flags) (set : CharSet) : Option CharSet :=
  if flags.ascii then none else some (.complement set)

/-- What an escape stands for. -/
inductive Escape where
  | char (c : Char)
  | set (set : CharSet)
  | anchor (condition : Anchor)

/-- Whether a character means nothing in the verbose notation. -/
def isVoidIn (flags : Flags) (c : Char) : Bool := flags.verbose && Text.isBlank c

/-- Leave out blanks and comments, which mean nothing in the verbose notation. -/
def skipBlanks (flags : Flags) (text : List Char) : List Char :=
  if flags.verbose then go false text else text
where
  /-- The text after blanks and comments, from inside a comment or from outside. -/
  go : Bool → List Char → List Char
    | _, [] => []
    | true, c :: rest => go (c ≠ '\n') rest
    | false, c :: rest => if c = '#' then go true rest else if Text.isBlank c then go false rest else c :: rest

/-- Read up to a closing brace, from inside a comment or from outside. -/
def readBraced (flags : Flags) : Bool → List Char → Option (List Char × List Char)
  | _, [] => none
  | true, c :: rest => readBraced flags (c ≠ '\n') rest
  | false, c :: rest =>
    if c = '\x7d' then some ([], rest)
    else if isVoidIn flags c then readBraced flags false rest
    else if flags.verbose && c = '#' then readBraced flags true rest
    else (readBraced flags false rest).map fun (read, rest) => (c :: read, rest)

/-! ### Escapes -/

/-- Read a number of hexadecimal digits. -/
def readDigits (flags : Flags) : Nat → List Char → Option (List Char × List Char)
  | 0, text => some ([], text)
  | n + 1, text =>
    match skipBlanks flags text with
    | c :: rest => (readDigits flags n rest).map fun (digits, rest) => (c :: digits, rest)
    | [] => none

/-- A character by number: digits in braces, or as many as `width` says. In the ASCII notation two digits
are an octet, which is a character only if it is one of ASCII. -/
def readHex (flags : Flags) (width : Nat) (text : List Char) : Option (Escape × List Char) :=
  match skipBlanks flags text with
  | '\x7b' :: rest => do
    let (digits, rest) ← readBraced flags false rest
    return (.char (← Text.charOfHex? digits), rest)
  | text => do
    let (digits, rest) ← readDigits flags width text
    let c ← Text.charOfHex? digits
    guard (!(flags.ascii && width = 2 && 128 ≤ c.toNat))
    return (.char c, rest)

/-- An anchor about words. -/
def wordAnchor (flags : Flags) (place : WordPlace) : Escape := .anchor (.word flags.ascii place)

/-- Read an anchor about words after its letter: a name in braces may choose one, and braces that hold no
name do not belong to the anchor. -/
def readWordAnchor (flags : Flags) (text : List Char) : Option (Escape × List Char) :=
  match text with
  | '\x7b' :: rest =>
    if (skipBlanks flags rest).head?.any fun c => c.isAlpha || c = '-' then do
      let (name, rest) ← readBraced flags false rest
      return (wordAnchor flags (← placeNamed? (String.ofList name)), rest)
    else some (wordAnchor flags .edge, text)
  | _ => some (wordAnchor flags .edge, text)
where
  /-- The places that have a name. -/
  placeNamed? : String → Option WordPlace
    | "start" => some .start
    | "end" => some .stop
    | "start-half" => some .noneBefore
    | "end-half" => some .noneAfter
    | _ => none

/-- The set that a property stands for, or its complement. -/
def propertySet? (flags : Flags) (negated : Bool) (set : Option CharSet) : Option Escape := do
  guard (!flags.ascii)
  let set := flags.fold (← set)
  return .set (if negated then .complement set else set)

/-- The set that a property in braces stands for: a name, or a name and a value after one of three signs. -/
def bracedProperty? (name : List Char) : Option CharSet :=
  let signs := name.zipIdx.filter fun (c, i) => c = '!' && name[i + 1]? = some '='
  let at? (sign : Char) : Option Nat := name.findIdx? (· = sign)
  match signs.head?, at? ':', at? '=' with
  | some (_, i), _, _ => CharSet.ofNameAndValue? (name.take i) (name.drop (i + 2))
  | none, some i, _ => CharSet.ofNameAndValue? (name.take i) (name.drop (i + 1))
  | none, none, some i => CharSet.ofNameAndValue? (name.take i) (name.drop (i + 1))
  | none, none, none => CharSet.ofName? name

/-- Read a property after its letter. -/
def readProperty (flags : Flags) (negated : Bool) (text : List Char) : Option (Escape × List Char) :=
  match skipBlanks flags text with
  | '\x7b' :: rest => do
    let (name, rest) ← readBraced flags false rest
    return (← propertySet? flags negated (bracedProperty? name), rest)
  | '\\' :: _ => none
  | c :: rest => (propertySet? flags negated (CharSet.ofName? [c])).map (·, rest)
  | [] => none

/-- Blanks of ASCII. -/
def asciiBlanks : CharSet := .ofList ['\t', '\n', '\x0b', '\x0c', '\r', ' ']

/-- Word characters of ASCII. -/
def asciiWord : CharSet := .unions [.range '0' '9', .range 'A' 'Z', .single '_', .range 'a' 'z']

/-- A class of characters: one set, or another one in the ASCII notation. -/
def charClass (flags : Flags) (negated : Bool) (set ascii : CharSet) : Option Escape :=
  let set := if flags.ascii then ascii else set
  if negated then (flags.negate? set).map .set else some (.set set)

/-- Read what follows a backslash. A sign that is neither letter nor digit stands for itself. -/
def readEscape (flags : Flags) : List Char → Option (Escape × List Char)
  | [] => none
  | 'd' :: rest => (charClass flags false .digit (.range '0' '9')).map (·, rest)
  | 'D' :: rest => (charClass flags true .digit (.range '0' '9')).map (·, rest)
  | 's' :: rest => (charClass flags false .blank asciiBlanks).map (·, rest)
  | 'S' :: rest => (charClass flags true .blank asciiBlanks).map (·, rest)
  | 'w' :: rest => (charClass flags false .word asciiWord).map (·, rest)
  | 'W' :: rest => (charClass flags true .word asciiWord).map (·, rest)
  | 'p' :: rest => readProperty flags false rest
  | 'P' :: rest => readProperty flags true rest
  | 'b' :: rest => readWordAnchor flags rest
  | 'B' :: rest => some (wordAnchor flags .noEdge, rest)
  | '<' :: rest => some (wordAnchor flags .start, rest)
  | '>' :: rest => some (wordAnchor flags .stop, rest)
  | 'A' :: rest => some (.anchor .textStart, rest)
  | 'z' :: rest => some (.anchor .textEnd, rest)
  | 'n' :: rest => some (.char '\n', rest)
  | 't' :: rest => some (.char '\t', rest)
  | 'r' :: rest => some (.char '\r', rest)
  | 'f' :: rest => some (.char '\x0c', rest)
  | 'v' :: rest => some (.char '\x0b', rest)
  | 'a' :: rest => some (.char '\x07', rest)
  | 'x' :: rest => readHex flags 2 rest
  | 'u' :: rest => readHex flags 4 rest
  | 'U' :: rest => readHex flags 8 rest
  | c :: rest =>
    if c.toNat < 128 && !c.isAlphanum then some (.char c, rest) else none

/-! ### Bracketed sets -/

/-- The sets that have a name in brackets. -/
def namedSet? (name : String) : Option CharSet :=
  let digits := CharSet.range '0' '9'
  let capitals := CharSet.range 'A' 'Z'
  let smalls := CharSet.range 'a' 'z'
  match name with
  | "alnum" => some (.union digits (.union capitals smalls))
  | "alpha" => some (.union capitals smalls)
  | "ascii" => some (.range '\x00' '\x7f')
  | "blank" => some (.ofList ['\t', ' '])
  | "cntrl" => some (.union (.range '\x00' '\x1f') (.single '\x7f'))
  | "digit" => some digits
  | "graph" => some (.range '!' '~')
  | "lower" => some smalls
  | "print" => some (.range ' ' '~')
  | "punct" =>
    some (.union (.range '!' '/') (.union (.range ':' '@') (.union (.range '[' '\x60') (.range '\x7b' '~'))))
  | "space" => some asciiBlanks
  | "upper" => some capitals
  | "word" => some asciiWord
  | "xdigit" => some (.union digits (.union (.range 'A' 'F') (.range 'a' 'f')))
  | _ => none

/-- Read a named set after its opening bracket and colon: the set, or nothing if it is the complement of one
in the ASCII notation. What has another form is no named set. -/
def readNamedSet (flags : Flags) (text : List Char) : Option (Option CharSet × List Char) := do
  let (name, rest) ← Text.splitAtFirst ':' text
  match rest with
  | ']' :: rest =>
    match name with
    | '^' :: name => (namedSet? (String.ofList name)).map fun set => (flags.negate? (flags.fold set), rest)
    | name => (namedSet? (String.ofList name)).map fun set => (some (flags.fold set), rest)
  | _ => none

/-- One member of a bracketed set: a character or a class. -/
def readMember (flags : Flags) (text : List Char) : Option (Escape × List Char) := do
  let (member, rest) ←
    match text with
    | [] => none
    | '\\' :: rest => readEscape flags rest
    | c :: rest => some (Escape.char c, rest)
  match member with
  | .anchor _ => none
  | .char c => if flags.ascii && 128 ≤ c.toNat then none else some (member, rest)
  | .set _ => some (member, rest)

/-- The next character that counts after a hyphen, as far as it decides whether the hyphen means a range. Of
comments only the first sign is passed over. -/
def peek (flags : Flags) (text : List Char) : Option Char :=
  if flags.verbose then (go false text).or text.head? else text.head?
where
  /-- The next character that is no blank, and not the first sign of a comment. -/
  go : Bool → List Char → Option Char
    | _, [] => none
    | inComment, c :: rest =>
      if Text.isBlank c then go inComment rest else if !inComment && c = '#' then go true rest else some c

/-- An operation on sets. -/
inductive SetOperation where
  | inter
  | difference
  | symmetricDifference

/-- What an operation makes of two sets. -/
def SetOperation.apply : SetOperation → CharSet → CharSet → CharSet
  | inter, a, b => a.inter b
  | difference, a, b => a.inter (.complement b)
  | symmetricDifference, a, b => (a.union b).inter (.complement (a.inter b))

/-- A set being read: an open operation with the set on its left, the members since then and their
number; and how deeply either side is nested. -/
structure OpenSet where
  pending : Option (CharSet × Nat × SetOperation) := none
  members : CharSet := .none
  count : Nat := 0
  depth : Nat := 0

/-- One more member, nested as deeply as `depth` says. -/
def OpenSet.add (s : OpenSet) (set : CharSet) (depth : Nat) : OpenSet :=
  { s with members := .union s.members set, count := s.count + 1, depth := max s.depth depth }

/-- The set read so far and its depth. The sides of an operation are each closed under case. -/
def OpenSet.close (flags : Flags) (s : OpenSet) : CharSet × Nat :=
  let depth := if s.count < 2 then s.depth else s.depth + 1
  match s.pending with
  | none => (s.members, depth)
  | some (left, leftDepth, operation) =>
    (operation.apply (flags.fold left) (flags.fold s.members), max leftDepth depth + 1)

/-- Begin another operation whose left side is the set read so far. -/
def OpenSet.operate (flags : Flags) (s : OpenSet) (operation : SetOperation) : OpenSet :=
  let (set, depth) := s.close flags
  { pending := some (set, depth, operation) }

/-- Read the hyphens at the beginning of a bracketed set, from inside a comment or from outside. -/
def readHyphens (flags : Flags) : Bool → OpenSet → List Char → OpenSet × List Char
  | _, s, [] => (s, [])
  | true, s, c :: rest => readHyphens flags (c ≠ '\n') s rest
  | false, s, c :: rest =>
    if c = '-' then readHyphens flags false (s.add (.single '-') 0) rest
    else if isVoidIn flags c then readHyphens flags false s rest
    else if flags.verbose && c = '#' then readHyphens flags true s rest
    else (s, c :: rest)

mutual

/-- Read the members of a bracketed set up to its closing bracket. -/
def readMembers (flags : Flags) : Nat → OpenSet → List Char → Option (CharSet × Nat × List Char)
  | 0, _, _ => none
  | n + 1, s, text =>
    match skipBlanks flags text with
    | [] => none
    | ']' :: rest =>
      let (set, depth) := s.close flags
      some (set, depth, rest)
    | '&' :: '&' :: rest => readMembers flags n (s.operate flags .inter) rest
    | '-' :: '-' :: rest => readMembers flags n (s.operate flags .difference) rest
    | '~' :: '~' :: rest => readMembers flags n (s.operate flags .symmetricDifference) rest
    | '[' :: rest =>
      match (if rest.head? = some ':' then readNamedSet flags rest.tail else none) with
      | some (some set, rest) => readMembers flags n (s.add set 0) rest
      | some (none, _) => none
      | none =>
        match readSet flags n rest with
        | some (set, depth, rest) => readMembers flags n (s.add set depth) rest
        | none => none
    | text => do
      let (member, rest) ← readMember flags text
      let rest := skipBlanks flags rest
      let inRange := rest.head? = some '-' && !(peek flags rest.tail).any fun c => c = ']' || c = '-'
      match member, inRange with
      | .char low, true => do
        let (high, rest) ← readMember flags (skipBlanks flags rest.tail)
        match high with
        | .char high => if low ≤ high then readMembers flags n (s.add (.range low high) 0) rest else none
        | _ => none
      | .char c, false => readMembers flags n (s.add (.single c) 0) rest
      | .set set, false => readMembers flags n (s.add set 0) rest
      | _, _ => none

/-- Read a bracketed set after its opening bracket. Hyphens at the beginning, and a closing bracket
that would leave the set without members, stand for themselves. -/
def readSet (flags : Flags) : Nat → List Char → Option (CharSet × Nat × List Char)
  | 0, _ => none
  | n + 1, text => do
    let text := skipBlanks flags text
    let (negated, text) := match text with
      | '^' :: rest => (true, skipBlanks flags rest)
      | rest => (false, rest)
    let (start, text) := readHyphens flags false {} text
    let (set, depth, rest) ←
      match text with
      | ']' :: rest =>
        if start.count = 0 then readMembers flags n (start.add (.single ']') 0) rest
        else readMembers flags n start text
      | _ => readMembers flags n start text
    let set := flags.fold set
    return (← if negated then flags.negate? set else some set, depth + 1, rest)

end

/-! ### Groups, alternatives and repetitions -/

/-- A part of a pattern with its shape, and the number of parts around its innermost one. -/
structure Part where
  pattern : Pattern
  shape : Shape
  depth : Nat := 0

/-- The depth of several parts together; a single one needs nothing around it. -/
def depthOf : List Part → Nat
  | [] => 0
  | [part] => part.depth
  | parts => 1 + (parts.map Part.depth).foldl max 0

/-- The part that stands for nothing. -/
def Part.nothing : Part := ⟨.empty, .nothing, 0⟩

/-- A character of a set. -/
def Part.ofSet (set : CharSet) (depth : Nat) : Part := ⟨one set, .ofRanges set.ranges, depth⟩

/-- A single character under the flags. -/
def Part.ofChar (flags : Flags) (c : Char) : Part :=
  if flags.ignoreCase && (!flags.ascii || c.toNat < 128) then .ofSet (flags.fold (.single c)) 0
  else ⟨char c, .literal [c], 0⟩

/-- An anchor. -/
def Part.ofAnchor (condition : Anchor) : Part := ⟨anchor condition, .anchor condition, 0⟩

/-- Parts one after the other. -/
def inSequence (parts : List Part) : Part :=
  ⟨sequence (parts.map Part.pattern), .sequence (parts.map Part.shape), depthOf parts⟩

/-- The first of several patterns that matches. -/
def alternatives : List Pattern → Pattern
  | [] => empty
  | [p] => p
  | p :: ps => alt p (alternatives ps)

/-- A group being read: its number if it has one, the flags outside of it, the finished branches and
the parts of the open branch, both backwards, and whether the last part can be repeated. -/
structure Frame where
  number : Option Nat := none
  outerFlags : Flags := {}
  branches : List Part := []
  parts : List Part := []
  repeatable : Bool := false

/-- The pattern of a finished group. -/
def Frame.close (frame : Frame) : Part :=
  let branches := (inSequence frame.parts.reverse :: frame.branches).reverse
  let p := alternatives (branches.map Part.pattern)
  let s := Shape.choice mostDepth (branches.map Part.shape)
  match frame.number with
  | some number => ⟨group number p, .group number s, depthOf branches⟩
  | none => ⟨p, s, depthOf branches⟩

/-- One more part of the open branch. -/
def Frame.add (frame : Frame) (part : Part) : Frame :=
  { frame with parts := part :: frame.parts, repeatable := true }

/-- Begin another branch. -/
def Frame.branch (frame : Frame) : Frame :=
  { frame with branches := inSequence frame.parts.reverse :: frame.branches, parts := [], repeatable := false }

/-- A pattern being read: the flags in force, the number of groups so far and their names, the innermost
group and those around it. -/
structure State where
  flags : Flags := {}
  groups : Nat := 0
  names : List (List Char) := []
  frame : Frame := {}
  outer : List Frame := []

/-- One more part of the innermost group. -/
def State.add (s : State) (part : Part) : State := { s with frame := s.frame.add part }

/-- Repeat the last part. -/
def State.repeatLast (s : State) (least : Nat) (most : Option Nat) (lazy : Bool) : Option State :=
  match s.frame.parts with
  | part :: parts =>
    if s.frame.repeatable then
      let greedy := lazy == s.flags.swapGreed
      let repeated : Part :=
        ⟨many part.pattern least most greedy, part.shape.repeated least most greedy, part.depth + 1⟩
      some { s with frame := { s.frame with parts := repeated :: parts } }
    else none
  | [] => none

/-- Open a group with or without a number. -/
def State.openGroup (s : State) (numbered : Bool) (flags : Flags) : State :=
  { s with
    flags
    groups := if numbered then s.groups + 1 else s.groups
    frame := { number := if numbered then some (s.groups + 1) else none, outerFlags := s.flags }
    outer := s.frame :: s.outer }

/-- Close the innermost group. -/
def State.closeGroup (s : State) : Option State :=
  match s.outer with
  | [] => none
  | frame :: outer =>
    let part := s.frame.close
    some { s with flags := s.frame.outerFlags, frame := frame.add { part with depth := part.depth + 1 }, outer }

/-- Read flags up to a colon or a closing parenthesis; tell which of them ended it. No flag is given
twice, and a minus sign has flags behind it. -/
def readFlags (value : Bool) (seen : List Char) (flags : Flags) : List Char → Option (Flags × Bool × List Char)
  | [] => none
  | c :: rest =>
    if c = ':' then some (flags, true, rest)
    else if c = ')' then some (flags, false, rest)
    else if c = '-' then
      if value && rest.head? ≠ some ':' && rest.head? ≠ some ')' then readFlags false seen flags rest else none
    else if seen.contains c then none
    else
      let seen := c :: seen
      match c with
      | 'i' => readFlags value seen { flags with ignoreCase := value } rest
      | 's' => readFlags value seen { flags with dotAll := value } rest
      | 'U' => readFlags value seen { flags with swapGreed := value } rest
      | 'x' => readFlags value seen { flags with verbose := value } rest
      | 'm' => readFlags value seen { flags with multiLine := value } rest
      | 'R' => readFlags value seen { flags with carriageReturns := value } rest
      | 'u' => readFlags value seen { flags with ascii := !value } rest
      | _ => none

/-- Whether a character is a letter, or is used like one. -/
def isLetter (c : Char) : Bool :=
  if c.toNat < 128 then c.isAlpha
  else CharSet.alphabetic.contains c || Text.inRanges (CharTable.rangesOf CharTable.newerLetterRows) c.toNat

/-- Whether a character is a digit or another number. -/
def isNumber (c : Char) : Bool :=
  if c.toNat < 128 then c.isDigit
  else (CharSet.categories ["Nd", "Nl", "No"]).contains c
    || Text.inRanges (CharTable.rangesOf CharTable.newerNumberRows) c.toNat

/-- Whether a text can name a group. -/
def isGroupName : List Char → Bool
  | [] => false
  | c :: rest => (c = '_' || isLetter c) && rest.all fun c => ['_', '.', '[', ']'].contains c || isLetter c || isNumber c

/-- Open a named group; no two groups have the same name. -/
def openNamed (s : State) (text : List Char) : Option (State × List Char) :=
  match Text.splitAtFirst '>' text with
  | some (name, rest) =>
    if isGroupName name && !s.names.contains name then
      some ({ s.openGroup true s.flags with names := name :: s.names }, rest)
    else none
  | none => none

/-- Read what follows an opening parenthesis: the head of a group, or flags for the rest of the group
around it. -/
def openParenthesis (s : State) : List Char → Option (State × List Char)
  | '?' :: 'P' :: '<' :: rest => openNamed s rest
  | '?' :: '<' :: rest => openNamed s rest
  | '?' :: ')' :: _ => none
  | '?' :: rest =>
    match readFlags true [] s.flags rest with
    | some (flags, true, rest) => some (s.openGroup false flags, rest)
    | some (flags, false, rest) =>
      some ({ s with flags, frame := { s.frame.add .nothing with repeatable := false } }, rest)
    | none => none
  | rest => some (s.openGroup true s.flags, rest)

/-- Read decimal digits, from inside a comment or from outside. -/
def readDecimals (flags : Flags) : Bool → List Char → List Char × List Char
  | _, [] => ([], [])
  | true, c :: rest => readDecimals flags (c ≠ '\n') rest
  | false, c :: rest =>
    if c.isDigit then
      let (digits, rest) := readDecimals flags false rest
      (c :: digits, rest)
    else if isVoidIn flags c then readDecimals flags false rest
    else if flags.verbose && c = '#' then readDecimals flags true rest
    else ([], c :: rest)

/-- Read a decimal number with blanks around it. -/
def readCount (flags : Flags) (text : List Char) : Option (Nat × List Char) := do
  let (digits, rest) := readDecimals flags false (text.dropWhile Text.isBlank)
  let n ← Text.numberOf? 10 digits
  guard (n < 4294967296)
  return (n, rest.dropWhile Text.isBlank)

/-- Read the counts of a repetition after its opening brace. -/
def readCounts (flags : Flags) (text : List Char) : Option (Nat × Option Nat × List Char) := do
  let (least, rest) ← readCount flags (skipBlanks flags text)
  match rest with
  | '\x7d' :: rest => some (least, some least, rest)
  | ',' :: rest =>
    match skipBlanks flags rest with
    | '\x7d' :: rest => some (least, none, rest)
    | rest => do
      let (most, rest) ← readCount flags rest
      guard (rest.head? = some '\x7d' && least ≤ most)
      return (least, some most, rest.tail)
  | _ => none

/-- Repeat the last part, lazily if a question mark follows. -/
def repeatWith (s : State) (least : Nat) (most : Option Nat) : List Char → Option (State × List Char)
  | '?' :: rest => (s.repeatLast least most true).map (·, rest)
  | rest => (s.repeatLast least most false).map (·, rest)

/-- The part that a dot stands for, which the ASCII notation has not. -/
def dot? (flags : Flags) : Option Part :=
  if flags.ascii then none
  else
    let set := if flags.dotAll then .all
      else if flags.carriageReturns then .complement (.ofList ['\r', '\n'])
      else .notLineFeed
    some (.ofSet set 0)

/-- The part for the beginning or the end: that of the text or of a line. -/
def border (flags : Flags) (text : Anchor) (line : Bool → Anchor) : Part :=
  .ofAnchor (if flags.multiLine then line flags.carriageReturns else text)

/-- Read one piece of the notation. -/
def step (s : State) : List Char → Option (State × List Char)
  | [] => none
  | '(' :: rest => openParenthesis s (skipBlanks s.flags rest)
  | ')' :: rest => s.closeGroup.map (·, rest)
  | '|' :: rest => some ({ s with frame := s.frame.branch }, rest)
  | '*' :: rest => repeatWith s 0 none rest
  | '+' :: rest => repeatWith s 1 none rest
  | '?' :: rest => repeatWith s 0 (some 1) rest
  | '\x7b' :: rest => do
    let (least, most, rest) ← readCounts s.flags rest
    repeatWith s least most (skipBlanks s.flags rest)
  | '[' :: rest => do
    let (set, depth, rest) ← readSet s.flags (2 * rest.length + 2) rest
    return (s.add (.ofSet set depth), rest)
  | '.' :: rest => (dot? s.flags).map fun part => (s.add part, rest)
  | '^' :: rest => some (s.add (border s.flags .textStart .lineStart), rest)
  | '$' :: rest => some (s.add (border s.flags .textEnd .lineEnd), rest)
  | '\\' :: rest =>
    match readEscape s.flags rest with
    | some (.char c, rest) => some (s.add (.ofChar s.flags c), rest)
    | some (.set set, rest) => some (s.add (.ofSet set 0), rest)
    | some (.anchor condition, rest) => some (s.add (.ofAnchor condition), rest)
    | none => none
  | c :: rest =>
    if s.flags.verbose && (c = '#' || Text.isBlank c) then some (s, skipBlanks s.flags (c :: rest))
    else some (s.add (.ofChar s.flags c), rest)

/-- Read pieces to the end of the notation, `n` of them at most. -/
def readPieces : Nat → State → List Char → Option Part
  | _, s, [] => if s.outer.isEmpty then some s.frame.close else none
  | 0, _, _ :: _ => none
  | n + 1, s, text =>
    match step s text with
    | some (s, rest) => readPieces n s rest
    | none => none

end Notation

/-- The pattern that a text denotes. Every piece of the notation takes a character, so there are no
more pieces than characters. -/
def read? (text : String) : Option Pattern := do
  let part ← Notation.readPieces text.length {} text.toList
  if part.depth ≤ mostDepth && fits part.shape then some part.pattern else none

end XmlDiagnostics.Pattern
