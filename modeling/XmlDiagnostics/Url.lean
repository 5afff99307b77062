import XmlDiagnostics.Url.Address
import XmlDiagnostics.Url.Domain
import XmlDiagnostics.Url.Percent

/-! # Locations

A URL has a scheme and, after it, either an opaque text or a host with a path. Reading brings a URL to
its normal form: small letters in the scheme, one form for each host, no default ports, no dot segments,
and percent signs for characters that cannot stand for themselves. Files are named by URLs with the scheme
`file` and no host. -/

namespace XmlDiagnostics

/-- What follows the scheme of a URL. -/
inductive UrlBody where
  /-- a text without structure -/
  | opaqueText (text : String)
  /-- a path of segments, after an authority if there is one: a host with what belongs to it -/
  | path (authority : Option String) (segments : List String)
deriving DecidableEq, Repr

/-- A location in normal form. The segments, the query and the fragment are as they are written, with
percent signs. -/
structure Url where
  scheme : String
  body : UrlBody
  query : Option String
  fragment : Option String
deriving DecidableEq, Repr

namespace Url

/-! ### The written form -/

/-- The text of a path. -/
def pathText (segments : List String) : String := String.join (segments.map fun s => "/" ++ s)

/-- The written form of a URL. -/
def display (url : Url) : String :=
  let body := match url.body with
    | .opaqueText text => text
    | .path (some authority) segments => "//" ++ authority ++ pathText segments
    | .path none segments =>
      (if url.scheme = "file" then "//" else if 1 < segments.length ∧ segments.head? = some "" then "/." else "")
        ++ pathText segments
  url.scheme ++ ":" ++ body ++ (url.query.map ("?" ++ ·)).getD "" ++ (url.fragment.map ("#" ++ ·)).getD ""

/-! ### Reading -/

/-- The schemes whose URLs always have a path, with their default ports. -/
def defaultPorts : List (String × Option Nat) :=
  [("http", some 80), ("https", some 443), ("ws", some 80), ("wss", some 443), ("ftp", some 21), ("file", none)]

/-- Whether URLs of a scheme always have a path. -/
def isSpecial (scheme : String) : Bool := (defaultPorts.lookup scheme).isSome

/-- Whether a character separates the segments of a path. -/
def isSlash (special : Bool) (c : Char) : Bool := c = '/' || (special && c = '\\')

/-! ### Hosts -/

/-- Characters that no host holds. In a domain name the percent sign and controls are among them. -/
def isForbiddenInHost (special : Bool) (c : Char) : Bool :=
  c = '\x00' || " /\\#:<>?@[]^|".toList.contains c || (special && (c.toNat < 32 || c = '%' || c = '\x7f'))

/-- The normal form of a host: an address in brackets, or else, for the common schemes, a domain name or an
address of four octets. -/
def hostText (special : Bool) (host : List Char) : Option String :=
  match host with
  | '[' :: rest =>
    if rest.getLast? = some ']' then
      (longAddress? rest.dropLast).map fun groups => "[" ++ longAddressText groups ++ "]"
    else none
  | host =>
    let name := if special then domainName (Encoding.decodeUtf8 (percentDecode host)) else host
    if (special && name.isEmpty) || name.any (isForbiddenInHost special) then none
    else if special && endsInNumber name then (address? name).map addressText
    else some (String.ofList (percentEncode isControlOrBeyond name))

/-- The host of an authority without credentials, and what follows its colon. A colon in brackets belongs
to the host. -/
def splitHost (inBrackets : Bool) : List Char → List Char × Option (List Char)
  | [] => ([], none)
  | c :: rest =>
    if c = ':' && !inBrackets then ([], some rest)
    else
      let (host, port) := splitHost (if c = '[' then true else if c = ']' then false else inBrackets) rest
      (c :: host, port)

/-- The text of a port, which is left out if it is the default one of the scheme. -/
def portText (scheme : String) (port : Option (List Char)) : Option String :=
  match port with
  | none => some ""
  | some [] => some ""
  | some digits => do
    let n ← Text.numberOf? 10 digits
    guard (n < 65536)
    return if (defaultPorts.lookup scheme).join = some n then "" else ":" ++ toString n

/-- The text of credentials: the name of a user and after the first colon a password, unless that is
empty. -/
def credentialsText (text : List Char) : String :=
  let user := percentEncode escapedInUser (text.takeWhile (· ≠ ':'))
  let password := percentEncode escapedInUser ((text.dropWhile (· ≠ ':')).drop 1)
  let all := if password.isEmpty then user else user ++ ':' :: password
  String.ofList (if all.isEmpty then [] else all ++ ['@'])

/-- The authority of a URL: its host, after credentials and before a port if it has them. A backslash ends
a port in every scheme; what begins with it belongs to the path. -/
def authorityOf? (scheme : String) (text : List Char) : Option (String × List Char) := do
  let (credentials, rest) := (Text.splitAtLast '@' text).getD ([], text)
  let (host, port) := splitHost false rest
  guard (!(host.isEmpty && port.isSome))
  let digits := port.map (List.takeWhile (· ≠ '\\'))
  return (credentialsText credentials ++ (← hostText (isSpecial scheme) host) ++ (← portText scheme digits),
    (port.getD []).dropWhile (· ≠ '\\'))

/-! ### Paths -/

/-- Whether a segment stands for the place where it is. -/
def isSingleDot (segment : List Char) : Bool :=
  [".", "%2e"].contains (String.ofList (segment.map Char.toLower))

/-- Whether a segment stands for the place above. -/
def isDoubleDot (segment : List Char) : Bool :=
  ["..", ".%2e", "%2e.", "%2e%2e"].contains (String.ofList (segment.map Char.toLower))

/-- Whether a text is a letter with a colon or a bar, which is how a drive is written. -/
def isDrive : List Char → Bool
  | [letter, mark] => letter.isAlpha && (mark = ':' || mark = '|')
  | _ => false

/-- Whether a segment is a drive, or begins with one before a backslash. -/
def beginsWithDrive (segment : List Char) : Bool :=
  isDrive (segment.take 2) && (segment.drop 2).head?.all (· = '\\')

/-- Tabs and line ends, which do not count in a URL. -/
def isBreak (c : Char) : Bool := c = '\t' || c = '\n' || c = '\r'

/-- A text without tabs and line ends. -/
def unbroken (text : List Char) : List Char := text.filter (!isBreak ·)

/-- The drive at the beginning of a segment and what a tab or line end parts from it. -/
def splitDrive? (segment : List Char) : Option (List Char × List Char) :=
  match segment.dropWhile isBreak with
  | letter :: rest =>
    match rest.dropWhile isBreak with
    | ':' :: rest =>
      if letter.isAlpha && rest.head?.any isBreak && !(unbroken rest).isEmpty then
        some ([letter, ':'], unbroken rest)
      else none
    | _ => none
  | [] => none

/-- A path being read: the segments so far backwards, and whether a drive has begun it. -/
structure PathState where
  before : List (List Char) := []
  drive : Bool := false

/-- One more segment of a path, in which more segments follow if `more` is true. The place above a drive is
the drive itself. In a `file` URL a drive at the beginning is written with a colon, and what a tab or line
end parts from it is a segment of its own, whatever it is. -/
def PathState.add (isFile more : Bool) (s : PathState) (segment : List Char) : PathState :=
  let atEnd := fun before : List (List Char) => if more then before else [] :: before
  let first := isFile && s.before.isEmpty
  match if first then splitDrive? segment else none with
  | some (drive, rest) => { s with before := [percentEncode escapedInPath rest, drive] }
  | none =>
    let segment := percentEncode escapedInPath (unbroken segment)
    if isDoubleDot segment then
      { s with before := atEnd (if s.before.head?.any beginsWithDrive then s.before else s.before.tail) }
    else if isSingleDot segment then { s with before := atEnd s.before }
    else if first && isDrive segment then ⟨[[segment.headD ':', ':']], true⟩
    else { s with before := segment :: s.before }

/-- Read the segments of a path. -/
def PathState.addAll (isFile : Bool) (s : PathState) : List (List Char) → PathState
  | [] => s
  | segment :: rest => addAll isFile (s.add isFile (!rest.isEmpty) segment) rest

/-- The path that begins in a text after its first slash, and whether a drive begins it. Empty segments at
the beginning of the path of a file do not count. -/
def pathOf (scheme : String) (text : List Char) : List String × Bool :=
  let isFile := scheme = "file"
  let s := PathState.addAll isFile {} (Text.splitAtEvery (isSlash (isSpecial scheme)) text)
  let segments := s.before.reverse
  let segments := if isFile then segments.dropWhile List.isEmpty else segments
  (if segments.isEmpty then [""] else segments.map String.ofList, s.drive)

/-- The path in a text that begins with a slash or is empty. -/
def rootedPath (scheme : String) (text : List Char) : List String × Bool :=
  match text with
  | [] => if isSpecial scheme then ([""], false) else ([], false)
  | _ :: rest => pathOf scheme rest

/-- What follows two slashes in the URL of a file. A drive is no host, and a path that begins with a drive
needs none; neither does one of this machine, whose path begins with an empty segment, so that a drive does
not count as its beginning. -/
def fileBodyOf (text : List Char) : Option UrlBody := do
  let (host, rest) := Text.splitBefore (isSlash true) text
  let host := unbroken host
  if isDrive host then some (.path none (pathOf "file" text).1)
  else
    let host ← if host.isEmpty then some "" else hostText true host
    if host = "" || host = "localhost" then some (.path none (pathOf "file" rest).1)
    else
      let (segments, drive) := rootedPath "file" rest
      some (.path (if drive then none else some host) segments)

/-- What follows the scheme of a file, without query and fragment. -/
def afterFile (text : List Char) : Option UrlBody :=
  let opened := text.dropWhile isBreak
  if opened.head?.any (isSlash true) then
    let next := (opened.drop 1).dropWhile isBreak
    if next.head?.any (isSlash true) then fileBodyOf (next.drop 1)
    else some (.path none (pathOf "file" next).1)
  else some (.path none (pathOf "file" text).1)

/-- What follows the scheme, without query and fragment. Tabs and line ends make a difference only in the
path of a file. -/
def bodyOf (scheme : String) (text : List Char) : Option UrlBody :=
  let special := isSpecial scheme
  let withAuthority (text : List Char) : Option UrlBody := do
    let (authority, rest) := Text.splitBefore (isSlash special) text
    let (authority, more) ← authorityOf? scheme authority
    return .path (some authority) (if more.isEmpty then rootedPath scheme rest else pathOf scheme (more ++ rest)).1
  if scheme = "file" then afterFile text
  else if special then withAuthority ((unbroken text).dropWhile (isSlash true))
  else
    match unbroken text with
    | '/' :: '/' :: rest => withAuthority rest
    | '/' :: rest => some (.path none (pathOf scheme rest).1)
    | text => some (.opaqueText (String.ofList (percentEncode isControlOrBeyond text)))

/-! ### Whole URLs -/

/-- Split a text at the first occurrence of a character, if there is one. -/
def cutAt (c : Char) (text : List Char) : List Char × Option (List Char) :=
  match Text.splitAtFirst c text with
  | some (before, after) => (before, some after)
  | none => (text, none)

/-- Whether a text can be a scheme. -/
def isScheme : List Char → Bool
  | [] => false
  | c :: rest => c.isAlpha && rest.all fun c => c.isAlphanum || c = '+' || c = '-' || c = '.'

/-- Read a URL. Controls and spaces around it, and tabs and line ends in it, do not count. -/
def parse? (text : String) : Option Url := do
  let (scheme, rest) ← Text.splitAtFirst ':' (Text.trim (fun c => c.toNat ≤ 32) text.toList)
  let scheme := unbroken scheme
  guard (isScheme scheme)
  let scheme := String.ofList (scheme.map Char.toLower)
  let (rest, fragment) := cutAt '#' rest
  let (rest, query) := cutAt '?' rest
  return {
    scheme
    body := ← bodyOf scheme rest
    query := query.map fun q => String.ofList (percentEncode (escapedInQuery (isSpecial scheme)) (unbroken q))
    fragment := fragment.map fun f => String.ofList (percentEncode escapedInFragment (unbroken f)) }

/-! ### Files and names -/

/-- The location of a file, given the names of the directories that it is in and its own. -/
def ofFile (names : List String) : Url where
  scheme := "file"
  body := .path none (names.map fun name => String.ofList (percentEncode escapedInSegment name.toList))
  query := none
  fragment := none

/-- The names that lead to the file that a URL means, if it means a local one. -/
def fileNames? (url : Url) : Option (List String) :=
  match url.body with
  | .path none segments =>
    some (segments.map fun s => String.ofList (Encoding.decodeUtf8 (percentDecode s.toList)))
  | _ => none

/-- The name of a document for messages: the last segment of its path, or the whole URL if that is
empty. -/
def documentName (url : Url) : String :=
  match url.body with
  | .opaqueText _ => url.display
  | .path _ segments =>
    match segments.getLast? with
    | some name => if name = "" then url.display else name
    | none => url.display

end Url

end XmlDiagnostics
