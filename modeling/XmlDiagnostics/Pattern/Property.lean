import XmlDiagnostics.Pattern.AgeTable
import XmlDiagnostics.Pattern.BreakTable
import XmlDiagnostics.Pattern.CategoryTable
import XmlDiagnostics.Pattern.CharTable
import XmlDiagnostics.Pattern.PropertyTable
import XmlDiagnostics.Pattern.ScriptTable

/-! # Properties of characters

The sets that a pattern can name by a property: the characters of a category or a script, those that have a
property, and those for which a property has a value. Names may be written with capitals, blanks, hyphens
and underscores, and with `is` in front. -/

namespace XmlDiagnostics.CharSet

open CharTable

/-! ### Names -/

/-- A name as the tables have it: small letters, without what does not count. -/
def plainName (name : List Char) : String :=
  let hasIs := (name.take 2).map Char.toLower = ['i', 's']
  let rest := if hasIs then name.drop 2 else name
  let kept := (rest.filter fun c => c.toNat < 128 && c ≠ ' ' && c ≠ '_' && c ≠ '-').map Char.toLower
  if hasIs && kept = ['c'] then "isc" else String.ofList kept

/-- The first of some entries one of whose names, separated by blanks, is a given one. -/
def named? {α : Type} (name : String) (entries : List (String × α)) : Option α :=
  (entries.find? fun (names, _) => (Text.splitAtEvery (· = ' ') names.toList).contains name.toList).map Prod.snd

/-! ### Categories -/

/-- The characters of some categories. -/
def categories (codes : List String) : CharSet := inClasses categoryRows codes

/-- The names of categories with the codes of the categories that they stand for. Half of a pair is no
character, so that there is no category of halves. -/
def categoryNames : List (String × List String) := [
  ("lu uppercaseletter", ["Lu"]), ("ll lowercaseletter", ["Ll"]), ("lt titlecaseletter", ["Lt"]),
  ("lm modifierletter", ["Lm"]), ("lo otherletter", ["Lo"]), ("lc casedletter", ["Lu", "Ll", "Lt"]),
  ("l letter", ["Lu", "Ll", "Lt", "Lm", "Lo"]), ("mn nonspacingmark", ["Mn"]), ("mc spacingmark", ["Mc"]),
  ("me enclosingmark", ["Me"]), ("m mark combiningmark", ["Mn", "Mc", "Me"]), ("nd decimalnumber digit", ["Nd"]),
  ("nl letternumber", ["Nl"]), ("no othernumber", ["No"]), ("n number", ["Nd", "Nl", "No"]),
  ("pc connectorpunctuation", ["Pc"]), ("pd dashpunctuation", ["Pd"]), ("ps openpunctuation", ["Ps"]),
  ("pe closepunctuation", ["Pe"]), ("pi initialpunctuation", ["Pi"]), ("pf finalpunctuation", ["Pf"]),
  ("po otherpunctuation", ["Po"]), ("p punctuation punct", ["Pc", "Pd", "Ps", "Pe", "Pi", "Pf", "Po"]),
  ("sm mathsymbol", ["Sm"]), ("sc currencysymbol", ["Sc"]), ("sk modifiersymbol", ["Sk"]),
  ("so othersymbol", ["So"]), ("s symbol", ["Sm", "Sc", "Sk", "So"]), ("zs spaceseparator", ["Zs"]),
  ("zl lineseparator", ["Zl"]), ("zp paragraphseparator", ["Zp"]), ("z separator", ["Zs", "Zl", "Zp"]),
  ("cc control cntrl", ["Cc"]), ("cf format", ["Cf"]), ("co privateuse", ["Co"]), ("cn unassigned", ["Cn"]),
  ("c other", ["Cc", "Cf", "Co", "Cn"])]

/-- The characters that are in use. -/
def assigned : CharSet := complement (categories ["Cn"])

/-- The set that the name of a category stands for. -/
def category? (name : String) : Option CharSet :=
  match name with
  | "any" => some (complement none)
  | "assigned" => some assigned
  | "ascii" => some (range '\x00' '\x7f')
  | name => (named? name categoryNames).map categories

/-! ### Scripts -/

/-- The code of the script that has a name. -/
def scriptCode? (name : String) : Option String := do
  if name = "qaai" then return "Zinh"
  if name = "qaac" then return "Copt"
  let word ← (wordsOf scriptNames).find? fun word =>
    let (code, full) := (word.takeWhile (· ≠ ':'), (word.dropWhile (· ≠ ':')).drop 1)
    name.toList = code.map Char.toLower || name.toList = full
  return String.ofList (word.takeWhile (· ≠ ':'))

/-- The characters of a script. -/
def script (code : String) : CharSet := inter assigned (inClasses scriptRows [code])

/-- The characters that are used in other scripts than their own, each range with the codes of all. -/
def sharedChars : List (List (Nat × Nat) × List (List Char)) :=
  (wordsOf sharedRows).map fun word =>
    (rangesOfWord (word.takeWhile (· ≠ ':')), Text.splitAtEvery (· = ',') ((word.dropWhile (· ≠ ':')).drop 1))

/-- The characters that are used in a script. -/
def usedInScript (code : String) : CharSet :=
  let shared := sharedChars
  union (difference (script code) (listed (shared.flatMap Prod.fst)))
    (listed ((shared.filter fun (_, codes) => codes.contains code.toList).flatMap Prod.fst))

/-! ### Properties that a character has or has not -/

/-- The characters with a property that the tables list. -/
def listedProperty (name : String) : CharSet := listed (((named? name propertyRows).map rangesOf).getD [])

/-- Small letters. -/
def lowercase : CharSet := union (categories ["Ll"]) (listedProperty "otherlowercase")

/-- Capital letters. -/
def uppercase : CharSet := union (categories ["Lu"]) (listedProperty "otheruppercase")

/-- Letters, and marks and numbers that are used like letters. -/
def alphabetic : CharSet :=
  unions [lowercase, uppercase, categories ["Lt", "Lm", "Lo", "Nl"], listedProperty "otheralphabetic"]

/-- Marks that belong to the character before them. -/
def graphemeExtend : CharSet := union (categories ["Mn", "Me"]) (listedProperty "othergraphemeextend")

/-- Characters that a notation may use for its own purposes, which no identifier has. -/
def patternChars : CharSet := union (listedProperty "patternsyntax") (listedProperty "patternwhitespace")

/-- Characters that an identifier may begin with. -/
def identifierStart : CharSet :=
  difference (union (categories ["Lu", "Ll", "Lt", "Lm", "Lo", "Nl"]) (listedProperty "otheridstart")) patternChars

/-- Characters of identifiers. -/
def identifierContinue : CharSet :=
  difference
    (unions [identifierStart, categories ["Mn", "Mc", "Nd", "Pc"], listedProperty "otheridcontinue"]) patternChars

/-- Characters that are left out of identifiers because they do not keep their place there. -/
def unstableInIdentifiers : CharSet :=
  listed [(0x37a, 0x37a), (0x309b, 0x309c), (0xfc5e, 0xfc63), (0xfdfa, 0xfdfb), (0xfe70, 0xfe70), (0xfe72, 0xfe72),
    (0xfe74, 0xfe74), (0xfe76, 0xfe76), (0xfe78, 0xfe78), (0xfe7a, 0xfe7a), (0xfe7c, 0xfe7c), (0xfe7e, 0xfe7e)]

/-- Characters inside of words that are neither letters nor marks. -/
def innerPunctuation : CharSet :=
  ofList ['\'', '.', ':', '\u00b7', '\u0387', '\u055f', '\u05f4', '\u2018', '\u2019', '\u2024', '\u2027', '\ufe13',
    '\ufe52', '\ufe55', '\uff07', '\uff0e', '\uff1a']

/-- Characters that are not seen when they cannot be shown. -/
def defaultIgnorable : CharSet :=
  difference
    (unions [listedProperty "otherdefaultignorablecodepoint", categories ["Cf"], listedProperty "variationselector"])
    (unions [listedProperty "whitespace", listed [(0xfff9, 0xfffb), (0x13430, 0x1343f)],
      listedProperty "prependedconcatenationmark"])

/-- Whether a name is one of some that are separated by blanks. -/
def isOneOf (name names : String) : Bool := (Text.splitAtEvery (· = ' ') names.toList).contains name.toList

/-- The characters with a property that follows from others. -/
def derivedProperty? (name : String) : Option CharSet :=
  if isOneOf name "lowercase lower" then some lowercase
  else if isOneOf name "uppercase upper" then some uppercase
  else if isOneOf name "alphabetic alpha" then some alphabetic
  else if isOneOf name "cased" then some (unions [lowercase, uppercase, categories ["Lt"]])
  else if isOneOf name "caseignorable ci" then
    some (union (categories ["Mn", "Me", "Cf", "Lm", "Sk"]) innerPunctuation)
  else if isOneOf name "changeswhencasemapped cwcm" then
    some (unions [listedProperty "changeswhenlowercased", listedProperty "changeswhenuppercased",
      listedProperty "changeswhentitlecased"])
  else if isOneOf name "math" then some (union (categories ["Sm"]) (listedProperty "othermath"))
  else if isOneOf name "graphemeextend grext" then some graphemeExtend
  else if isOneOf name "graphemebase grbase" then
    some (difference (complement (categories ["Cc", "Cf", "Co", "Cn", "Zl", "Zp"])) graphemeExtend)
  else if isOneOf name "idstart ids" then some identifierStart
  else if isOneOf name "idcontinue idc" then some identifierContinue
  else if isOneOf name "xidstart xids" then
    some (difference identifierStart
      (union unstableInIdentifiers (listed [(0xe33, 0xe33), (0xeb3, 0xeb3), (0xff9e, 0xff9f)])))
  else if isOneOf name "xidcontinue xidc" then some (difference identifierContinue unstableInIdentifiers)
  else if isOneOf name "defaultignorablecodepoint di" then some defaultIgnorable
  else Option.none

/-- The characters with a property. -/
def property? (name : String) : Option CharSet :=
  (derivedProperty? name).or ((named? name propertyRows).map fun rows => listed (rangesOf rows))

/-! ### Properties with values -/

/-- The versions of Unicode from the first one on. -/
def versions : List String :=
  ["1.1", "2.0", "2.1", "3.0", "3.1", "3.2", "4.0", "4.1", "5.0", "5.1", "5.2", "6.0", "6.1", "6.2", "6.3", "7.0",
    "8.0", "9.0", "10.0", "11.0", "12.0", "12.1", "13.0", "14.0", "15.0", "15.1", "16.0"]

/-- The characters of a version of Unicode and of those before it. -/
def age? (name : String) : Option CharSet := do
  let i ← versions.findIdx? fun version =>
    name = version || name.toList = 'v' :: version.toList.filter (· ≠ '.')
  return inter (union assigned (listedProperty "noncharactercodepoint"))
    (inClasses ageRows ((versions.take (i + 1)).map ("V" ++ ·)))

/-- The syllables of Hangul, with a final consonant or without one. -/
def hangulSyllables (final : Bool) : CharSet :=
  if final then difference (range '\uac00' '\ud7a3') (hangulOpen) else hangulOpen
where
  /-- The syllables that end in a vowel. -/
  hangulOpen : CharSet := listed ((List.range 399).map fun i => (0xac00 + 28 * i, 0xac00 + 28 * i))

/-- The characters that extend the one before them when a text is divided into words. -/
def wordExtend : CharSet := unions [graphemeExtend, categories ["Mc"], listedProperty "emojimodifier"]

/-- The classes of characters for the division of a text into clusters. -/
def clusterClass? (name : String) : Option CharSet :=
  let extending := union graphemeExtend (listedProperty "emojimodifier")
  let codes : List (String × String) := [("cr", "CR"), ("lf", "LF"), ("cn control", "CN"), ("l", "L"), ("v", "V"),
    ("t", "T"), ("pp prepend", "PP"), ("ri regionalindicator", "RI"), ("sm spacingmark", "SM"), ("zwj", "ZWJ")]
  if isOneOf name "ex extend" then some extending
  else if name = "lv" then some (hangulSyllables false)
  else if name = "lvt" then some (hangulSyllables true)
  else (named? name codes).map fun code => difference (inClasses clusterRows [code]) extending

/-- The classes of characters for the division of a text into words. -/
def wordClass? (name : String) : Option CharSet :=
  let codes : List (String × String) := [("cr", "CR"), ("lf", "LF"), ("nl newline", "NL"), ("fo format", "FO"),
    ("ka katakana", "KA"), ("hl hebrewletter", "HL"), ("le aletter", "LE"), ("sq singlequote", "SQ"),
    ("dq doublequote", "DQ"), ("mb midnumlet", "MB"), ("ml midletter", "ML"), ("mn midnum", "MN"),
    ("nu numeric", "NU"), ("ex extendnumlet", "EX"), ("ri regionalindicator", "RI"), ("zwj", "ZWJ"),
    ("wsegspace", "WS")]
  if name = "extend" then some wordExtend
  else (named? name codes).map fun code => difference (inter assigned (inClasses wordRows [code])) wordExtend

/-- The classes of characters for the division of a text into sentences. -/
def sentenceClass? (name : String) : Option CharSet :=
  let extending := unions [graphemeExtend, categories ["Mc"], single '\u200d']
  let codes : List (String × String) := [("cr", "CR"), ("lf", "LF"), ("se sep", "SE"), ("fo format", "FO"),
    ("sp", "SP"), ("lo lower", "LO"), ("up upper", "UP"), ("le oletter", "LE"), ("nu numeric", "NU"),
    ("at aterm", "AT"), ("sc scontinue", "SC"), ("st sterm", "ST"), ("cl close", "CL")]
  if isOneOf name "ex extend" then some extending
  else (named? name codes).map fun code => difference (inter assigned (inClasses sentenceRows [code])) extending

/-! ### Sets by name -/

/-- The set that a name alone stands for: a property, or else a category, or else a script. Three short names
of properties mean categories. -/
def ofName? (name : List Char) : Option CharSet :=
  let name := plainName name
  let found := if isOneOf name "cf sc lc" then Option.none else property? name
  (found.or (category? name)).or ((scriptCode? name).map script)

/-- The set of the characters for which a property has a value. -/
def ofNameAndValue? (name value : List Char) : Option CharSet :=
  let value := plainName value
  let properties : List (String × (String → Option CharSet)) := [
    ("gc generalcategory", category?), ("sc script", fun value => (scriptCode? value).map script),
    ("scx scriptextensions", fun value => (scriptCode? value).map usedInScript), ("age", age?),
    ("gcb graphemeclusterbreak", clusterClass?), ("wb wordbreak", wordClass?), ("sb sentencebreak", sentenceClass?)]
  (named? (plainName name) properties).bind fun valued => valued value

end XmlDiagnostics.CharSet
