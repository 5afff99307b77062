/-! # Messages

A message is a key with arguments. A catalog turns it into text: it looks up the template of the key
and puts the arguments, one after the other, in place of their numbered placeholders. -/

namespace XmlDiagnostics

/-- The kinds of messages. -/
inductive MessageKey where
  | attributeDuplicated
  | attributeIsAllowedOn
  | attributeNotAllowed
  | attributesAllowedHere
  | attributeInvalidValue
  | attributeRequiredMissing
  | attributeRequiredMissingList
  | didYouMean
  | elementDuplicated
  | elementDuplicatedFirstOccurrence
  | elementHasNoAttributes
  | elementWithAttributeDuplicated
  | elementWithAttributeDuplicatedFirstOccurrence
  | elementIsAllowedOn
  | elementNotAllowed
  | elementRequiredMissing
  | elementsAllowedHere
  | malformedXml
  | reportedError
  | passthru
  | printFailure
  | validationErrorIn
deriving DecidableEq, Repr

namespace MessageKey

/-- All keys. -/
def all : List MessageKey :=
  [attributeDuplicated, attributeIsAllowedOn, attributeNotAllowed, attributesAllowedHere,
    attributeInvalidValue, attributeRequiredMissing, attributeRequiredMissingList, didYouMean,
    elementDuplicated, elementDuplicatedFirstOccurrence, elementHasNoAttributes,
    elementWithAttributeDuplicated, elementWithAttributeDuplicatedFirstOccurrence,
    elementIsAllowedOn, elementNotAllowed, elementRequiredMissing, elementsAllowedHere,
    malformedXml, reportedError, passthru, printFailure, validationErrorIn]

/-- The words of a key's name. -/
def words : MessageKey → List String
  | attributeDuplicated => ["attribute", "duplicated"]
  | attributeIsAllowedOn => ["attribute", "is", "allowed", "on"]
  | attributeNotAllowed => ["attribute", "not", "allowed"]
  | attributesAllowedHere => ["attributes", "allowed", "here"]
  | attributeInvalidValue => ["attribute", "invalid", "value"]
  | attributeRequiredMissing => ["attribute", "required", "missing"]
  | attributeRequiredMissingList => ["attribute", "required", "missing", "list"]
  | didYouMean => ["did", "you", "mean"]
  | elementDuplicated => ["element", "duplicated"]
  | elementDuplicatedFirstOccurrence => ["element", "duplicated", "first", "occurrence"]
  | elementHasNoAttributes => ["element", "has", "no", "attributes"]
  | elementWithAttributeDuplicated => ["element", "with", "attribute", "duplicated"]
  | elementWithAttributeDuplicatedFirstOccurrence =>
    ["element", "with", "attribute", "duplicated", "first", "occurrence"]
  | elementIsAllowedOn => ["element", "is", "allowed", "on"]
  | elementNotAllowed => ["element", "not", "allowed"]
  | elementRequiredMissing => ["element", "required", "missing"]
  | elementsAllowedHere => ["elements", "allowed", "here"]
  | malformedXml => ["malformed", "xml"]
  | reportedError => ["original", "error"]
  | passthru => ["passthru"]
  | printFailure => ["print", "failure"]
  | validationErrorIn => ["validation", "error", "in"]

/-- The name that serialized data uses: the words joined by underscores. -/
def identifier (key : MessageKey) : String := "_".intercalate key.words

/-- The name for display: the words capitalised and run together. -/
def display (key : MessageKey) : String := String.join (key.words.map String.capitalize)

/-- The key with an identifier. -/
def ofIdentifier? (name : String) : Option MessageKey := all.find? fun key => key.identifier = name

/-- The English template. -/
def template : MessageKey → String
  | attributeDuplicated => "'{0}' is defined more than once on this element"
  | attributeIsAllowedOn => "'{0}' is allowed on elements: {1}"
  | attributeNotAllowed => "'{0}' isn't an allowed attribute for the '{1}' element"
  | attributesAllowedHere => "attributes allowed here are: {0}"
  | attributeInvalidValue => "'{0}' isn't an allowed value for the '{1}' attribute"
  | attributeRequiredMissing => "'{0}' is missing the required attribute '{1}'"
  | attributeRequiredMissingList => "'{0}' is missing one or more required attributes: {1}"
  | didYouMean => "did you mean '{0}'?"
  | elementDuplicated => "'{0}' can't appear more than once within the '{1}' element"
  | elementDuplicatedFirstOccurrence => "first occurrence of '{0}' is here"
  | elementHasNoAttributes => "'{0}' has no attributes"
  | elementWithAttributeDuplicated => "there is already a '{0}' with '{1}' set to '{2}'"
  | elementWithAttributeDuplicatedFirstOccurrence =>
    "'{0}' with '{1}' set to '{2}' first occurs here"
  | elementIsAllowedOn => "'{0}' is allowed on: {1}"
  | elementNotAllowed => "'{0}' isn't an allowed element here"
  | elementRequiredMissing => "'{0}' is missing one of the required child elements: {1}"
  | elementsAllowedHere => "elements allowed here are: {0}"
  | malformedXml => "'{0}' may be malformed; the XML parser reports:"
  | reportedError => "original error: {0}"
  | passthru => "{0}"
  | printFailure => "failed to print a diagnostic: {0}"
  | validationErrorIn => "validation error in {0}"

end MessageKey

namespace Text

/-- Skip `skip` characters, then put `new` in place of every occurrence of `old`, from the left and
without overlap. -/
def replaceFrom (old new : List Char) : Nat → List Char → List Char
  | _, [] => []
  | skip + 1, _ :: rest => replaceFrom old new skip rest
  | 0, c :: rest =>
    if old.isPrefixOf (c :: rest) then new ++ replaceFrom old new (old.length - 1) rest
    else c :: replaceFrom old new 0 rest

/-- Put `new` in place of every occurrence of `old`, from the left and without overlap. -/
def replaceAll (old new text : List Char) : List Char := replaceFrom old new 0 text

end Text

/-- Templates that take the place of the English ones, the latest first. -/
structure MessageCatalog where
  overrides : List (MessageKey × String) := []
deriving Repr

namespace MessageCatalog

/-- The catalog of the English templates. -/
def english : MessageCatalog := {}

/-- The catalog with another template for one key. -/
def withTemplate (catalog : MessageCatalog) (key : MessageKey) (template : String) : MessageCatalog :=
  ⟨(key, template) :: catalog.overrides⟩

/-- The template of a key. -/
def lookup (catalog : MessageCatalog) (key : MessageKey) : String :=
  (catalog.overrides.lookup key).getD key.template

/-- The placeholder of the argument with number `n`. -/
def placeholder (n : Nat) : List Char := '\x7b' :: (toString n).toList ++ ['\x7d']

/-- Put the arguments, numbered from `n`, one after the other in place of their placeholders. -/
def fill : Nat → List String → List Char → List Char
  | _, [], text => text
  | n, arg :: args, text => fill (n + 1) args (Text.replaceAll (placeholder n) arg.toList text)

/-- The text of a key with arguments; a placeholder without argument stays. -/
def format (catalog : MessageCatalog) (key : MessageKey) (args : List String) : String :=
  String.ofList (fill 0 args (catalog.lookup key).toList)

end MessageCatalog

/-- A key with its arguments. -/
structure Message where
  key : MessageKey
  args : List String
deriving DecidableEq, Repr

/-- The text of a message. -/
def Message.render (catalog : MessageCatalog) (message : Message) : String :=
  catalog.format message.key message.args

end XmlDiagnostics
