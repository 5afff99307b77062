import XmlDiagnostics.Position
import XmlDiagnostics.QName
import XmlDiagnostics.StringSet

/-! # Validation errors

What a validator reports: a kind of failure, its message, a coarse position, and the names that it
could tell. -/

namespace XmlDiagnostics

/-- The kinds of validation failures, in their order. -/
inductive ErrorKind where
  | unexpectedElement
  | unexpectedAttribute
  | duplicateElement
  | duplicateAttribute
  | requiredAttributeMissing
  | requiredElementMissing
  | invalidAttributeValue
  | unknownError
deriving DecidableEq, Repr

namespace ErrorKind

/-- All kinds in order. -/
def all : List ErrorKind :=
  [unexpectedElement, unexpectedAttribute, duplicateElement, duplicateAttribute,
    requiredAttributeMissing, requiredElementMissing, invalidAttributeValue, unknownError]

/-- The words of a kind's name. -/
def words : ErrorKind → List String
  | unexpectedElement => ["unexpected", "element"]
  | unexpectedAttribute => ["unexpected", "attribute"]
  | duplicateElement => ["duplicate", "element"]
  | duplicateAttribute => ["duplicate", "attribute"]
  | requiredAttributeMissing => ["required", "attribute", "missing"]
  | requiredElementMissing => ["required", "element", "missing"]
  | invalidAttributeValue => ["invalid", "attribute", "value"]
  | unknownError => ["unknown", "error"]

/-- The name that serialized data uses: the words capitalised and run together. -/
def identifier (kind : ErrorKind) : String := String.join (kind.words.map String.capitalize)

/-- The name for display: the words in capitals joined by underscores. -/
def display (kind : ErrorKind) : String := "_".intercalate (kind.words.map String.toUpper)

/-- The kind with an identifier. -/
def ofIdentifier? (name : String) : Option ErrorKind := all.find? fun kind => kind.identifier = name

end ErrorKind

/-- One failure reported by a validator. -/
structure ValidationError where
  kind : ErrorKind
  message : String
  position : Position
  element : Option QName := none
  attributeName : Option QName := none
  attributeValue : Option String := none
  alternatives : StringSet := ∅
  fallbackMessage : Option String := none
deriving DecidableEq

namespace ValidationError

/-- The fallback message if there is one, else the validator's own. -/
def displayMessage (error : ValidationError) : String := error.fallbackMessage.getD error.message

/-- The written form gives kind, message and position. -/
def display (error : ValidationError) : String :=
  "[" ++ error.kind.display ++ "] " ++ error.message ++ " (" ++ error.position.display ++ ")"

end ValidationError

end XmlDiagnostics
