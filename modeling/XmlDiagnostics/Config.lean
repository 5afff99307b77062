import XmlDiagnostics.Error
import XmlDiagnostics.Text.Blank

/-! # Configuration

How encodings are detected, which schemas are used, and how many suggestions are made. Every setting
has a default. -/

namespace XmlDiagnostics

/-- How the encoding of a resource is found. -/
structure EncodingConfig where
  /-- look for a byte-order mark -/
  detectBom : Bool := true
  /-- look for an encoding in the XML declaration -/
  detectDeclaration : Bool := true
  /-- the label used when nothing is found -/
  fallback : String := "UTF-8"
deriving DecidableEq, Repr, Inhabited

/-- Which schemas are used. -/
structure SchemaConfig where
  /-- keep only schemas whose target namespace the document declares -/
  filterByNamespace : Bool := true
  /-- the file name extension of schemas in a directory -/
  extension : String := "xsd"
deriving DecidableEq, Repr, Inhabited

/-- How suggestions are made. -/
structure SuggestionConfig where
  /-- the largest edit distance of a suggestion -/
  maxEditDistance : Nat := 2
  /-- the most alternatives listed in one message -/
  maxAlternatives : Nat := 10
deriving DecidableEq, Repr, Inhabited

/-- All settings. -/
structure Config where
  encoding : EncodingConfig := {}
  schema : SchemaConfig := {}
  suggestions : SuggestionConfig := {}
deriving DecidableEq, Repr, Inhabited

namespace Config

/-- Whether a text has no character but white space. -/
def isVoid (text : String) : Bool := text.toList.all Text.isBlank

/-- The first setting that cannot be used makes the configuration an error. -/
def validate (config : Config) : Except Error Config :=
  if isVoid config.schema.extension then .error (.config "schema.extension must not be empty")
  else if isVoid config.encoding.fallback then .error (.config "encoding.fallback must not be empty")
  else .ok config

end Config

end XmlDiagnostics
