import XmlDiagnostics.Config
import XmlDiagnostics.Data.Basic
import XmlDiagnostics.Diagnosis
import XmlDiagnostics.Element
import XmlDiagnostics.ValidationError

/-! # Serialized forms

For every type that is exchanged, `toData` writes a value and `ofData?` reads it back. A reader
ignores fields that it does not know, asks for every field that is neither optional nor a setting
with a default, and refuses a value of another shape. -/

namespace XmlDiagnostics

open Data

/-! ### Positions and names -/

/-- The data of a position. -/
def Position.toData (p : Position) : Data := object [("line", int p.line), ("column", int p.column)]

/-- A line or column of a position: an integer of 32 bits. -/
def Position.coordinate? (d : Data) : Option Int32 := (d.asIntIn? (-2147483648) 2147483647).map Int32.ofInt

/-- Read a position. -/
def Position.ofData? (d : Data) : Option Position := do
  return ⟨← d.required? "line" coordinate?, ← d.required? "column" coordinate?⟩

/-- The data of a name. -/
def QName.toData (name : QName) : Data :=
  object [("namespace", string name.namespaceUri), ("local", string name.localName)]

/-- Read a name. -/
def QName.ofData? (d : Data) : Option QName := do
  return ⟨← d.required? "namespace" asString?, ← d.required? "local" asString?⟩

/-! ### Elements -/

/-- The data of a set of strings. -/
def StringSet.toData (set : StringSet) : Data := ofStrings set.toList

/-- Read a set of strings from a list. -/
def StringSet.ofData? (d : Data) : Option StringSet := d.asStrings?.map StringSet.ofList

/-- The data of attributes. -/
def Attributes.toData (attributes : Attributes) : Data :=
  object (attributes.toList.map fun (key, value) => (key, string value))

/-- A field that holds a string. -/
def stringField? (field : String × Data) : Option (String × String) :=
  field.2.asString?.map (field.1, ·)

/-- Read attributes from an object of strings. -/
def Attributes.ofData? : Data → Option Attributes
  | object fields => (fields.mapM stringField?).map Attributes.ofList
  | _ => none

/-- The data of a document element. -/
def Element.toData (element : Element) : Data :=
  object [("name", element.name.toData), ("attributes", element.attributes.toData),
    ("start", element.start.toData), ("end", element.stop.toData)]

/-- Read a document element. -/
def Element.ofData? (d : Data) : Option Element := do
  return ⟨← d.required? "name" QName.ofData?, ← d.required? "attributes" Attributes.ofData?,
    ← d.required? "start" Position.ofData?, ← d.required? "end" Position.ofData?⟩

/-- The data of a grammar element. -/
def GrammarElement.toData (element : GrammarElement) : Data :=
  object [("name", element.name.toData), ("attributes", element.attributes.toData)]

/-- Read a grammar element. -/
def GrammarElement.ofData? (d : Data) : Option GrammarElement := do
  return ⟨← d.required? "name" QName.ofData?, ← d.required? "attributes" StringSet.ofData?⟩

/-! ### Messages and diagnoses -/

/-- The data of a message key. -/
def MessageKey.toData (key : MessageKey) : Data := string key.identifier

/-- Read a message key. -/
def MessageKey.ofData? (d : Data) : Option MessageKey := do ofIdentifier? (← d.asName?)

/-- The data of a message. -/
def Message.toData (message : Message) : Data :=
  object [("key", message.key.toData), ("args", ofStrings message.args)]

/-- Read a message. -/
def Message.ofData? (d : Data) : Option Message := do
  return ⟨← d.required? "key" MessageKey.ofData?, ← d.required? "args" asStrings?⟩

/-- Read a list of messages. -/
def Message.listOfData? (d : Data) : Option (List Message) := do (← d.asList?).mapM ofData?

mutual

/-- The data of a diagnosis. -/
def Diagnosis.toData : Diagnosis → Data
  | ⟨position, primary, secondary, nested, possiblyMalformed⟩ =>
    object [("position", position.toData), ("primary_message", ofOption Message.toData primary),
      ("secondary_messages", list (secondary.map Message.toData)),
      ("secondary_results", list (Diagnosis.listToData nested)),
      ("possibly_malformed", bool possiblyMalformed)]

/-- The data of a list of diagnoses. -/
def Diagnosis.listToData : List Diagnosis → List Data
  | [] => []
  | diagnosis :: rest => diagnosis.toData :: Diagnosis.listToData rest

end

mutual

/-- Read a diagnosis. -/
def Diagnosis.ofData? (d : Data) : Option Diagnosis :=
  match h : d.field? "secondary_results" with
  | some (list items) => do
    have : sizeOf items < sizeOf d := by have := sizeOf_lt_of_field? h; simp at this; omega
    let position ← d.required? "position" Position.ofData?
    let primary ← d.optional? "primary_message" Message.ofData?
    let secondary ← d.required? "secondary_messages" Message.listOfData?
    let nested ← Diagnosis.listOfData? items
    let possiblyMalformed ← d.required? "possibly_malformed" asBool?
    return ⟨position, primary, secondary, nested, possiblyMalformed⟩
  | _ => none
termination_by sizeOf d

/-- Read a list of diagnoses. -/
def Diagnosis.listOfData? (items : List Data) : Option (List Diagnosis) :=
  match items with
  | [] => some []
  | d :: rest => do return (← Diagnosis.ofData? d) :: (← Diagnosis.listOfData? rest)
termination_by sizeOf items

end

/-! ### Validation errors -/

/-- The data of a kind of error. -/
def ErrorKind.toData (kind : ErrorKind) : Data := string kind.identifier

/-- Read a kind of error. -/
def ErrorKind.ofData? (d : Data) : Option ErrorKind := do ofIdentifier? (← d.asName?)

/-- The data of a validation error. -/
def ValidationError.toData (error : ValidationError) : Data :=
  object [("error_type", error.kind.toData), ("message", string error.message),
    ("position", error.position.toData), ("element", ofOption QName.toData error.element),
    ("attribute", ofOption QName.toData error.attributeName),
    ("attribute_value", ofOption string error.attributeValue),
    ("alternatives", error.alternatives.toData),
    ("fallback_message", ofOption string error.fallbackMessage)]

/-- Read a validation error. -/
def ValidationError.ofData? (d : Data) : Option ValidationError := do
  return ⟨← d.required? "error_type" ErrorKind.ofData?, ← d.required? "message" asString?,
    ← d.required? "position" Position.ofData?, ← d.optional? "element" QName.ofData?,
    ← d.optional? "attribute" QName.ofData?, ← d.optional? "attribute_value" asString?,
    ← d.required? "alternatives" StringSet.ofData?, ← d.optional? "fallback_message" asString?⟩

/-! ### Configuration -/

/-- The data of the encoding settings. -/
def EncodingConfig.toData (config : EncodingConfig) : Data :=
  object [("detect_bom", bool config.detectBom), ("detect_declaration", bool config.detectDeclaration),
    ("fallback", string config.fallback)]

/-- Read the encoding settings. -/
def EncodingConfig.ofData? (d : Data) : Option EncodingConfig := do
  guard d.isObject
  return ⟨← d.defaulted? "detect_bom" true asBool?, ← d.defaulted? "detect_declaration" true asBool?,
    ← d.defaulted? "fallback" "UTF-8" asString?⟩

/-- The data of the schema settings. -/
def SchemaConfig.toData (config : SchemaConfig) : Data :=
  object [("filter_by_namespace", bool config.filterByNamespace),
    ("extension", string config.extension)]

/-- Read the schema settings. -/
def SchemaConfig.ofData? (d : Data) : Option SchemaConfig := do
  guard d.isObject
  return ⟨← d.defaulted? "filter_by_namespace" true asBool?, ← d.defaulted? "extension" "xsd" asString?⟩

/-- The data of the suggestion settings. -/
def SuggestionConfig.toData (config : SuggestionConfig) : Data :=
  object [("max_edit_distance", int config.maxEditDistance),
    ("max_alternatives", int config.maxAlternatives)]

/-- Read the suggestion settings. -/
def SuggestionConfig.ofData? (d : Data) : Option SuggestionConfig := do
  guard d.isObject
  return ⟨← d.defaulted? "max_edit_distance" 2 asCount?, ← d.defaulted? "max_alternatives" 10 asCount?⟩

/-- The data of a configuration. -/
def Config.toData (config : Config) : Data :=
  object [("encoding", config.encoding.toData), ("schema", config.schema.toData),
    ("suggestions", config.suggestions.toData)]

/-- Read a configuration. -/
def Config.ofData? (d : Data) : Option Config := do
  guard d.isObject
  return ⟨← d.defaulted? "encoding" {} EncodingConfig.ofData?,
    ← d.defaulted? "schema" {} SchemaConfig.ofData?,
    ← d.defaulted? "suggestions" {} SuggestionConfig.ofData?⟩

end XmlDiagnostics
