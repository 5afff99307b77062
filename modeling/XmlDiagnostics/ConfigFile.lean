import XmlDiagnostics.Config
import XmlDiagnostics.Encoding.Unicode
import XmlDiagnostics.Yaml.Document

/-! # Configuration files

A configuration is written as a YAML mapping of mappings. Settings that are left out have their
defaults, unknown ones are ignored, and a known one may stand once. -/

namespace XmlDiagnostics

open Yaml

namespace Config

/-- The values of a key in a mapping. -/
def valuesOf (key : String) (entries : List (Node × Node)) : List Node :=
  entries.filterMap fun (k, value) => if k.asText? = some key.toList then some value else none

/-- Read the value of a key with a default. -/
def setting {α : Type} (key : String) (default : α) (read : Node → Option α)
    (entries : List (Node × Node)) : Option α :=
  match valuesOf key entries with
  | [] => some default
  | [value] => read value
  | _ => none

/-- The entries of a mapping in a document, whose keys have to be scalars. -/
def entries? (document : Yaml.Document) (node : Node) : Option (List (Node × Node)) :=
  (document.entries? node).filter fun entries => entries.all fun (key, _) => key.asText?.isSome

/-- A text. -/
def text? (node : Node) : Option String := node.asText?.map String.ofList

/-- The encoding settings of a mapping. -/
def encodingOf? (document : Yaml.Document) (node : Node) : Option EncodingConfig := do
  let entries ← entries? document node
  return ⟨← setting "detect_bom" true Node.asBool? entries,
    ← setting "detect_declaration" true Node.asBool? entries, ← setting "fallback" "UTF-8" text? entries⟩

/-- The schema settings of a mapping. -/
def schemaOf? (document : Yaml.Document) (node : Node) : Option SchemaConfig := do
  let entries ← entries? document node
  return ⟨← setting "filter_by_namespace" true Node.asBool? entries, ← setting "extension" "xsd" text? entries⟩

/-- The suggestion settings of a mapping. -/
def suggestionsOf? (document : Yaml.Document) (node : Node) : Option SuggestionConfig := do
  let entries ← entries? document node
  return ⟨← setting "max_edit_distance" 2 Node.asCount? entries,
    ← setting "max_alternatives" 10 Node.asCount? entries⟩

/-- The configuration of a document. -/
def ofDocument? (document : Yaml.Document) : Option Config := do
  let entries ← entries? document document.root
  return ⟨← setting "encoding" {} (encodingOf? document) entries,
    ← setting "schema" {} (schemaOf? document) entries,
    ← setting "suggestions" {} (suggestionsOf? document) entries⟩

/-- Read and check a configuration. A text without a document means the defaults. -/
def ofYaml (text : List Char) : Except Error Config :=
  match Yaml.read? text with
  | none => .error (.serialization "not a YAML document")
  | some none => validate {}
  | some (some document) =>
    match ofDocument? document with
    | none => .error (.serialization "not a configuration")
    | some config => config.validate

/-- Read and check a configuration file, which has to be UTF-8; it is absent if it does not exist. -/
def ofFile : Option (List UInt8) → Except Error Config
  | none => .error .missingFile
  | some bytes =>
    if Encoding.isUtf8 bytes then ofYaml (Encoding.decodeUtf8 bytes) else .error .notUtf8

end Config

end XmlDiagnostics
