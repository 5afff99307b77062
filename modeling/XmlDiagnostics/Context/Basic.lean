import XmlDiagnostics.Encoding.Detect
import XmlDiagnostics.NamespaceScan
import XmlDiagnostics.Policy
import XmlDiagnostics.Resource
import XmlDiagnostics.Schema.Grammar

/-! # Contexts

A context holds a document, the schemas that describe it, and the choices of its user. Everything in it
is told from the text of the document and the texts of the schemas. -/

namespace XmlDiagnostics

/-- A document with its schemas. The lines, the tree, the grammar and the name of the first element are
those of the texts; how the tables of the schemas list their entries is left open. -/
structure Context where
  url : Url
  encoding : Encoding
  text : List Char
  schemaUrls : List Url
  schemaTexts : List (List Char)
  config : Config
  gate : PathGate
  anchor : PathAnchor
  registry : Registry
  orders : Nat → Schema.TableOrder := fun _ => .text
  lines : List (List Char) := Text.splitLines text
  document : Document := Document.read text
  grammar : Tree GrammarElement := (Grammar.read schemaTexts orders).tree
  firstElement : Option QName := NamespaceScan.firstElement? (lines.map String.ofList)
  lines_eq : lines = Text.splitLines text := by rfl
  document_eq : document = Document.read text := by rfl
  grammar_eq : grammar = (Grammar.read schemaTexts orders).tree := by rfl
  firstElement_eq : firstElement = NamespaceScan.firstElement? (lines.map String.ofList) := by rfl

/-- What a context is made from. -/
structure ContextSetup where
  url : Url
  schemaUrls : List Url
  config : Config := {}
  gate : PathGate := .allowAll
  anchor : PathAnchor := .document
  registry : Registry := .builtin
  orders : Nat → Schema.TableOrder := fun _ => .text
  tables : CharacterTables := .asciiOnly

namespace ContextSetup

/-- Read and decode a resource. -/
def readText (setup : ContextSetup) (files : Files) (url : Url) : Except Error (Encoding × List Char) := do
  let bytes ← files.read url
  let encoding := Encoding.detect setup.config.encoding bytes
  return (encoding, encoding.decode bytes setup.tables)

/-- Read the schemas in order and keep those that the document may use. -/
def readSchemas (setup : ContextSetup) (files : Files) (namespaces : StringSet) :
    List Url → Except Error (List (Url × List Char))
  | [] => .ok []
  | url :: rest => do
    let (_, text) ← setup.readText files url
    let schemas ← setup.readSchemas files namespaces rest
    if setup.config.schema.filterByNamespace && !NamespaceScan.provides namespaces text then return schemas
    else return (url, text) :: schemas

/-- The context of a text, with the schemas that its document may use. -/
def context (setup : ContextSetup) (encoding : Encoding) (text : List Char) (schemas : List (Url × List Char)) :
    Context where
  url := setup.url
  encoding
  text
  schemaUrls := schemas.map Prod.fst
  schemaTexts := schemas.map Prod.snd
  config := setup.config
  gate := setup.gate
  anchor := setup.anchor
  registry := setup.registry
  orders := setup.orders

/-- Check the configuration, read the document and the schemas, and make a context of them. -/
def load (setup : ContextSetup) (files : Files) : Except Error Context := do
  let config ← setup.config.validate
  let (encoding, text) ← setup.readText files setup.url
  let namespaces := NamespaceScan.declared ((Text.splitLines text).map String.ofList)
  let schemas ← setup.readSchemas files namespaces setup.schemaUrls
  return { setup with config }.context encoding text schemas

end ContextSetup

namespace Context

/-- The name of the document for messages. -/
def name (ctx : Context) : String := ctx.url.documentName

/-- The lines from number `start`, counted from zero, to before number `stop`. -/
def extractLines (ctx : Context) (start stop : Nat) : List (List Char) :=
  (ctx.lines.take stop).drop start

/-- The written form of a context tells whether its grammar has been asked for. -/
def display (ctx : Context) (grammarAsked : Bool) : String :=
  let quoted (text : String) : String := String.ofList (Text.quoted text.toList)
  "ValidationContext \x7b document: " ++ quoted ctx.url.display
    ++ ", encoding: " ++ quoted ctx.encoding.name
    ++ ", lines: " ++ toString ctx.lines.length
    ++ ", schemas: [" ++ ", ".intercalate (ctx.schemaUrls.map fun url => quoted url.display)
    ++ "], schema_tree_built: " ++ (if grammarAsked then "true" else "false")
    ++ ", handlers: " ++ ctx.registry.display ++ ", .. \x7d"

end Context

end XmlDiagnostics
