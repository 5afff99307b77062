import XmlDiagnostics.Context.Paths
import XmlDiagnostics.Context.Search
import XmlDiagnostics.Diagnosis
import XmlDiagnostics.Pattern.Size
import XmlDiagnostics.Suggestion

/-! # What handlers share

Lists and paths in messages, the search for an attribute in the text of a document, and the answer to an
error that lacks what its handler needs. -/

namespace XmlDiagnostics

/-- Repeat the message of the validator. -/
def ValidationError.repeated (error : ValidationError) : Diagnosis :=
  .saying error.position .reportedError [error.displayMessage]

/-- Where the element at the end of a path starts, or another position if there is none. -/
def DocumentPath.start (path : DocumentPath) (fallback : Position) : Position :=
  (path.getLast?.map Element.start).getD fallback

/-- The local names along a path. -/
def GrammarPath.display (path : GrammarPath) : String :=
  " > ".intercalate (path.map fun element => element.name.localName)

/-- An attribute as a tag writes it: after white space or at the beginning of a line its name, which is
group one, and an equals sign. -/
def attributePattern (key : String) : Pattern :=
  .sequence [.alt (.anchor .textStart) (.one .blank), .group 1 (.literal key.toList), .anyOf .blank, .char '=']

/-- The pattern of an attribute, absent if the name is so long that the pattern is too large. -/
def attributePattern? (key : String) : Option Pattern := (attributePattern key).built?

/-- The beginning of a start tag. -/
def tagPattern : Pattern := .seq (.char '<') (.one (.complement (.ofList ['/', '!', '?'])))

namespace Context

/-- A list for a message, which ends with dots after as many items as the configuration allows. -/
def listing (ctx : Context) (items : List String) : String :=
  let most := ctx.config.suggestions.maxAlternatives
  ", ".intercalate (items.take most ++ if most < items.length then ["..."] else [])

/-- The suggestion for a name among candidates. -/
def suggestion (ctx : Context) (unknown : String) (candidates : List String) : Option String :=
  suggestSimilar unknown candidates ctx.config.suggestions.maxEditDistance

/-- Where an attribute of the element at the end of a path is written, or where the element starts. -/
def attributePosition (ctx : Context) (path : DocumentPath) (key : String) (fallback : Position) : Position :=
  let start := path.start fallback
  ((attributePattern? key).bind (ctx.searchFrom start)).getD start

end Context

/-- The names of a list, and after them those of another list that are not among them. -/
def appendNew (names more : List String) : List String := names ++ more.filter fun name => !names.contains name

end XmlDiagnostics
