import XmlDiagnostics.Pattern.Search
import XmlDiagnostics.Pattern.Size
import XmlDiagnostics.QName
import XmlDiagnostics.StringSet

/-! # Namespaces in raw text

Which namespaces a text declares, which one a schema is for, and what its first element is called, told
from the text alone, so that a text that is not well-formed has answers too. -/

namespace XmlDiagnostics.NamespaceScan

open Pattern

/-- An equals sign with white space around it, and a value in quotation marks as a group. -/
def valuePattern (number : Nat) : Pattern :=
  sequence [anyOf .blank, char '=', anyOf .blank, quote,
    group number (anyOf (.complement (.ofList ['"', '\'']))), quote]

/-- The characters of a name after its first. -/
def nameRest : CharSet := .union .word (.ofList ['.', '-'])

/-- A declaration of a namespace, with the namespace as group one. -/
def declarationPattern : Pattern :=
  sequence [literal "xmlns".toList, optional (seq (char ':') (someOf nameRest)), valuePattern 1]

/-- The namespaces that the lines of a text declare. -/
def declared (lines : List String) : StringSet :=
  .ofList <| lines.flatMap fun line =>
    let text := line.toList.toArray
    (declarationPattern.findAll line.toList).filterMap fun m => (m.groupText? text 1).map String.ofList

/-- The declaration of what a schema is for. -/
def targetPattern : Pattern := seq (literal "targetNamespace".toList) (valuePattern 1)

/-- The namespace that the text of a schema says it is for. -/
def target? (schema : List Char) : Option String := do
  String.ofList <$> (← targetPattern.find? schema).groupText? schema.toArray 1

/-- Whether a schema is for one of some namespaces. -/
def provides (namespaces : StringSet) (schema : List Char) : Bool :=
  (target? schema).any namespaces.contains

/-! ### The first element -/

/-- A comment. -/
def commentPattern : Pattern :=
  sequence [literal "<!--".toList, many (one .all) 0 none false, literal "-->".toList]

/-- A name without a colon. -/
def namePattern : Pattern :=
  seq (one (.union (.range 'A' 'Z') (.union (.range 'a' 'z') (.single '_')))) (anyOf nameRest)

/-- A start tag: a name, after a colon another one, and the rest of the tag. -/
def startTagPattern : Pattern :=
  sequence [char '<', group 1 namePattern, optional (seq (char ':') (group 2 namePattern)),
    group 3 (anyOf (.complement (.single '>'))), char '>']

/-- A text without some pieces of it, which are in order; `index` characters come before the text. -/
def withoutPieces (index : Nat) (text : List Char) : List Match → List Char
  | [] => text
  | m :: rest =>
    text.take (m.piece.start - index) ++ withoutPieces m.piece.stop (text.drop (m.piece.stop - index)) rest

/-- A text without its comments. -/
def withoutComments (text : List Char) : List Char := withoutPieces 0 text (commentPattern.findAll text)

/-- The declaration of the namespace for a name, or of the default one. -/
def scopePattern (name : Option (List Char)) : Pattern :=
  let key := match name with
    | some name => "xmlns:".toList ++ name
    | none => "xmlns".toList
  sequence [alt (anchor .textStart) (one .blank), literal key, valuePattern 1]

/-- The pattern of that declaration, absent if the name is so long that the pattern is too large. -/
def scopePattern? (name : Option (List Char)) : Option Pattern := (scopePattern name).built?

/-- The name of the first element in the lines of a text, in the namespace that its own tag declares. -/
def firstElement? (lines : List String) : Option QName := do
  let text := withoutComments ("\n".intercalate lines).toList
  let m ← startTagPattern.find? text
  let text := text.toArray
  let first ← m.groupText? text 1
  let (space, localName) := match m.groupText? text 2 with
    | some second => (some first, second)
    | none => (none, first)
  let body := (m.groupText? text 3).getD []
  let uri := do (← (← scopePattern? space).find? body).groupText? body.toArray 1
  return ⟨String.ofList (uri.getD []), String.ofList localName⟩

end XmlDiagnostics.NamespaceScan
