import XmlDiagnostics.Element
import XmlDiagnostics.Markup.Attribute
import XmlDiagnostics.Text.Lines
import XmlDiagnostics.Text.Split
import XmlDiagnostics.Tree

/-! # Documents

The tokens of a text are put together to a tree of elements, with names resolved in their namespaces
and with the spans of their markup, up to the first place where the text is not well-formed. Elements
that are open there end there. -/

namespace XmlDiagnostics

open Markup

/-- The namespace that the name `xml` stands for. -/
def xmlNamespace : String := "http://www.w3.org/XML/1998/namespace"

namespace Document

/-- Why a document is not well-formed. -/
inductive Flaw where
  | markup (flaw : Markup.Flaw)
  | attributes (flaw : AttributeFlaw)
  | textBeforeElement
  | textAfterElement
  | secondElement
  | unexpectedEndTag
  | openElement
  | noElement
deriving DecidableEq, Repr

/-- The text of a flaw. -/
def Flaw.message : Flaw → String
  | markup flaw => flaw.message
  | attributes flaw => flaw.message
  | textBeforeElement => "Content is not allowed in prolog"
  | textAfterElement => "Content is not allowed in trailing section"
  | secondElement => "The markup in the document following the root element must be well-formed"
  | unexpectedEndTag => "Unexpected end tag"
  | openElement => "XML document structures must start and end within the same entity"
  | noElement => "Premature end of file"

/-- Where and why a document is not well-formed. -/
structure Failure where
  position : Position
  flaw : Flaw
deriving DecidableEq, Repr

/-- The text of a failure. -/
def Failure.message (failure : Failure) : String := failure.flaw.message

/-- The text of a failure with its position. -/
def Failure.display (failure : Failure) : String :=
  failure.message ++ " (" ++ failure.position.display ++ ")"

/-! ### Names and attributes -/

/-- What a name in a tag declares or uses: the part before the first colon, or nothing, and the part
after it. -/
def splitName (name : List Char) : List Char × List Char :=
  (Text.splitAtFirst ':' name).getD ([], name)

theorem splitName_of_no_colon {name : List Char} (h : ':' ∉ name) : splitName name = ([], name) := by
  rw [splitName, Text.splitAtFirst_eq_none.mpr h]
  rfl

theorem splitName_append {space : List Char} (h : ':' ∉ space) (localName : List Char) :
    splitName (space ++ ':' :: localName) = (space, localName) := by
  rw [splitName, Text.splitAtFirst_append h]
  rfl

/-- The namespaces that are declared at a place, by the name that stands for them, the nearest declaration
first. -/
abbrev Scope := List (List Char × String)

/-- The beginning of the keys that declare a namespace by name. -/
def declarationMark : List Char := "xmlns:".toList

/-- The name that an attribute declares a namespace for: none for other attributes, and the empty name
for the namespace of names without a colon. -/
def declaredName? (key : List Char) : Option (List Char) :=
  if key = "xmlns".toList then some []
  else if declarationMark.isPrefixOf key then some (key.drop declarationMark.length)
  else none

/-- The namespaces declared by the attributes of a tag, the last declaration of a name first. -/
def scopeOf (attributes : List (List Char × List Char)) : Scope :=
  (attributes.filterMap fun (key, value) => (declaredName? key).map (·, String.ofList value)).reverse

/-- The attributes of a tag that declare no namespace. -/
def properAttributes (attributes : List (List Char × List Char)) : Attributes :=
  .ofList <| attributes.filterMap fun (key, value) =>
    if (declaredName? key).isNone then some (String.ofList key, String.ofList value) else none

/-- The namespace that a name stands for: the fixed one for `xml`, else the one of its nearest declaration,
else none. -/
def resolve (scope : Scope) (name : List Char) : String :=
  if name = "xml".toList then xmlNamespace else (scope.lookup name).getD ""

/-! ### Putting tokens together -/

/-- An element whose end tag has not been read: the element so far, the namespaces declared by its start tag and
around it, and its finished children, the last one first. -/
structure OpenElement where
  element : Element
  scope : Scope
  children : List (Tree Element)

/-- The tree of an element that ends at a position. -/
def OpenElement.close (o : OpenElement) (stop : Position) : Tree Element :=
  .node (some { o.element with stop := stop }) o.children.reverse

/-- The elements read so far: those that are open, innermost first, and the finished ones outside of
them, the last one first. -/
structure Builder where
  opened : List OpenElement
  finished : List (Tree Element)

namespace Builder

/-- Nothing has been read. -/
def start : Builder := ⟨[], []⟩

/-- Whether an element has been opened. -/
def hasElement (b : Builder) : Bool := !b.opened.isEmpty || !b.finished.isEmpty

/-- Put a finished tree below the innermost open element. -/
def attach (b : Builder) (tree : Tree Element) : Builder :=
  match b.opened with
  | [] => { b with finished := tree :: b.finished }
  | parent :: rest => { b with opened := { parent with children := tree :: parent.children } :: rest }

/-- The namespaces declared in the open elements. -/
def scope (b : Builder) : Scope := b.opened.head?.elim [] OpenElement.scope

/-- Open an element at a position. -/
def openTag (b : Builder) (tag : Tag) (position : Position) : Except Flaw Builder :=
  if b.opened.isEmpty && b.hasElement then .error .secondElement
  else
    match tag.attributes with
    | .error flaw => .error (.attributes flaw)
    | .ok attributes =>
      let scope := scopeOf attributes ++ b.scope
      let (space, localName) := splitName tag.name
      let name : QName := ⟨resolve scope space, String.ofList localName⟩
      let element : Element := ⟨name, properAttributes attributes, position, .unknown⟩
      .ok { b with opened := ⟨element, scope, []⟩ :: b.opened }

/-- Close the innermost element at a position. -/
def closeTag (b : Builder) (position : Position) : Except Flaw Builder :=
  match b.opened with
  | [] => .error .unexpectedEndTag
  | o :: rest => .ok (attach { b with opened := rest } (o.close position))

/-- Close all open elements at a position. -/
def closeAll (position : Position) : List OpenElement → List (Tree Element) → List (Tree Element)
  | [], finished => finished
  | [o], finished => o.close position :: finished
  | o :: parent :: rest, finished =>
    closeAll position ({ parent with children := o.close position :: parent.children } :: rest) finished
termination_by opened => opened.length

/-- The tree of what has been read, with open elements ending at a position. -/
def toTree (b : Builder) (stop : Position) : Tree Element :=
  .node none (closeAll stop b.opened b.finished).reverse

/-- Take in one token; `place` tells the position of an octet. A flaw is noticed at an octet. -/
def feed (place : Nat → Position) (b : Builder) (token : PlacedToken) : Except (Nat × Flaw) Builder :=
  match token.token with
  | .startTag tag => (b.openTag tag (place token.start)).mapError (token.start, ·)
  | .emptyTag tag => do
    let b ← (b.openTag tag (place token.start)).mapError (token.start, ·)
    (b.closeTag (place token.stop)).mapError (token.stop, ·)
  | .endTag _ => (b.closeTag (place token.stop)).mapError (token.stop, ·)
  | .text content =>
    if b.opened.isEmpty && !content.all Text.isAsciiBlank then
      .error (token.start, if b.hasElement then .textAfterElement else .textBeforeElement)
    else .ok b
  | _ => .ok b

/-- Take in tokens up to the first flaw. -/
def feedAll (place : Nat → Position) (b : Builder) : List PlacedToken → Builder × Option (Nat × Flaw)
  | [] => (b, none)
  | token :: tokens =>
    match b.feed place token with
    | .error flaw => (b, some flaw)
    | .ok b => b.feedAll place tokens

end Builder

end Document

/-- A document: its tree, and the failure if it is not well-formed. -/
structure Document where
  tree : Tree Element
  failure : Option Document.Failure

namespace Document

/-- Whether a document is well-formed. -/
def valid (document : Document) : Bool := document.failure.isNone

/-- The flaw of a document all of whose tokens could be taken in: that of its markup, else an element
left open, else the lack of an element. -/
def lastFlaw (length : Nat) (b : Builder) (flaw : Option PlacedFlaw) : Option (Nat × Flaw) :=
  match flaw with
  | some flaw => some (flaw.offset, .markup flaw.flaw)
  | none =>
    if !b.opened.isEmpty then some (length, .openElement)
    else if !b.hasElement then some (length, .noElement)
    else none

/-- Read a document. -/
def read (text : List Char) : Document :=
  let table := Text.positionTable text
  let place := Text.positionIn table
  let tokens := Markup.tokens text
  let (b, flaw) := Builder.start.feedAll place tokens.tokens
  match flaw.or (lastFlaw (Text.byteLength text) b tokens.flaw) with
  | none => ⟨b.toTree .unknown, none⟩
  | some (offset, flaw) => ⟨b.toTree (place offset), some ⟨place offset, flaw⟩⟩

end Document

end XmlDiagnostics
