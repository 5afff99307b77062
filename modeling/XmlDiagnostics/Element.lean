import XmlDiagnostics.Attributes
import XmlDiagnostics.Position
import XmlDiagnostics.QName
import XmlDiagnostics.StringSet

/-! # Elements

An element of a document has a name, attributes and the span of its markup. An element of a grammar
has a name and the attributes it accepts; two grammar elements with one name count as the same
element. -/

namespace XmlDiagnostics

/-- An element of a document. Equality is that of the attributes in their order. To compare them as a map makes no
difference to paths of a document: two paths have a first element in which they differ, there the elements are
siblings, and siblings start at different places (`Document.startsGrow_read`, for fewer than `2 ^ 31` characters). -/
structure Element where
  name : QName
  attributes : Attributes
  start : Position
  stop : Position
deriving DecidableEq, Inhabited

namespace Element

/-- An element that has not been placed. -/
def unplaced (name : QName) (attributes : Attributes) : Element :=
  ⟨name, attributes, .unknown, .unknown⟩

/-- The value of an attribute. -/
def attribute? (element : Element) (key : String) : Option String := element.attributes.get? key

/-- Whether a position lies in the span, both ends included. -/
def encloses (element : Element) (position : Position) : Bool :=
  decide (element.start ≤ position) && decide (position ≤ element.stop)

/-- The written form gives the name and the span. -/
def display (element : Element) : String :=
  "<" ++ element.name.display ++ " @ " ++ element.start.display ++ ".." ++ element.stop.display ++ ">"

end Element

/-- An element of a grammar with the attributes it accepts. -/
structure GrammarElement where
  name : QName
  attributes : StringSet
deriving DecidableEq, Inhabited

namespace GrammarElement

/-- An element that accepts no attribute. -/
def ofName (name : QName) : GrammarElement := ⟨name, ∅⟩

/-- Whether the element accepts an attribute. -/
def accepts (element : GrammarElement) (key : String) : Bool := element.attributes.contains key

/-- Two grammar elements are the same element when their names are equal. -/
def same (a b : GrammarElement) : Bool := a.name = b.name

/-- For every element of a list, whether it differs from all of `seen` and all before it. -/
def newIn (seen : List GrammarElement) : List GrammarElement → List Bool
  | [] => []
  | element :: rest => (!seen.any element.same) :: newIn (element :: seen) rest

end GrammarElement

end XmlDiagnostics
