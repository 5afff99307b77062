import XmlDiagnostics.QName
import XmlDiagnostics.ValidationError

/-! # Policies

What the user of a context can choose: which grammar paths are worth suggesting, which ancestors are put
in front of them, and how errors of each kind are explained. -/

namespace XmlDiagnostics

/-- Which grammar paths are suggested, told from the names along a path. -/
structure PathGate where
  allows : List QName → Bool

namespace PathGate

/-- Every path is suggested. -/
def allowAll : PathGate := ⟨fun _ => true⟩

/-- Paths of at most so many names are suggested. -/
def maxLength (n : Nat) : PathGate := ⟨fun path => path.length ≤ n⟩

/-- Paths without a name are suggested. -/
def deny (name : QName) : PathGate := ⟨fun path => !path.contains name⟩

end PathGate

/-- Which ancestors are put in front of a grammar path. -/
inductive PathAnchor where
  /-- those of the first document element with the local name of the path's first one -/
  | document
  /-- the document element and a wrapper in its namespace -/
  | wrapper (localName : String)
  /-- what a function makes of the names along the path -/
  | computed (ancestors : List QName → List QName)

/-- The same ancestors for every path. -/
def PathAnchor.fixed (names : List QName) : PathAnchor := .computed fun _ => names

/-- How an error is explained. -/
inductive Handler where
  /-- as errors of a kind are explained -/
  | builtin (kind : ErrorKind)
  /-- by a fixed text -/
  | note (text : String)
deriving DecidableEq, Repr

/-- Handlers by the kind of error, the latest first. -/
structure Registry where
  handlers : List (ErrorKind × Handler)
deriving DecidableEq, Repr

namespace Registry

/-- No handlers. -/
def empty : Registry := ⟨[]⟩

/-- Explain errors of a kind by a handler, in place of the one before. -/
def register (registry : Registry) (kind : ErrorKind) (handler : Handler) : Registry :=
  ⟨(kind, handler) :: registry.handlers⟩

/-- Every kind of error has its own handler. -/
def builtin : Registry := ⟨ErrorKind.all.map fun kind => (kind, .builtin kind)⟩

/-- The handler for a kind of error. -/
def get? (registry : Registry) (kind : ErrorKind) : Option Handler := registry.handlers.lookup kind

/-- The kinds of errors that have a handler, in the order of the kinds. -/
def kinds (registry : Registry) : List ErrorKind :=
  ErrorKind.all.filter fun kind => (registry.get? kind).isSome

/-- The written form lists the kinds. -/
def display (registry : Registry) : String :=
  "HandlerRegistry \x7b types: [" ++ ", ".intercalate (registry.kinds.map ErrorKind.identifier) ++ "] \x7d"

end Registry

end XmlDiagnostics
