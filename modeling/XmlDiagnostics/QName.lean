import XmlDiagnostics.Text.Split

/-! # Qualified names

A name is a local part in a namespace; the empty namespace means none. The written form puts the
namespace in braces before the local part and leaves the braces out for the empty namespace. Names
are ordered by namespace first. -/

namespace XmlDiagnostics

/-- A local name in a namespace. -/
structure QName where
  namespaceUri : String
  localName : String
deriving DecidableEq, Repr, Inhabited

namespace QName

/-- A name in no namespace. -/
def bare (localName : String) : QName := ⟨"", localName⟩

/-- Read a name. A text that opens with a brace and has a closing one names the namespace between
them; any other text is a local name as a whole. -/
def parse (text : String) : QName :=
  match text.toList with
  | '\x7b' :: rest =>
    match Text.splitAtFirst '\x7d' rest with
    | some (uri, name) => ⟨String.ofList uri, String.ofList name⟩
    | none => bare text
  | _ => bare text

/-- The written form, which repeats the local name alone in the empty namespace. -/
def display (name : QName) : String :=
  if name.namespaceUri = "" then name.localName
  else "\x7b" ++ name.namespaceUri ++ "\x7d" ++ name.localName

/-- The same local name in another namespace. -/
def inNamespace (name : QName) (uri : String) : QName := ⟨uri, name.localName⟩

/-- Another local name in the same namespace. -/
def withLocalName (name : QName) (localName : String) : QName := ⟨name.namespaceUri, localName⟩

/-- Namespace first, local name within a namespace, both by code point. -/
protected def lt (a b : QName) : Prop :=
  a.namespaceUri < b.namespaceUri ∨ (a.namespaceUri = b.namespaceUri ∧ a.localName < b.localName)

instance : LT QName := ⟨QName.lt⟩

instance (a b : QName) : Decidable (a < b) := inferInstanceAs (Decidable (_ ∨ _))

/-- Names in increasing order; equal names keep their order. -/
def sort (names : List QName) : List QName := names.mergeSort fun a b => !decide (b < a)

end QName

end XmlDiagnostics
