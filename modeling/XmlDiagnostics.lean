import XmlDiagnostics.ConfigFile
import XmlDiagnostics.Data.Codec
import XmlDiagnostics.Handler.Explain
import XmlDiagnostics.Pattern.Notation
import XmlDiagnostics.Proofs.Context.Correspondence
import XmlDiagnostics.Proofs.Context.Filtering
import XmlDiagnostics.Proofs.Context.GrammarPaths
import XmlDiagnostics.Proofs.Context.Locating
import XmlDiagnostics.Proofs.Context.Searching
import XmlDiagnostics.Proofs.Context.Siblings
import XmlDiagnostics.Proofs.Data.Serialized
import XmlDiagnostics.Proofs.Document.Nesting
import XmlDiagnostics.Proofs.Document.Outside
import XmlDiagnostics.Proofs.Document.Printing
import XmlDiagnostics.Proofs.Document.Scoping
import XmlDiagnostics.Proofs.Document.Spans
import XmlDiagnostics.Proofs.Document.Starts
import XmlDiagnostics.Proofs.Document.Walk
import XmlDiagnostics.Proofs.Encoding.Declaring
import XmlDiagnostics.Proofs.Encoding.Marked
import XmlDiagnostics.Proofs.Handler.Appearance
import XmlDiagnostics.Proofs.Handler.AttributePosition
import XmlDiagnostics.Proofs.Handler.DuplicateElement
import XmlDiagnostics.Proofs.Handler.DuplicatePosition
import XmlDiagnostics.Proofs.Handler.MissingElement
import XmlDiagnostics.Proofs.Handler.Suggesting
import XmlDiagnostics.Proofs.Markup.Contents
import XmlDiagnostics.Proofs.Message.Filling
import XmlDiagnostics.Proofs.NamespaceScan.Comments
import XmlDiagnostics.Proofs.NamespaceScan.Declaration
import XmlDiagnostics.Proofs.NamespaceScan.FirstElement
import XmlDiagnostics.Proofs.NamespaceScan.Target
import XmlDiagnostics.Proofs.Pattern.Size
import XmlDiagnostics.Proofs.Pattern.Ways
import XmlDiagnostics.Proofs.QName
import XmlDiagnostics.Proofs.Report.Layout
import XmlDiagnostics.Proofs.Schema.Expansion
import XmlDiagnostics.Proofs.Schema.Inheriting
import XmlDiagnostics.Proofs.Schema.Order
import XmlDiagnostics.Proofs.Schema.Reaching
import XmlDiagnostics.Proofs.Schema.Renumbering
import XmlDiagnostics.Proofs.Schema.Resolving
import XmlDiagnostics.Proofs.Suggestion.Casing
import XmlDiagnostics.Proofs.Suggestion.EditDistance
import XmlDiagnostics.Proofs.Suggestion.Similar
import XmlDiagnostics.Proofs.Text.Coordinates
import XmlDiagnostics.Proofs.Text.LineEnds
import XmlDiagnostics.Proofs.Tree.Addresses
import XmlDiagnostics.Proofs.Tree.Folding
import XmlDiagnostics.Proofs.Tree.Reordering
import XmlDiagnostics.Report
