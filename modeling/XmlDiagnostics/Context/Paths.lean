import XmlDiagnostics.Context.Basic

/-! # Paths of a document and of its grammar

A document path lists the elements from the top down to one of them, and a grammar path does so in the
grammar. A document path corresponds to the grammar path with its names, once the ancestors that the
grammar does not know are put in front. -/

namespace XmlDiagnostics

/-- The elements from the top of a document down to one of them. -/
abbrev DocumentPath := List Element

/-- The elements from the top of a grammar down to one of them. -/
abbrev GrammarPath := List GrammarElement

/-- The names along a path of a document. -/
def DocumentPath.names (path : DocumentPath) : List QName := path.map Element.name

/-- The names along a path of a grammar. -/
def GrammarPath.names (path : GrammarPath) : List QName := path.map GrammarElement.name

namespace Context

/-! ### Documents -/

/-- The paths to all document elements with a property, in document order. -/
def documentPaths (ctx : Context) (p : Element → Bool) : List DocumentPath := ctx.document.tree.paths true p

/-- The path to the first document element with a property; without one it is empty. -/
def documentPath (ctx : Context) (p : Element → Bool) : DocumentPath := (ctx.documentPaths p).headD []

/-- The path to the element with a name that encloses a position. -/
def documentPathAt (ctx : Context) (name : QName) (position : Position) : DocumentPath :=
  ctx.documentPath fun element => element.name = name && element.encloses position

/-- The paths to the other document elements with a property and the same parent. -/
def documentSiblings (ctx : Context) (path : DocumentPath) (p : Element → Bool) : List DocumentPath :=
  if path.isEmpty then []
  else
    (ctx.documentPaths p).filter fun candidate =>
      candidate ≠ path && !candidate.isEmpty && candidate.dropLast = path.dropLast

/-! ### Anchors -/

/-- The ancestors of the first document element with a local name. -/
def ancestorsOf (ctx : Context) (localName : String) : List QName :=
  DocumentPath.names (ctx.documentPath fun element => element.name.localName = localName).dropLast

/-- The ancestors to put in front of a grammar path whose names are `first` and then `rest`. -/
def ancestorsFor (ctx : Context) (first : QName) (rest : List QName) : List QName :=
  match ctx.anchor with
  | .document => ctx.ancestorsOf first.localName
  | .wrapper localName =>
    match ctx.firstElement with
    | some top => if top = first then [] else [top, top.withLocalName localName]
    | none => []
  | .computed ancestors => ancestors (first :: rest)

/-- A grammar path with its ancestors in front; an empty path has none. -/
def anchored (ctx : Context) (path : GrammarPath) : GrammarPath :=
  match path with
  | [] => []
  | first :: rest => (ctx.ancestorsFor first.name (GrammarPath.names rest)).map GrammarElement.ofName ++ path

/-! ### Grammars -/

/-- The paths to all grammar elements with a property, in the order of the grammar. -/
def grammarPaths (ctx : Context) (p : GrammarElement → Bool) : List GrammarPath := ctx.grammar.paths true p

/-- The path to the first grammar element with a property; without one it is empty. -/
def grammarPath (ctx : Context) (p : GrammarElement → Bool) : GrammarPath := (ctx.grammarPaths p).headD []

/-- The anchored grammar paths that the gate lets through. -/
def alternatives (ctx : Context) (inclusive : Bool) (p : GrammarElement → Bool) : List GrammarPath :=
  ((ctx.grammar.paths inclusive p).filter fun path => ctx.gate.allows (GrammarPath.names path)).map ctx.anchored

/-- The paths to all elements that accept an attribute. -/
def alternativesForAttribute (ctx : Context) (key : String) : List GrammarPath :=
  ctx.alternatives true fun element => element.accepts key

/-- The paths to all places where an element may stand. -/
def alternativesForElement (ctx : Context) (name : QName) : List GrammarPath :=
  ctx.alternatives false fun element => element.name = name

/-- Go down a tree along names, to the first child with each name. -/
def descend (tree : Tree GrammarElement) : List QName → Option (Tree GrammarElement)
  | [] => some tree
  | name :: rest =>
    match tree.children.find? fun child => child.value?.any fun element => element.name = name with
    | some child => descend child rest
    | none => none

/-- The node of the grammar that a path leads to; the root is no node of an element. -/
def grammarNode? (ctx : Context) (path : List QName) : Option (Tree GrammarElement) :=
  (descend ctx.grammar path).filter fun node => !node.isRoot

/-- The attributes that the element at the end of a path accepts. -/
def attributesAt (ctx : Context) (path : List QName) : StringSet :=
  (((ctx.grammarNode? path).bind Tree.value?).map GrammarElement.attributes).getD ∅

/-- The elements that may stand inside the element at the end of a path. -/
def elementsAt (ctx : Context) (path : List QName) : List GrammarElement :=
  ((ctx.grammarNode? path).map fun node => node.children.filterMap Tree.value?).getD []

/-- The paths to the other grammar elements with a property and the same parent. -/
def grammarSiblings (ctx : Context) (path : List QName) (p : GrammarElement → Bool) : List GrammarPath :=
  if path.isEmpty then []
  else
    (ctx.grammarPaths p).filter fun candidate =>
      candidate.names ≠ path && !candidate.isEmpty && candidate.names.dropLast = path.dropLast

/-- The grammar path that corresponds to a document path: the first one to the same name that has the
names of the document path once it is anchored. -/
def correspondingPath (ctx : Context) (path : DocumentPath) : GrammarPath :=
  match path.getLast? with
  | none => []
  | some last =>
    ((ctx.grammarPaths fun element => element.name = last.name).find? fun candidate =>
      (ctx.anchored candidate).names = path.names).getD []

end Context

end XmlDiagnostics
