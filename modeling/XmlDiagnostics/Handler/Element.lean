import XmlDiagnostics.Handler.Basic

/-! # Errors about elements -/

namespace XmlDiagnostics.Context

/-- The names of elements that may stand inside the element at the end of a document path. -/
def namesInside (ctx : Context) (path : DocumentPath) : List String :=
  (ctx.elementsAt (ctx.correspondingPath path).names).map fun element => element.name.localName

/-- The names of elements that may stand where an unexpected element stands: those of the grammar, then
those that the validator listed. -/
def allowedElements (ctx : Context) (path : DocumentPath) (error : ValidationError) : List String :=
  let parent := path.dropLast
  appendNew (if parent.isEmpty then [] else ctx.namesInside parent) error.alternatives.toList

/-- Suggest one of the allowed names, or else list them. -/
def adviseElement (ctx : Context) (element : QName) (allowed : List String) (d : Diagnosis) : Diagnosis :=
  match ctx.suggestion element.localName allowed with
  | some name => d.addMessage .didYouMean [name]
  | none => if allowed.isEmpty then d else d.addMessage .elementsAllowedHere [ctx.listing allowed]

/-- An element that may not stand where it does. -/
def explainUnexpectedElement (ctx : Context) (error : ValidationError) : Diagnosis :=
  match error.element with
  | none => error.repeated.mayBeMalformed true
  | some element =>
    let path := ctx.documentPathAt element error.position
    let d := (Diagnosis.saying (path.start error.position) .elementNotAllowed
      [element.localName]).mayBeMalformed true
    let d := ctx.adviseElement element (ctx.allowedElements path error) d
    let elsewhere := ((ctx.alternativesForElement element).filter fun p => !p.isEmpty).map GrammarPath.display
    if elsewhere.isEmpty then d
    else d.addMessage .elementIsAllowedOn [element.localName, ctx.listing elsewhere]

/-- The attribute that tells elements apart and its value on the repeated element, or else the value that
the validator named. -/
def keyOfDuplicate? (duplicate : Element) (error : ValidationError) : Option (String × String) := do
  let attributeName ← error.attributeName
  let value ← (duplicate.attribute? attributeName.localName).or error.attributeValue
  return (attributeName.localName, value)

/-- Whether an element is an earlier occurrence of a repeated one. -/
def isEarlierOccurrence (name : QName) (duplicate : Element) (key : Option (String × String))
    (candidate : Element) : Bool :=
  candidate.name = name && candidate.start < duplicate.start
    && key.all fun (attributeName, value) => candidate.attribute? attributeName = some value

/-- An element that may stand only once among its siblings. -/
def explainDuplicateElement (ctx : Context) (error : ValidationError) : Diagnosis :=
  match error.element with
  | none => error.repeated
  | some name =>
    let path := ctx.documentPathAt name error.position
    match path.getLast? with
    | none => error.repeated
    | some duplicate =>
      let key := keyOfDuplicate? duplicate error
      let siblings := ctx.documentSiblings path (isEarlierOccurrence name duplicate key)
      let first := siblings.head?.bind List.getLast?
      let withFirst (d : Diagnosis) (message : MessageKey) (args : List String) : Diagnosis :=
        match first with
        | some first => d.addNested (.saying first.start message args)
        | none => d
      match key with
      | some (attributeName, value) =>
        let args := [name.localName, attributeName, value]
        withFirst (.saying duplicate.start .elementWithAttributeDuplicated args)
          .elementWithAttributeDuplicatedFirstOccurrence args
      | none =>
        let parent := (path.dropLast.getLast?.map fun element => element.name.localName).getD ""
        withFirst (.saying duplicate.start .elementDuplicated [name.localName, parent])
          .elementDuplicatedFirstOccurrence [name.localName]

/-- The names of the elements directly inside the element at the end of a document path. -/
def namesPresent (ctx : Context) (path : DocumentPath) : List QName :=
  ((ctx.documentPaths fun _ => true).filter fun candidate =>
    candidate.length = path.length + 1 && path.isPrefixOf candidate).filterMap fun candidate =>
      candidate.getLast?.map Element.name

/-- The names of elements that may stand inside the element at the end of a document path and do not. -/
def absentNames (ctx : Context) (path : DocumentPath) : List String :=
  if path.isEmpty then []
  else
    let present := ctx.namesPresent path
    ((ctx.elementsAt (ctx.correspondingPath path).names).filter fun element =>
      !present.contains element.name).map fun element => element.name.localName

/-- A required element that is absent. -/
def explainRequiredElement (ctx : Context) (error : ValidationError) : Diagnosis :=
  match error.element with
  | none => error.repeated
  | some element =>
    let path := ctx.documentPathAt element error.position
    let missing := if error.alternatives.isEmpty then ctx.absentNames path else error.alternatives.toList
    if missing.isEmpty then error.repeated
    else .saying (path.start error.position) .elementRequiredMissing [element.localName, ctx.listing missing]

end XmlDiagnostics.Context
