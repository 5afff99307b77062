import XmlDiagnostics.Handler.Basic

/-! # Errors about attributes -/

namespace XmlDiagnostics.Context

/-- Suggest one of the allowed names, or else list them, or else say that there are none. -/
def adviseAttribute (ctx : Context) (key : String) (element : QName) (known : Bool) (allowed : List String)
    (d : Diagnosis) : Diagnosis :=
  match ctx.suggestion key allowed with
  | some name => d.addMessage .didYouMean [name]
  | none =>
    if !allowed.isEmpty then d.addMessage .attributesAllowedHere [ctx.listing allowed]
    else if known then d.addMessage .elementHasNoAttributes [element.localName]
    else d

/-- The names of attributes that may stand on an element: those of the grammar, then those that the
validator listed. -/
def allowedAttributes (ctx : Context) (path : GrammarPath) (error : ValidationError) : List String :=
  appendNew (ctx.attributesAt path.names).toList error.alternatives.toList

/-- An attribute that the element does not accept. -/
def explainUnexpectedAttribute (ctx : Context) (error : ValidationError) : Diagnosis :=
  match error.element, error.attributeName with
  | some element, some attributeName =>
    let key := attributeName.localName
    let path := ctx.documentPathAt element error.position
    let grammarPath := ctx.correspondingPath path
    let d := (Diagnosis.saying (ctx.attributePosition path key error.position) .attributeNotAllowed
      [key, element.localName]).mayBeMalformed true
    let d := ctx.adviseAttribute key element (!grammarPath.isEmpty) (ctx.allowedAttributes grammarPath error) d
    let elsewhere := (ctx.alternativesForAttribute key).map GrammarPath.display
    if elsewhere.isEmpty then d else d.addMessage .attributeIsAllowedOn [key, ctx.listing elsewhere]
  | _, _ => error.repeated.mayBeMalformed true

/-- The second place in a start tag where an attribute is written, or the first; the tag is the one that
begins last at or before a position. -/
def duplicatePosition (ctx : Context) (pattern : Pattern) (position : Position) : Position :=
  let start := (ctx.searchBackFrom position tagPattern).getD position
  match ctx.searchFrom start pattern with
  | none => position
  | some first => (ctx.searchFrom first.nextColumn pattern).getD first

/-- An attribute that a start tag has twice. -/
def explainDuplicateAttribute (ctx : Context) (error : ValidationError) : Diagnosis :=
  match error.attributeName with
  | none => error.repeated
  | some attributeName =>
    match attributePattern? attributeName.localName with
    | none => error.repeated
    | some pattern =>
      .saying (ctx.duplicatePosition pattern error.position) .attributeDuplicated [attributeName.localName]

/-- A required attribute that is absent. -/
def explainRequiredAttribute (ctx : Context) (error : ValidationError) : Diagnosis :=
  match error.element with
  | none => error.repeated
  | some element =>
    let start := (ctx.documentPathAt element error.position).start error.position
    match error.attributeName with
    | some attributeName =>
      .saying start .attributeRequiredMissing [element.localName, attributeName.localName]
    | none =>
      if error.alternatives.isEmpty then error.repeated
      else .saying start .attributeRequiredMissingList
        [element.localName, ctx.listing error.alternatives.toList]

/-- A value that an attribute cannot have: the one that the validator named, or else the one in the
document. -/
def explainInvalidValue (ctx : Context) (error : ValidationError) : Diagnosis :=
  match error.attributeName with
  | none => error.repeated
  | some attributeName =>
    let key := attributeName.localName
    let path := match error.element with
      | some element => ctx.documentPathAt element error.position
      | none => []
    match error.attributeValue.or (path.getLast?.bind fun element => element.attribute? key) with
    | none => error.repeated
    | some value =>
      let d := Diagnosis.saying (ctx.attributePosition path key error.position) .attributeInvalidValue
        [value, key]
      match ctx.suggestion value error.alternatives.toList with
      | some name => d.addMessage .didYouMean [name]
      | none => d

end XmlDiagnostics.Context
