import XmlDiagnostics.Handler.Attribute
import XmlDiagnostics.Handler.Element

/-! # Explaining errors

The handler that a context has for the kind of an error explains it; an error without handler is passed
on as it is. If the error may come from a document that is not well-formed, and the document is not, the
diagnosis also tells where that is. -/

namespace XmlDiagnostics

/-- Pass the message of the validator on. -/
def ValidationError.passedOn (error : ValidationError) : Diagnosis :=
  (Diagnosis.saying error.position .passthru [error.displayMessage]).mayBeMalformed true

/-- The diagnosis of a handler. -/
def Handler.explain (handler : Handler) (ctx : Context) (error : ValidationError) : Diagnosis :=
  match handler with
  | note text => .saying error.position .passthru [text]
  | builtin .unexpectedElement => ctx.explainUnexpectedElement error
  | builtin .unexpectedAttribute => ctx.explainUnexpectedAttribute error
  | builtin .duplicateElement => ctx.explainDuplicateElement error
  | builtin .duplicateAttribute => ctx.explainDuplicateAttribute error
  | builtin .requiredAttributeMissing => ctx.explainRequiredAttribute error
  | builtin .requiredElementMissing => ctx.explainRequiredElement error
  | builtin .invalidAttributeValue => ctx.explainInvalidValue error
  | builtin .unknownError => error.passedOn

/-- The diagnosis of the handler for the kind of an error. -/
def Registry.explain (registry : Registry) (ctx : Context) (error : ValidationError) : Diagnosis :=
  match registry.get? error.kind with
  | some handler => handler.explain ctx error
  | none => error.passedOn

/-- A text without the period at its end. -/
def withoutPeriod (text : String) : String :=
  if text.toList.getLast? = some '.' then String.ofList text.toList.dropLast else text

namespace Context

/-- Tell where a document is not well-formed, if that may matter. -/
def withFailure (ctx : Context) (d : Diagnosis) : Diagnosis :=
  match d.possiblyMalformed, ctx.document.failure with
  | true, some failure =>
    (d.addMessage .malformedXml [ctx.name]).addNested
      (.saying failure.position .passthru [withoutPeriod failure.message])
  | _, _ => d

/-- The diagnosis of an error. -/
def handle (ctx : Context) (error : ValidationError) : Diagnosis :=
  ctx.withFailure (ctx.registry.explain ctx error)

/-- The diagnosis of an error is that of the handler for its kind. -/
theorem handle_of_handler {ctx : Context} {error : ValidationError} {handler : Handler}
    (h : ctx.registry.get? error.kind = some handler) : ctx.handle error = ctx.withFailure (handler.explain ctx error) := by
  rw [handle, Registry.explain, h]

/-- What does not come from the form of the document stays as it is. -/
theorem withFailure_of_not_possiblyMalformed {ctx : Context} {d : Diagnosis} (h : d.possiblyMalformed = false) :
    ctx.withFailure d = d := by
  rw [withFailure, h]

/-! ### When the grammar is asked for -/

/-- The questions to a context, as far as it matters whether the grammar is needed. -/
inductive Question where
  /-- about the document alone -/
  | document
  /-- about the grammar -/
  | grammar
  /-- for what corresponds to a document path -/
  | correspondence (path : DocumentPath)
  /-- for the siblings of a grammar path -/
  | grammarSiblings (path : List QName)
  /-- for the diagnosis of an error -/
  | explanation (error : ValidationError)

/-- Whether a built-in handler needs the grammar for an error. -/
def handlerNeedsGrammar (ctx : Context) (error : ValidationError) : ErrorKind → Bool
  | .unexpectedElement => error.element.isSome
  | .unexpectedAttribute => error.element.isSome && error.attributeName.isSome
  | .requiredElementMissing =>
    error.alternatives.isEmpty
      && error.element.any fun element => !(ctx.documentPathAt element error.position).isEmpty
  | _ => false

/-- Whether a question needs the grammar. -/
def needsGrammar (ctx : Context) : Question → Bool
  | .document => false
  | .grammar => true
  | .correspondence path => !path.isEmpty
  | .grammarSiblings path => !path.isEmpty
  | .explanation error =>
    match ctx.registry.get? error.kind with
    | some (.builtin kind) => ctx.handlerNeedsGrammar error kind
    | _ => false

end Context

end XmlDiagnostics
