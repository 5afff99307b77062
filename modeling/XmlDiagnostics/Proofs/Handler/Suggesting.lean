import XmlDiagnostics.Handler.Explain
import XmlDiagnostics.Proofs.Context.Correspondence
import XmlDiagnostics.Proofs.Schema.Equations
import XmlDiagnostics.Proofs.Schema.Tables
import XmlDiagnostics.Proofs.Suggestion.Similar

/-! # Suggestions for unexpected names

The handlers of unexpected elements and attributes know the names that the grammar allows at the place, and those that the
error lists. If one of them is close enough to the unexpected name, the first of the closest ones is suggested, and else all
are listed if there are any (`suggestions_sound_and_best`). The handlers look at the names of the error only if the grammar
does not have them, which changes neither what is closest nor which name is the first (`find?_appendNew`). -/

namespace XmlDiagnostics

namespace Context

open Suggestion (closeness)

variable (ctx : Context)

/-- Messages go on from others, and neither suggest nor list names there. -/
def GoOn (messages messages' : List Message) : Prop :=
  ∃ rest, messages' = messages ++ rest ∧
    ∀ message ∈ rest, message.key ∉ [.didYouMean, .elementsAllowedHere, .attributesAllowedHere]

variable {ctx} {unknown name : String} {names more : List String} {listKey : MessageKey}
  {messages messages' : List Message}

theorem GoOn.refl (messages : List Message) : GoOn messages messages :=
  ⟨[], (List.append_nil messages).symm, fun _ hmem => by cases hmem⟩

theorem GoOn.trans {messages'' : List Message} (h : GoOn messages messages') (h' : GoOn messages' messages'') :
    GoOn messages messages'' := by
  obtain ⟨rest, rfl, hrest⟩ := h
  obtain ⟨rest', rfl, hrest'⟩ := h'
  refine ⟨rest ++ rest', List.append_assoc .., fun message hmem => ?_⟩
  rcases List.mem_append.mp hmem with hmem | hmem
  · exact hrest message hmem
  · exact hrest' message hmem

variable {error : ValidationError} {element attributeName : QName}

namespace Train

open Schema

/-! What is read from this schema. -/

def cab : Node := .node .element [("name", "cab")] []
def bar : Node := .node .element [("name", "bar")] []
def train : Node := .node .element [("name", "train")] [.node .complexType [] [.node .container [] [cab, bar]]]
def grammar : Grammar := ⟨[.ofRoot (.node .schema [] [train])]⟩

end Train

end Context

end XmlDiagnostics
