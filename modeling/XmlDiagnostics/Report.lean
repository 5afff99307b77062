import XmlDiagnostics.Context.Basic
import XmlDiagnostics.Diagnosis

/-! # Reports

A report is the text of a diagnosis: a heading, then a block for the diagnosis and one for each inside
it, indented by depth. A block gives the messages, the first of them with the position, and the line of
the document with a mark under the column. -/

namespace XmlDiagnostics

namespace Report

/-- Two spaces for every level. -/
def indent (depth : Nat) : List Char := List.replicate (2 * depth) ' '

/-- What stands in front of a caret under a column: a tab for a tab and a space for anything else. -/
def pad (column : Nat) (line : List Char) : List Char :=
  (line.take column).map fun c => if c = '\t' then '\t' else ' '

/-- The line of a document that a position names, and a line with a caret under its column. -/
def excerpt? (ctx : Context) (position : Position) : Option (List Char × List Char) := do
  let (line, column) ← position.counts?
  let text ← (ctx.extractLines line (line + 1)).head?
  return (text, pad column text ++ ['^'])

/-- The text in front of the first message of a diagnosis at a position. -/
def location (position : Position) : List Char :=
  if position.isKnown then (position.display ++ ": ").toList else []

/-- The lines of the messages of a diagnosis: the first one with the position, the others indented
further. -/
def messageLines (depth : Nat) (position : Position) : List String → List (List Char)
  | [] => []
  | first :: rest =>
    (indent depth ++ location position ++ first.toList)
      :: rest.map fun message => indent (depth + 1) ++ message.toList

/-- The lines of an excerpt. -/
def excerptLines (depth : Nat) (excerpt : Option (List Char × List Char)) : List (List Char) :=
  match excerpt with
  | some (line, caret) => [indent depth ++ ['|', ' '] ++ line, indent depth ++ ['|', ' '] ++ caret]
  | none => []

mutual

/-- The lines of a diagnosis and of those inside it. -/
def blockLines (ctx : Context) (catalog : MessageCatalog) (depth : Nat) : Diagnosis → List (List Char)
  | ⟨position, primary, secondary, nested, _⟩ =>
    messageLines depth position ((primary.toList ++ secondary).map (Message.render catalog))
      ++ excerptLines depth (excerpt? ctx position)
      ++ nestedLines ctx catalog (depth + 1) nested

/-- The lines of several diagnoses. -/
def nestedLines (ctx : Context) (catalog : MessageCatalog) (depth : Nat) :
    List Diagnosis → List (List Char)
  | [] => []
  | d :: rest => blockLines ctx catalog depth d ++ nestedLines ctx catalog depth rest

end

/-- The heading of a report. -/
def heading (ctx : Context) (catalog : MessageCatalog) : List Char :=
  (catalog.format .validationErrorIn [ctx.name]).toList

/-- The lines of a report. -/
def lines (ctx : Context) (catalog : MessageCatalog) (d : Diagnosis) : List (List Char) :=
  heading ctx catalog :: blockLines ctx catalog 1 d

/-- The text of a report; every line ends with a line feed. -/
def render (ctx : Context) (catalog : MessageCatalog) (d : Diagnosis) : String :=
  String.ofList ((lines ctx catalog d).flatMap fun line => line ++ ['\n'])

/-- Write a report and tell whether that succeeded. -/
def print {m : Type → Type} [Monad m] (write : String → m (Except Error Unit)) (ctx : Context)
    (catalog : MessageCatalog) (d : Diagnosis) : m Bool := do
  return (← write (render ctx catalog d)).isOk

end Report

end XmlDiagnostics
