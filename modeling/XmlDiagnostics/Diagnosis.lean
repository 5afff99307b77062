import XmlDiagnostics.Message
import XmlDiagnostics.Position

/-! # Diagnoses

A diagnosis explains one validation error: where it is, what is wrong, what may help, and further
diagnoses at other places. -/

namespace XmlDiagnostics

/-- The explanation of a validation error. -/
structure Diagnosis where
  position : Position
  primary : Option Message
  secondary : List Message
  nested : List Diagnosis
  possiblyMalformed : Bool
deriving BEq, Repr

namespace Diagnosis

/-- Going through a list of diagnoses, one goes through those inside the first one and through the others. -/
@[elab_as_elim] theorem nested_induction {motive : List Diagnosis → Prop} (nil : motive [])
    (cons : ∀ (d : Diagnosis) (rest : List Diagnosis), motive d.nested → motive rest → motive (d :: rest)) :
    ∀ ds, motive ds
  | [] => nil
  | ⟨position, primary, secondary, nested, possiblyMalformed⟩ :: rest =>
    cons ⟨position, primary, secondary, nested, possiblyMalformed⟩ rest (nested_induction nil cons nested)
      (nested_induction nil cons rest)

/-- A diagnosis that says only where. -/
def located (position : Position) : Diagnosis := ⟨position, none, [], [], false⟩

instance : Inhabited Diagnosis := ⟨located .unknown⟩

/-- A diagnosis with a primary message. -/
def saying (position : Position) (key : MessageKey) (args : List String) : Diagnosis :=
  ⟨position, some ⟨key, args⟩, [], [], false⟩

/-- The diagnosis with another primary message. -/
def withPrimary (d : Diagnosis) (key : MessageKey) (args : List String) : Diagnosis :=
  { d with primary := some ⟨key, args⟩ }

/-- The diagnosis with one more message, after the others. -/
def addMessage (d : Diagnosis) (key : MessageKey) (args : List String) : Diagnosis :=
  { d with secondary := d.secondary ++ [⟨key, args⟩] }

/-- The diagnosis with one more diagnosis inside, after the others. -/
def addNested (d inner : Diagnosis) : Diagnosis := { d with nested := d.nested ++ [inner] }

/-- Say whether the error may come from a document that is not well-formed. -/
def mayBeMalformed (d : Diagnosis) (flag : Bool) : Diagnosis := { d with possiblyMalformed := flag }

/-- The texts of the messages of a diagnosis, the primary one first. -/
def render (catalog : MessageCatalog) (d : Diagnosis) : List String :=
  (d.primary.toList ++ d.secondary).map (Message.render catalog)

end Diagnosis

end XmlDiagnostics
