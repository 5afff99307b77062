/-! # Structured data

The values of a data format: null, truth values, numbers, strings, lists, and objects with named
fields. Codecs for the types of the library are built from the readers here. -/

namespace XmlDiagnostics

/-- A structured value. A number that is written with a fraction is kept apart from the integers,
whatever its value. -/
inductive Data where
  | null
  | bool (value : Bool)
  | int (value : Int)
  | decimal (mantissa : Int) (exponent : Nat)
  | string (value : String)
  | list (items : List Data)
  | object (fields : List (String × Data))
deriving BEq, Repr, Inhabited

namespace Data

/-- The value of a field of an object. -/
def field? (name : String) : Data → Option Data
  | object fields => fields.lookup name
  | _ => none

/-- A truth value. -/
def asBool? : Data → Option Bool
  | bool value => some value
  | _ => none

/-- A string. -/
def asString? : Data → Option String
  | string value => some value
  | _ => none

/-- A list of values. -/
def asList? : Data → Option (List Data)
  | list items => some items
  | _ => none

/-- An integer between two bounds. -/
def asIntIn? (low high : Int) : Data → Option Int
  | int value => if low ≤ value ∧ value ≤ high then some value else none
  | _ => none

/-- A natural number of at most 64 bits. -/
def asCount? (d : Data) : Option Nat := (d.asIntIn? 0 18446744073709551615).map Int.toNat

/-- A list of strings. -/
def asStrings? (d : Data) : Option (List String) := do (← d.asList?).mapM asString?

/-- A value that may be absent: null, or one that `read` reads. -/
def asOptional? {α : Type} (read : Data → Option α) : Data → Option (Option α)
  | null => some none
  | d => (read d).map some

/-- Read a field that has to be there. -/
def required? {α : Type} (name : String) (read : Data → Option α) (d : Data) : Option α := do
  read (← d.field? name)

/-- Read a field that may be left out or null. -/
def optional? {α : Type} (name : String) (read : Data → Option α) (d : Data) : Option (Option α) :=
  match d.field? name with
  | none => some none
  | some value => value.asOptional? read

/-- Read a field that has a default when it is left out. -/
def defaulted? {α : Type} (name : String) (default : α) (read : Data → Option α) (d : Data) :
    Option α :=
  match d.field? name with
  | none => some default
  | some value => read value

/-- The name of a constant: a string, or an object with that one key and null. -/
def asName? : Data → Option String
  | string name => some name
  | object [(name, null)] => some name
  | _ => none

/-- Whether a value is an object. -/
def isObject : Data → Bool
  | object _ => true
  | _ => false

/-- The value of a list, or null. -/
def ofOption {α : Type} (write : α → Data) : Option α → Data
  | none => null
  | some value => write value

/-- A list of strings. -/
def ofStrings (values : List String) : Data := list (values.map string)

theorem sizeOf_lt_of_lookup {name : String} {value : Data} {fields : List (String × Data)}
    (h : fields.lookup name = some value) : sizeOf value < sizeOf fields := by
  induction fields with
  | nil => simp at h
  | cons field rest ih =>
    obtain ⟨key, v⟩ := field
    rw [List.lookup_cons] at h
    split at h
    · cases h; simp; omega
    · have := ih h; simp; omega

theorem sizeOf_lt_of_field? {name : String} {d value : Data} (h : d.field? name = some value) :
    sizeOf value < sizeOf d := by
  cases d with
  | object fields => have := sizeOf_lt_of_lookup h; simp; omega
  | _ => simp [field?] at h

end Data

end XmlDiagnostics
