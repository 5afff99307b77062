/-! # Attributes in document order

The attributes of an element are pairs of a key and a value in the order in which the keys first
appear; no key occurs twice. Setting a key again keeps its place and replaces its value. -/

namespace XmlDiagnostics

/-- Keys with their values, in order, every key once. -/
structure Attributes where
  toList : List (String × String)
  nodup : (toList.map Prod.fst).Nodup
deriving DecidableEq

namespace Attributes

@[ext] theorem ext {a b : Attributes} (h : a.toList = b.toList) : a = b := by
  cases a; cases b; cases h; rfl

/-- No attributes. -/
def empty : Attributes := ⟨[], .nil⟩

instance : EmptyCollection Attributes := ⟨empty⟩

instance : Inhabited Attributes := ⟨empty⟩

/-- Set a key in a list of pairs: in its place if it is there, else at the end. -/
def setIn (key value : String) : List (String × String) → List (String × String)
  | [] => [(key, value)]
  | (k, v) :: rest => if k = key then (k, value) :: rest else (k, v) :: setIn key value rest

theorem mem_keys_setIn {key value k : String} {l : List (String × String)} :
    k ∈ (setIn key value l).map Prod.fst ↔ k = key ∨ k ∈ l.map Prod.fst := by
  induction l with
  | nil => simp [setIn]
  | cons p rest ih => grind [setIn]

theorem nodup_keys_setIn {key value : String} {l : List (String × String)}
    (h : (l.map Prod.fst).Nodup) : ((setIn key value l).map Prod.fst).Nodup := by
  induction l with
  | nil => simp [setIn]
  | cons p rest ih =>
    obtain ⟨k, v⟩ := p
    obtain ⟨hk, hrest⟩ := List.nodup_cons.mp h
    by_cases hkey : k = key
    · simpa [setIn, hkey] using h
    · simp only [setIn, if_neg hkey, List.map_cons, List.nodup_cons]
      refine ⟨fun hmem => ?_, ih hrest⟩
      rcases mem_keys_setIn.mp hmem with hEq | hmem
      · exact hkey hEq
      · exact hk hmem

/-- Set the value of a key. -/
def set (attributes : Attributes) (key value : String) : Attributes :=
  ⟨setIn key value attributes.toList, nodup_keys_setIn attributes.nodup⟩

/-- The attributes that a list of pairs sets one after the other. -/
def ofList (pairs : List (String × String)) : Attributes :=
  pairs.foldl (fun attributes pair => attributes.set pair.1 pair.2) empty

/-- The value of a key. -/
def get? (attributes : Attributes) (key : String) : Option String := attributes.toList.lookup key

/-- The keys in order. -/
def keys (attributes : Attributes) : List String := attributes.toList.map Prod.fst

end Attributes

end XmlDiagnostics
