import Mathlib.Data.List.Forall2
import XmlDiagnostics.Data.Basic
import XmlDiagnostics.Proofs.Lookup

/-! # Variants of a written form

Data that a type writes may be changed without loss: an object may get fields that it has no meaning for, its fields
may be put in another order, and a field may be left out that holds null or a default (`Variant`). From then on, what
a reader of a field finds in the variant follows from what it finds in the variants of the field
(`Variant.required?`, `Variant.optional?`, `Variant.defaulted?`). -/

namespace XmlDiagnostics.Data

variable {α : Type}

/-- An object has one field with this name, with this value. -/
def HasOnce (fields : List (String × Data)) (name : String) (value : Data) : Prop :=
  fields.filter (fun field => field.1 == name) = [(name, value)]

/-- Whether a field holds a map, an object whose keys are data: the attributes of a document element. -/
def isMap (field : String × Data) : Bool := field.1 = "attributes" && field.2.isObject

mutual

/-- The second data are a variant of the first, where fields that are in `defaults` may be left out. -/
inductive Variant (defaults : List (String × Data)) : Data → Data → Prop
  | same {d} : Variant defaults d d
  | list {items items'} : List.Forall₂ (Variant defaults) items items' → Variant defaults (.list items) (.list items')
  | object {fields fields'} : (∀ field ∈ fields, FieldVariant defaults fields' field) →
      Variant defaults (.object fields) (.object fields')

/-- What becomes of a field in the variant of its object. Other fields of the variant may be there or not. -/
inductive FieldVariant (defaults : List (String × Data)) : List (String × Data) → String × Data → Prop
  | kept {fields' name value value'} : isMap (name, value) = false → HasOnce fields' name value' →
      Variant defaults value value' → FieldVariant defaults fields' (name, value)
  | map {fields' name entries entries'} : isMap (name, .object entries) → HasOnce fields' name (.object entries') →
      entries'.Perm entries → FieldVariant defaults fields' (name, .object entries)
  | omitted {fields' name value} : value = .null ∨ (name, value) ∈ defaults → name ∉ fields'.map Prod.fst →
      FieldVariant defaults fields' (name, value)

end

/-! ### What the fields of a variant hold -/

theorem HasOnce.lookup {fields : List (String × Data)} {name : String} {value : Data} (h : HasOnce fields name value) :
    fields.lookup name = some value := by
  rw [← lookup_filter_key, h]
  simp

variable {defaults : List (String × Data)} {d d' value : Data} {name : String}

theorem Variant.isObject (h : Variant defaults d d') : d'.isObject = d.isObject := by
  cases h <;> rfl

theorem Variant.ne_null (h : Variant defaults d d') (hd : d ≠ null) : d' ≠ null := by
  cases h with
  | same => exact hd
  | list => simp
  | object => simp

/-- A list has variants of its items. -/
theorem Variant.exists_list {items : List Data} (h : Variant defaults (.list items) d') :
    ∃ items', d' = .list items' ∧ List.Forall₂ (Variant defaults) items items' := by
  cases h with
  | same => exact ⟨items, rfl, List.forall₂_same.mpr fun _ _ => .same⟩
  | list hitems => exact ⟨_, rfl, hitems⟩

/-- A field that is no map is there with a variant of its value, or it may be left out. -/
theorem Variant.field? (name : String) (h : Variant defaults d d') (hfield : d.field? name = some value)
    (hmap : isMap (name, value) = false) :
    (∃ value', d'.field? name = some value' ∧ Variant defaults value value') ∨
      ((value = null ∨ (name, value) ∈ defaults) ∧ d'.field? name = none) := by
  cases h with
  | same => exact .inl ⟨value, hfield, .same⟩
  | list => cases hfield
  | object hfields =>
      cases hfields _ (mem_of_lookup_eq_some hfield) with
      | kept _ honce hvalue => exact .inl ⟨_, honce.lookup, hvalue⟩
      | map hismap =>
          rw [hmap] at hismap
          cases hismap
      | omitted hmay hnone =>
          refine .inr ⟨hmay, List.lookup_eq_none_iff.mpr fun field hmem => bne_iff_ne.mpr ?_⟩
          rintro rfl
          exact hnone (List.mem_map_of_mem hmem)

/-- A map is there with its entries in some order, where there are no defaults. -/
theorem Variant.mapField? (name : String) {entries : List (String × Data)} (h : Variant [] d d')
    (hfield : d.field? name = some (.object entries)) (hmap : isMap (name, Data.object entries)) :
    ∃ entries', d'.field? name = some (.object entries') ∧ entries'.Perm entries := by
  cases h with
  | same => exact ⟨entries, hfield, .refl _⟩
  | list => cases hfield
  | object hfields =>
      cases hfields _ (mem_of_lookup_eq_some hfield) with
      | kept hnomap =>
          rw [hmap] at hnomap
          cases hnomap
      | map _ honce hperm => exact ⟨_, honce.lookup, hperm⟩
      | omitted hmay => simp at hmay

/-! ### Reading the fields of a variant -/

theorem Variant.required? {read : Data → Option α} {a : α} (h : Variant [] d d')
    (hfield : d.field? name = some value) (hmap : isMap (name, value) = false) (hnull : value ≠ null)
    (hread : ∀ value', Variant [] value value' → read value' = some a) : d'.required? name read = some a := by
  rcases h.field? name hfield hmap with ⟨value', hvalue, hvariant⟩ | ⟨hmay, -⟩
  · unfold Data.required?
    rw [hvalue]
    exact hread value' hvariant
  · exact absurd (hmay.resolve_right List.not_mem_nil) hnull

theorem asOptional?_of_ne_null {read : Data → Option α} (h : d ≠ null) : d.asOptional? read = (read d).map some := by
  cases d with
  | null => exact absurd rfl h
  | _ => rfl

theorem Variant.optional? {read : Data → Option α} {write : α → Data} {a? : Option α} (h : Variant [] d d')
    (hfield : d.field? name = some (ofOption write a?)) (hmap : isMap (name, ofOption write a?) = false)
    (hnull : ∀ a, write a ≠ null) (hread : ∀ a value', Variant [] (write a) value' → read value' = some a) :
    d'.optional? name read = some a? := by
  unfold Data.optional?
  cases a? with
  | none =>
      rcases h.field? name hfield hmap with ⟨value', hvalue, hvariant⟩ | ⟨-, hnone⟩
      · rw [hvalue]
        cases hvariant
        rfl
      · rw [hnone]
  | some a =>
      rcases h.field? name hfield hmap with ⟨value', hvalue, hvariant⟩ | ⟨hmay, -⟩
      · rw [hvalue]
        show value'.asOptional? read = some (some a)
        rw [asOptional?_of_ne_null (hvariant.ne_null (hnull a)), hread a value' hvariant]
        rfl
      · exact absurd (hmay.resolve_right List.not_mem_nil) (hnull a)

theorem Variant.defaulted? {read : Data → Option α} {a default : α} (h : Variant defaults d d')
    (hfield : d.field? name = some value) (hmap : isMap (name, value) = false) (hnull : value ≠ null)
    (hdefault : (name, value) ∈ defaults → a = default)
    (hread : ∀ value', Variant defaults value value' → read value' = some a) :
    d'.defaulted? name default read = some a := by
  unfold Data.defaulted?
  rcases h.field? name hfield hmap with ⟨value', hvalue, hvariant⟩ | ⟨hmay, hnone⟩
  · rw [hvalue]
    exact hread value' hvariant
  · rw [hnone, hdefault (hmay.resolve_left hnull)]

/-- Items that are read each are read as a list. -/
theorem mapM_of_forall₂ {read : Data → Option α} {write : α → Data} {l : List α} {items : List Data}
    (h : List.Forall₂ (Variant defaults) (l.map write) items)
    (hread : ∀ a ∈ l, ∀ item, Variant defaults (write a) item → read item = some a) : items.mapM read = some l := by
  induction l generalizing items with
  | nil =>
      cases h
      rfl
  | cons a l ih =>
      obtain ⟨item, items, hitem, hitems, rfl⟩ := List.forall₂_cons_left_iff.mp h
      have hfirst := hread a List.mem_cons_self item hitem
      have hothers := ih hitems fun b hb => hread b (List.mem_cons_of_mem _ hb)
      rw [List.mapM_cons, hfirst, hothers]
      rfl

end XmlDiagnostics.Data
