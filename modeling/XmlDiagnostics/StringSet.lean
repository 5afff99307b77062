/-! # Sorted sets of strings

A set of strings is kept as its members in increasing order, each once, so that two sets with the
same members are equal. The main statements say that the list of a set has exactly the members put
into it (`mem_insert`, `mem_ofList`) and that listing and collecting undo each other
(`ofList_toList`). -/

namespace XmlDiagnostics

/-- A finite set of strings, listed in increasing order. -/
structure StringSet where
  toList : List String
  sorted : toList.Pairwise (· < ·)
deriving DecidableEq

namespace StringSet

@[ext] theorem ext {s t : StringSet} (h : s.toList = t.toList) : s = t := by
  cases s; cases t; cases h; rfl

/-- The set without members. -/
def empty : StringSet := ⟨[], .nil⟩

instance : EmptyCollection StringSet := ⟨empty⟩

instance : Inhabited StringSet := ⟨empty⟩

/-- Put a string into an increasing list, once. -/
def insertSorted (s : String) : List String → List String
  | [] => [s]
  | t :: rest => if s < t then s :: t :: rest else if s = t then t :: rest else t :: insertSorted s rest

theorem mem_insertSorted {a s : String} {l : List String} :
    a ∈ insertSorted s l ↔ a = s ∨ a ∈ l := by
  induction l with
  | nil => simp [insertSorted]
  | cons t rest ih => grind [insertSorted]

theorem lt_of_not_lt_of_ne {s t : String} (h : ¬s < t) (hne : s ≠ t) : t < s := by
  rcases String.le_total s t with hle | hle
  · exact absurd (String.le_antisymm hle (String.not_lt.mp h)) hne
  · exact String.not_le.mp fun hst => hne (String.le_antisymm hst hle)

theorem pairwise_insertSorted {s : String} {l : List String} (h : l.Pairwise (· < ·)) :
    (insertSorted s l).Pairwise (· < ·) := by
  induction l with
  | nil => simp [insertSorted]
  | cons t rest ih =>
    obtain ⟨ht, hrest⟩ := List.pairwise_cons.mp h
    unfold insertSorted
    split
    · rename_i hlt
      refine List.pairwise_cons.mpr ⟨fun a ha => ?_, h⟩
      rcases List.mem_cons.mp ha with rfl | ha
      · exact hlt
      · exact String.lt_trans hlt (ht a ha)
    · split
      · exact h
      · rename_i hnlt hne
        refine List.pairwise_cons.mpr ⟨fun a ha => ?_, ih hrest⟩
        rcases mem_insertSorted.mp ha with rfl | ha
        · exact lt_of_not_lt_of_ne hnlt hne
        · exact ht a ha

/-- The set with one more member. -/
def insert (set : StringSet) (s : String) : StringSet :=
  ⟨insertSorted s set.toList, pairwise_insertSorted set.sorted⟩

/-- The set of the members of a list. -/
def ofList (l : List String) : StringSet := l.foldr (fun s set => set.insert s) empty

instance : Membership String StringSet := ⟨fun set s => s ∈ set.toList⟩

instance (s : String) (set : StringSet) : Decidable (s ∈ set) :=
  inferInstanceAs (Decidable (s ∈ set.toList))

/-- Whether a string is a member. -/
def contains (set : StringSet) (s : String) : Bool := set.toList.contains s

/-- Whether a set has no member. -/
def isEmpty (set : StringSet) : Bool := set.toList.isEmpty

theorem mem_insert {set : StringSet} {a s : String} : a ∈ set.insert s ↔ a = s ∨ a ∈ set :=
  mem_insertSorted

theorem mem_ofList {l : List String} {a : String} : a ∈ ofList l ↔ a ∈ l := by
  induction l with
  | nil => exact Iff.rfl
  | cons s rest ih =>
    rw [List.mem_cons, ← ih]
    exact mem_insert

theorem insertSorted_of_lt {s : String} {l : List String} (h : ∀ t ∈ l, s < t) :
    insertSorted s l = s :: l := by
  cases l with
  | nil => rfl
  | cons t rest => simp [insertSorted, h t List.mem_cons_self]

theorem ofList_toList (set : StringSet) : ofList set.toList = set := by
  obtain ⟨l, hl⟩ := set
  apply ext
  induction l with
  | nil => rfl
  | cons s rest ih =>
    obtain ⟨hs, hrest⟩ := List.pairwise_cons.mp hl
    have hrec : (ofList rest).toList = rest := ih hrest
    show insertSorted s (ofList rest).toList = s :: rest
    rw [hrec, insertSorted_of_lt hs]

end StringSet

end XmlDiagnostics
