import Mathlib.Data.List.Nodup

/-! # Looking up keys in lists of pairs

What a look-up finds in lists that are put together, and what is left of distinct keys when some are used. -/

namespace XmlDiagnostics

variable {α β κ : Type} [BEq κ]

/-- In lists of pairs one after the other, a look-up finds what the first list with the key has for it. -/
theorem lookup_flatMap (f : α → List (κ × β)) (key : κ) (l : List α) :
    (l.flatMap f).lookup key = l.findSome? fun a => (f a).lookup key := by
  induction l with
  | nil => rfl
  | cons a l ih =>
      rw [List.flatMap_cons, List.lookup_append, ih, List.findSome?_cons]
      cases (f a).lookup key <;> rfl

/-- Where the values of pairs are replaced, a look-up finds what the value found is replaced by. -/
theorem lookup_map (f : α → β) (key : κ) (l : List (κ × α)) :
    (l.map fun entry => (entry.1, f entry.2)).lookup key = (l.lookup key).map f := by
  induction l with
  | nil => rfl
  | cons entry l ih =>
      rw [List.map_cons, List.lookup_cons, List.lookup_cons, ih]
      cases key == entry.1 <;> rfl

variable [LawfulBEq κ]

/-- In pairs that are picked from a list, a look-up finds what is picked for the first one with the key. -/
theorem lookup_filterMap (key? : α → Option κ) (value : α → β) (key : κ) (l : List α) :
    (l.filterMap fun a => (key? a).map (·, value a)).lookup key = (l.find? fun a => key? a == some key).map value := by
  induction l with
  | nil => rfl
  | cons a l ih =>
      rw [List.find?_cons]
      cases hkey : key? a with
      | none =>
          rw [List.filterMap_cons_none (by rw [hkey]; rfl), ih]
          rfl
      | some key' =>
          rw [List.filterMap_cons_some (by rw [hkey]; rfl), List.lookup_cons]
          by_cases hsame : key = key'
          · simp [hsame]
          · have hkeys : (key == key') = false := beq_false_of_ne hsame
            have hsome' : (some key' == some key) = false := beq_false_of_ne fun h => hsame (Option.some.inj h).symm
            rw [hkeys, hsome', ih]

theorem mem_of_lookup_eq_some {l : List (κ × β)} {key : κ} {value : β} (h : l.lookup key = some value) :
    (key, value) ∈ l := by
  obtain ⟨before, after, rfl, -⟩ := List.lookup_eq_some_iff.mp h
  exact List.mem_append_right _ List.mem_cons_self

theorem lookup_filter_key (key : κ) (l : List (κ × β)) :
    (l.filter fun entry => entry.1 == key).lookup key = l.lookup key := by
  induction l with
  | nil => rfl
  | cons entry l ih =>
      obtain ⟨key', value⟩ := entry
      by_cases hkey : key = key'
      · simp [hkey]
      · have hne : (key == key') = false := beq_false_of_ne hkey
        have hne' : (key' == key) = false := beq_false_of_ne (Ne.symm hkey)
        simp [List.lookup_cons, hne, hne', ih]

/-- Among distinct keys a look-up finds the pairs of the list. -/
theorem lookup_eq_some_iff_mem {l : List (κ × β)} (hnodup : (l.map Prod.fst).Nodup) {key : κ} {value : β} :
    l.lookup key = some value ↔ (key, value) ∈ l := by
  refine ⟨mem_of_lookup_eq_some, fun hmem => ?_⟩
  obtain ⟨before, after, rfl⟩ := List.append_of_mem hmem
  rw [List.map_append, List.map_cons, List.nodup_middle, List.nodup_cons] at hnodup
  refine List.lookup_eq_some_iff.mpr ⟨before, after, rfl, fun entry hentry => bne_iff_ne.mpr ?_⟩
  intro heq
  refine hnodup.1 (List.mem_append_left _ ?_)
  show key ∈ _
  rw [heq]
  exact List.mem_map_of_mem hentry

/-- Among distinct keys a look-up does not depend on the order. -/
theorem lookup_of_perm {l l' : List (κ × β)} (h : l.Perm l') (hnodup : (l.map Prod.fst).Nodup) (key : κ) :
    l.lookup key = l'.lookup key := by
  have hnodup' : (l'.map Prod.fst).Nodup := (h.map Prod.fst).nodup_iff.mp hnodup
  refine Option.ext fun value => ?_
  rw [lookup_eq_some_iff_mem hnodup, lookup_eq_some_iff_mem hnodup', h.mem_iff]

theorem nodup_eraseDups : ∀ l : List κ, l.eraseDups.Nodup
  | [] => List.nodup_nil
  | a :: l => by
      have hlength := List.length_filter_le (fun b => !b == a) l
      rw [List.eraseDups_cons, List.nodup_cons]
      refine ⟨fun hmem => ?_, nodup_eraseDups _⟩
      have hne := (List.mem_filter.mp (List.mem_eraseDups.mp hmem)).2
      simp at hne
termination_by l => l.length

/-- Of distinct keys, to take one out of those that are left is to use it. -/
theorem erase_filter_not_mem {α : Type} [DecidableEq α] {keys : List α} (hnodup : keys.Nodup) (used : List α)
    (key : α) :
    (keys.filter fun a => a ∉ used).erase key = keys.filter fun a => a ∉ key :: used := by
  rw [(hnodup.filter _).erase_eq_filter, List.filter_filter]
  refine List.filter_congr fun a _ => ?_
  by_cases ha : a = key <;> simp [ha]

/-- Where keys are distinct, the first entry with a key is the last one. -/
theorem find?_reverse_of_nodup {α γ : Type} [DecidableEq γ] {f : α → γ} {l : List α} (hnodup : (l.map f).Nodup) (key : γ) :
    (l.reverse.find? fun a => f a = key) = l.find? fun a => f a = key := by
  cases hfind : l.find? fun a => decide (f a = key) with
  | none =>
      rw [List.find?_eq_none] at hfind ⊢
      exact fun a ha => hfind a (List.mem_reverse.mp ha)
  | some a =>
      obtain ⟨ha, before, after, rfl, -⟩ := List.find?_eq_some_iff_append.mp hfind
      rw [List.map_append, List.map_cons, List.nodup_middle, List.nodup_cons] at hnodup
      refine List.find?_eq_some_iff_append.mpr ⟨ha, after.reverse, before.reverse, by simp, fun b hb => ?_⟩
      have hne : f b ≠ f a := fun heq => hnodup.1 (List.mem_append_right _ (List.mem_map.mpr ⟨b, List.mem_reverse.mp hb, heq⟩))
      simpa [of_decide_eq_true ha] using hne

end XmlDiagnostics
