import Mathlib.Data.List.Induction
import Mathlib.Data.List.Nodup
import XmlDiagnostics.Attributes
import XmlDiagnostics.Proofs.Lookup

/-! # Attributes as pairs and as a map

Attributes are what their pairs set (`ofList_toList`), and what they have for a key does not depend on the order of
the pairs (`get?_ofList_of_perm`). Nothing but the pairs is set (`mem_of_mem_ofList`). -/

namespace XmlDiagnostics.Attributes

theorem setIn_of_not_mem {key value : String} {l : List (String × String)} (h : key ∉ l.map Prod.fst) :
    setIn key value l = l ++ [(key, value)] := by
  induction l with
  | nil => rfl
  | cons pair l ih =>
      obtain ⟨hne, hl⟩ := List.ne_and_not_mem_of_not_mem_cons h
      rw [setIn, if_neg hne.symm, ih hl]
      rfl

/-- Attributes are what their pairs set. -/
theorem ofList_toList (attributes : Attributes) : ofList attributes.toList = attributes := by
  have hset (l : List (String × String)) (before : Attributes) (h : ((before.toList ++ l).map Prod.fst).Nodup) :
      (l.foldl (fun attributes pair => attributes.set pair.1 pair.2) before).toList = before.toList ++ l := by
    induction l generalizing before with
    | nil => rw [List.foldl_nil, List.append_nil]
    | cons pair l ih =>
        have hkey : pair.1 ∉ before.toList.map Prod.fst := by
          rw [List.map_append, List.map_cons, List.nodup_middle, List.nodup_cons] at h
          exact fun hmem => h.1 (List.mem_append_left _ hmem)
        have hbefore : (before.set pair.1 pair.2).toList = before.toList ++ [pair] := setIn_of_not_mem hkey
        rw [List.foldl_cons, ih, hbefore, List.append_assoc]
        · rfl
        · rw [hbefore, List.append_assoc]
          exact h
  exact Attributes.ext (hset attributes.toList empty attributes.nodup)

/-- Pairs in another order set the same values. -/
theorem get?_ofList_of_perm {attributes : Attributes} {pairs : List (String × String)}
    (h : pairs.Perm attributes.toList) (key : String) : (ofList pairs).get? key = attributes.get? key := by
  have hnodup : (pairs.map Prod.fst).Nodup := (h.map Prod.fst).nodup_iff.mpr attributes.nodup
  rw [show ofList pairs = ⟨pairs, hnodup⟩ from ofList_toList ⟨pairs, hnodup⟩]
  exact lookup_of_perm h hnodup key

theorem mem_setIn {key value : String} {pair : String × String} {l : List (String × String)}
    (h : pair ∈ setIn key value l) : pair = (key, value) ∨ pair ∈ l := by
  induction l with
  | nil => exact .inl (List.mem_singleton.mp h)
  | cons first l ih =>
      obtain ⟨k, v⟩ := first
      rw [setIn] at h
      split at h
      · rename_i hkey
        rcases List.mem_cons.mp h with rfl | hmem
        · exact .inl (by rw [hkey])
        · exact .inr (List.mem_cons_of_mem _ hmem)
      · rcases List.mem_cons.mp h with rfl | hmem
        · exact .inr List.mem_cons_self
        · exact (ih hmem).imp_right (List.mem_cons_of_mem _)

/-- Nothing but the pairs is set. -/
theorem mem_of_mem_ofList {pair : String × String} {pairs : List (String × String)}
    (h : pair ∈ (ofList pairs).toList) : pair ∈ pairs := by
  induction pairs using List.reverseRecOn with
  | nil => exact h
  | append_singleton pairs last ih =>
      rw [ofList, List.foldl_concat, ← ofList] at h
      rcases mem_setIn h with rfl | hmem
      · exact List.mem_append_right _ List.mem_cons_self
      · exact List.mem_append_left _ (ih hmem)

end XmlDiagnostics.Attributes
