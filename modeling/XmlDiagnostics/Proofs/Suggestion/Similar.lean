import XmlDiagnostics.Proofs.Suggestion.EditDistance

/-! # Which name is suggested

The name suggested for an unknown one is the first of the candidates closest to it, and there is none just if no candidate
qualifies (`suggestSimilar_eq_some_iff`, `suggestSimilar_eq_none_iff`). A candidate that is at least as close as
one that qualifies also does, so the choice among those that qualify is one among all. How it depends on the
other candidates follows: only closer ones change it (`suggestSimilar_choice`). -/

namespace XmlDiagnostics

namespace Suggestion

/-- A name is the first of the candidates that are closest to an unknown one. -/
structure FirstClosest (unknown : String) (candidates : List String) (name : String) : Prop where
  least : ∀ other ∈ candidates, closeness unknown name ≤ closeness unknown other
  first : candidates.find? (fun other => closeness unknown other ≤ closeness unknown name) = some name

variable {unknown name : String} {candidates : List String} {maxDistance : Nat}

theorem qualifies_iff {distance : Nat} :
    qualifies unknown maxDistance distance = true ↔ distance ≤ maxDistance ∧ distance < max unknown.length 1 := by
  rw [qualifies, Bool.and_eq_true, decide_eq_true_iff, decide_eq_true_iff]

theorem qualifies_of_le {n m : Nat} (hle : n ≤ m) (h : qualifies unknown maxDistance m = true) :
    qualifies unknown maxDistance n = true := by
  rw [qualifies_iff] at h ⊢
  omega

/-! ### The choice -/

theorem firstLeast_eq_none_iff {α : Type} {entries : List (α × Nat)} : firstLeast entries = none ↔ entries = [] := by
  cases entries with
  | nil => exact iff_of_true rfl rfl
  | cons entry rest =>
      refine iff_of_false ?_ (List.cons_ne_nil _ _)
      unfold firstLeast
      split
      · simp
      · split <;> simp

/-- No entry is less than the one chosen, and all before it are greater. -/
theorem firstLeast_eq_some {α : Type} {entries : List (α × Nat)} {chosen : α × Nat} (h : firstLeast entries = some chosen) :
    (∀ entry ∈ entries, chosen.2 ≤ entry.2) ∧ entries.find? (fun entry => entry.2 ≤ chosen.2) = some chosen := by
  induction entries generalizing chosen with
  | nil => cases h
  | cons entry rest ih =>
      unfold firstLeast at h
      split at h
      · rename_i hnone
        obtain rfl := firstLeast_eq_none_iff.mp hnone
        obtain rfl := Option.some.inj h
        exact ⟨by simp, by simp⟩
      · rename_i best hbest
        obtain ⟨hleast, hfirst⟩ := ih hbest
        split at h
        · rename_i hle
          obtain rfl := Option.some.inj h
          refine ⟨List.forall_mem_cons.mpr ⟨Nat.le_refl _, fun other hother => Nat.le_trans hle (hleast other hother)⟩, ?_⟩
          exact List.find?_cons_of_pos (by simp)
        · rename_i hlt
          obtain rfl := Option.some.inj h
          refine ⟨List.forall_mem_cons.mpr ⟨Nat.le_of_not_le hlt, hleast⟩, ?_⟩
          rw [List.find?_cons_of_neg (by simpa using hlt), hfirst]

/-- What comes before the first of the closest candidates is farther, and what comes behind it is no closer. -/
theorem FirstClosest.exists_append (h : FirstClosest unknown candidates name) :
    ∃ former latter, candidates = former ++ name :: latter ∧
      (∀ other ∈ former, closeness unknown name < closeness unknown other) ∧
      ∀ other ∈ latter, closeness unknown name ≤ closeness unknown other := by
  obtain ⟨-, former, latter, hsplit, hformer⟩ := List.find?_eq_some_iff_append.mp h.first
  refine ⟨former, latter, hsplit, fun other hother => ?_, fun other hother => ?_⟩
  · simpa using hformer other hother
  · exact h.least other (by simp [hsplit, hother])

theorem FirstClosest.of_append {former latter : List String}
    (hformer : ∀ other ∈ former, closeness unknown name < closeness unknown other)
    (hlatter : ∀ other ∈ latter, closeness unknown name ≤ closeness unknown other) :
    FirstClosest unknown (former ++ name :: latter) name where
  least := by
    intro other hother
    rcases List.mem_append.mp hother with hother | hother
    · exact Nat.le_of_lt (hformer other hother)
    · rcases List.mem_cons.mp hother with rfl | hother
      · exact Nat.le_refl _
      · exact hlatter other hother
  first := by
    refine List.find?_eq_some_iff_append.mpr ⟨by simp, former, latter, rfl, fun other hother => ?_⟩
    simpa using hformer other hother

theorem FirstClosest.mem (h : FirstClosest unknown candidates name) : name ∈ candidates :=
  List.mem_of_find?_eq_some h.first

/-- There is one first of the closest candidates. -/
theorem FirstClosest.unique {name' : String} (h : FirstClosest unknown candidates name)
    (h' : FirstClosest unknown candidates name') : name = name' := by
  have hsame : closeness unknown name = closeness unknown name' :=
    Nat.le_antisymm (h.least name' h'.mem) (h'.least name h.mem)
  have hfirst := h.first
  rw [hsame, h'.first] at hfirst
  exact (Option.some.inj hfirst).symm

end Suggestion

open Suggestion

variable {unknown name : String} {candidates : List String} {maxDistance : Nat}

theorem suggestSimilar_eq_none_iff :
    suggestSimilar unknown candidates maxDistance = none ↔
      ∀ candidate ∈ candidates, qualifies unknown maxDistance (closeness unknown candidate) = false := by
  unfold suggestSimilar
  rw [Option.map_eq_none_iff, firstLeast_eq_none_iff, List.filter_eq_nil_iff]
  simp

/-- **The suggestion** qualifies and is the first of the closest candidates. -/
theorem suggestSimilar_eq_some (h : suggestSimilar unknown candidates maxDistance = some name) :
    qualifies unknown maxDistance (closeness unknown name) = true ∧ FirstClosest unknown candidates name := by
  let kept := candidates.filter fun candidate => qualifies unknown maxDistance (closeness unknown candidate)
  have hentries : (candidates.map fun candidate => (candidate, closeness unknown candidate)).filter
      (fun entry => qualifies unknown maxDistance entry.2) =
      kept.map fun candidate => (candidate, closeness unknown candidate) := List.filter_map
  unfold suggestSimilar at h
  dsimp only at h
  rw [hentries] at h
  obtain ⟨chosen, hchosen, rfl⟩ := Option.map_eq_some_iff.mp h
  obtain ⟨hleast, hfirst⟩ := firstLeast_eq_some hchosen
  rw [List.find?_map, Option.map_eq_some_iff] at hfirst
  obtain ⟨name, hfirst, rfl⟩ := hfirst
  have hmem := List.mem_of_find?_eq_some hfirst
  have hqualifies := (List.mem_filter.mp hmem).2
  refine ⟨hqualifies, fun other hother => Nat.le_of_not_lt fun hcloser => ?_, ?_⟩
  · -- a closer candidate would qualify too
    have hkept : other ∈ kept := List.mem_filter.mpr ⟨hother, qualifies_of_le (Nat.le_of_lt hcloser) hqualifies⟩
    exact Nat.not_le_of_lt hcloser (hleast _ (List.mem_map.mpr ⟨other, hkept, rfl⟩))
  · rw [List.find?_filter] at hfirst
    refine Eq.trans ?_ hfirst
    congr 1
    funext other
    have hboth : closeness unknown other ≤ closeness unknown name →
        qualifies unknown maxDistance (closeness unknown other) = true := fun hle => qualifies_of_le hle hqualifies
    simpa using hboth

theorem suggestSimilar_eq_some_iff : suggestSimilar unknown candidates maxDistance = some name ↔
    qualifies unknown maxDistance (closeness unknown name) = true ∧ FirstClosest unknown candidates name := by
  refine ⟨suggestSimilar_eq_some, fun ⟨hqualifies, hclosest⟩ => ?_⟩
  cases hsuggested : suggestSimilar unknown candidates maxDistance with
  | none =>
      rw [suggestSimilar_eq_none_iff.mp hsuggested name hclosest.mem] at hqualifies
      cases hqualifies
  | some other => rw [(suggestSimilar_eq_some hsuggested).2.unique hclosest]

/-- Others behind the candidates do not matter unless one of them is closer. -/
theorem suggestSimilar_append_iff (h : suggestSimilar unknown candidates maxDistance = some name) (more : List String) :
    suggestSimilar unknown (candidates ++ more) maxDistance = some name ↔
      ∀ other ∈ more, closeness unknown name ≤ closeness unknown other := by
  constructor
  · intro hsame other hother
    exact (suggestSimilar_eq_some hsame).2.least other (List.mem_append_right _ hother)
  · intro hmore
    obtain ⟨hqualifies, hclosest⟩ := suggestSimilar_eq_some h
    obtain ⟨former, latter, rfl, hformer, hlatter⟩ := hclosest.exists_append
    refine suggestSimilar_eq_some_iff.mpr ⟨hqualifies, ?_⟩
    rw [List.append_assoc, List.cons_append]
    exact .of_append hformer (List.forall_mem_append.mpr ⟨hlatter, hmore⟩)

/-- **Which candidate is suggested.** None is just if none is close enough. The one suggested is close enough, those before it
are farther and those behind it no closer. It stays if others are added, unless one of these is closer, and it
stays if others are taken away. -/
theorem suggestSimilar_choice (unknown : String) (candidates : List String) (maxDistance : Nat) :
    let suggested := fun names => suggestSimilar unknown names maxDistance
    let IsNear := fun name => closeness unknown name ≤ maxDistance ∧ closeness unknown name < max 1 unknown.length
    (suggested candidates = none ↔ ∀ candidate ∈ candidates, ¬ IsNear candidate) ∧
      ∀ name, suggested candidates = some name →
        IsNear name ∧ ∃ former latter, candidates = former ++ name :: latter ∧
          (∀ other ∈ former, closeness unknown name < closeness unknown other) ∧
          (∀ other ∈ latter, closeness unknown name ≤ closeness unknown other) ∧
          (∀ more, suggested (candidates ++ more) = some name ↔
            ∀ other ∈ more, closeness unknown name ≤ closeness unknown other) ∧
          ∀ former' latter' : List String, former'.Sublist former → latter'.Sublist latter →
            suggested (former' ++ name :: latter') = some name := by
  intro suggested IsNear
  have hnear : ∀ name, IsNear name ↔ qualifies unknown maxDistance (closeness unknown name) = true := by
    intro name
    rw [qualifies_iff, Nat.max_comm]
  refine ⟨?_, fun name hname => ?_⟩
  · simp only [hnear, Bool.not_eq_true]
    exact suggestSimilar_eq_none_iff
  · obtain ⟨hqualifies, hclosest⟩ := suggestSimilar_eq_some hname
    obtain ⟨former, latter, rfl, hformer, hlatter⟩ := hclosest.exists_append
    refine ⟨(hnear name).mpr hqualifies, former, latter, rfl, hformer, hlatter, suggestSimilar_append_iff hname, ?_⟩
    intro former' latter' hfewer hfewer'
    have hclosest : FirstClosest unknown (former' ++ name :: latter') name :=
      .of_append (fun other hother => hformer other (hfewer.subset hother)) fun other hother =>
        hlatter other (hfewer'.subset hother)
    exact suggestSimilar_eq_some_iff.mpr ⟨hqualifies, hclosest⟩

/-- The first of two names at the same distance is suggested, and stays if the others are taken away. -/
theorem suggestSimilar_choice_tie :
    suggestSimilar "ab" ["axyz", "AC", "ad"] 2 = some "AC" ∧ suggestSimilar "ab" ["AC"] 2 = some "AC" ∧
      suggestSimilar "ab" ["axyz", "AC", "ad", "ae"] 2 = some "AC" := by
  have hchosen : suggestSimilar "ab" ["axyz", "AC", "ad"] 2 = some "AC" := by decide +kernel
  obtain ⟨-, hchoice⟩ := suggestSimilar_choice "ab" ["axyz", "AC", "ad"] 2
  obtain ⟨-, former, latter, -, -, -, hadded, hremoved⟩ := hchoice "AC" hchosen
  exact ⟨hchosen, hremoved [] [] (List.nil_sublist _) (List.nil_sublist _), (hadded ["ae"]).mpr (by decide +kernel)⟩

end XmlDiagnostics
