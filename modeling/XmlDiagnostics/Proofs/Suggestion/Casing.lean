import XmlDiagnostics.Proofs.Suggestion.Similar

/-! # Suggestions and the case of a name

How close candidates are to an unknown name depends on its small letters alone, and so does which of them is closest
(`closeness_congr`, `FirstClosest.congr`). How far a candidate may be is told by the length of the name as it is written.
Only the dotted capital I has a small form of another length (`length_lowercase`), so of two names with the same small
letters the one with more dotted capitals is the shorter: it is suggested what the other one is, unless that is too far for
its length (`suggestSimilar_filter`).

Names with as many dotted capitals are always suggested the same, and others are not
(`suggestSimilar_eq_iff_of_lowercase_eq`): letters `i`, one more than the other name has dotted capitals, are suggested for the
longer name alone. -/

namespace XmlDiagnostics

namespace Text

theorem length_smallForm (before : List Char) (c : Char) (after : List Char) :
    (smallForm before c after).length = 1 + if c == 'İ' then 1 else 0 := by
  unfold smallForm
  split
  · rename_i hsigma
    rw [hsigma]
    rfl
  · split <;> simp [*]

theorem length_lowercaseAfter (before text : List Char) :
    (lowercaseAfter before text).length = text.length + text.count 'İ' := by
  induction text generalizing before with
  | nil => rfl
  | cons c text ih =>
      rw [lowercaseAfter, List.length_append, length_smallForm, ih, List.length_cons, List.count_cons]
      omega

/-- Each dotted capital takes one more character in its small form. -/
theorem length_lowercase (text : List Char) : (lowercase text).length = text.length + text.count 'İ' :=
  length_lowercaseAfter [] text

/-- The small form of each dotted capital begins with the letter `i`. -/
theorem replicate_sublist_lowercaseAfter (before text : List Char) :
    (List.replicate (text.count 'İ') 'i').Sublist (lowercaseAfter before text) := by
  induction text generalizing before with
  | nil => exact .slnil
  | cons c text ih =>
      rw [lowercaseAfter, List.count_cons]
      by_cases hdotted : c = 'İ'
      · have hform : smallForm before c text = ['i', '\u0307'] := by
          rw [hdotted, smallForm, if_neg (by decide), if_pos rfl]
        rw [hform, hdotted, if_pos (beq_self_eq_true _), List.replicate_succ]
        exact ((ih _).cons _).cons_cons _
      · rw [if_neg (by simpa using hdotted)]
        exact (ih _).trans (List.sublist_append_right _ _)

theorem lowercaseAfter_replicate (before : List Char) (n : Nat) :
    lowercaseAfter before (List.replicate n 'i') = List.replicate n 'i' := by
  induction n generalizing before with
  | zero => rfl
  | succ n ih =>
      rw [List.replicate_succ, lowercaseAfter, ih]
      rfl

end Text

/-! ### How far a text is from a part of it -/

namespace EditDistance

variable {n : Nat} {as bs : List Char}

theorem Edit.length_le (h : Edit as bs) : as.length ≤ bs.length + 1 := by
  cases h <;> simp only [List.length_append, List.length_cons] <;> omega

theorem Edits.length_le (h : Edits n as bs) : as.length ≤ bs.length + n := by
  induction h with
  | done => exact Nat.le_refl _
  | edit hedit _ ih =>
      have := hedit.length_le
      omega

/-- Deleting characters leads from a text to each part of it. -/
theorem edits_of_sublist (h : bs.Sublist as) (hlength : as.length = bs.length + n) : Edits n as bs := by
  induction h generalizing n with
  | slnil =>
      obtain rfl : 0 = n := by simpa using hlength
      exact .done
  | @cons bs as a hpart ih =>
      have hle := hpart.length_le
      obtain ⟨m, rfl⟩ : ∃ m, n = m + 1 := ⟨n - 1, by rw [List.length_cons] at hlength; omega⟩
      exact .edit (.delete [] a as) (ih (by rw [List.length_cons] at hlength; omega))
  | cons_cons a _ ih => exact (ih (by simpa [Nat.add_right_comm] using hlength)).cons a

/-- From a text to a part of it no edits are fewer than the deletions. -/
theorem distance_of_sublist (h : bs.Sublist as) : as.length = bs.length + distance as bs := by
  obtain ⟨hedits, hleast⟩ := isLeast_distance as bs
  obtain ⟨m, hm⟩ := Nat.exists_eq_add_of_le h.length_le
  have hle : distance as bs ≤ m := hleast (edits_of_sublist h hm)
  have hge := Edits.length_le hedits
  omega

end EditDistance

/-! ### Two names with the same small letters -/

open Suggestion

variable {a b : String}

theorem Suggestion.closeness_congr (h : Text.lowercase a.toList = Text.lowercase b.toList) (candidate : String) :
    closeness a candidate = closeness b candidate := by
  rw [closeness, closeness, h]

theorem Suggestion.FirstClosest.congr {name : String} {candidates : List String}
    (h : Text.lowercase a.toList = Text.lowercase b.toList) (hclosest : FirstClosest a candidates name) :
    FirstClosest b candidates name := by
  obtain ⟨hleast, hfirst⟩ := hclosest
  simp only [closeness_congr h] at hleast hfirst
  exact ⟨hleast, hfirst⟩

/-- What a name is short of, it has in dotted capitals. -/
theorem length_add_count (h : Text.lowercase a.toList = Text.lowercase b.toList) :
    a.length + a.toList.count 'İ' = b.length + b.toList.count 'İ' := by
  have hlength := congrArg List.length h
  rwa [Text.length_lowercase, Text.length_lowercase, String.length_toList, String.length_toList] at hlength

theorem suggestSimilar_congr (h : Text.lowercase a.toList = Text.lowercase b.toList) (hlength : a.length = b.length)
    (candidates : List String) (maxDistance : Nat) :
    suggestSimilar a candidates maxDistance = suggestSimilar b candidates maxDistance := by
  simp only [suggestSimilar, closeness_congr h, qualifies, hlength]

/-- The shorter of two names is suggested what the other one is, if this is close enough for its length. -/
theorem suggestSimilar_filter (h : Text.lowercase a.toList = Text.lowercase b.toList) (hle : a.length ≤ b.length)
    (candidates : List String) (maxDistance : Nat) :
    suggestSimilar a candidates maxDistance =
      (suggestSimilar b candidates maxDistance).filter fun name => closeness b name < max a.length 1 := by
  refine Option.ext fun name => ?_
  rw [Option.filter_eq_some_iff, suggestSimilar_eq_some_iff, suggestSimilar_eq_some_iff, closeness_congr h, qualifies_iff,
    qualifies_iff, decide_eq_true_iff]
  constructor
  · rintro ⟨⟨hmax, hshort⟩, hclosest⟩
    exact ⟨⟨⟨hmax, by omega⟩, hclosest.congr h⟩, hshort⟩
  · rintro ⟨⟨⟨hmax, -⟩, hclosest⟩, hshort⟩
    exact ⟨⟨hmax, hshort⟩, hclosest.congr h.symm⟩

/-- How close a name is to letters that the small forms of its dotted capitals begin with. -/
theorem Suggestion.closeness_replicate {n : Nat} (hle : n ≤ a.toList.count 'İ') :
    a.length + a.toList.count 'İ' = n + closeness a (String.ofList (List.replicate n 'i')) := by
  have hpart : (List.replicate n 'i').Sublist (Text.lowercase a.toList) :=
    (List.replicate_sublist_replicate 'i' |>.mpr hle).trans (Text.replicate_sublist_lowercaseAfter [] a.toList)
  have hdistance := EditDistance.distance_of_sublist hpart
  rw [Text.length_lowercase, String.length_toList, List.length_replicate] at hdistance
  rw [hdistance, closeness, String.toList_ofList, Text.lowercase, Text.lowercase, Text.lowercaseAfter_replicate]

/-- A name with more dotted capitals misses a suggestion. -/
theorem exists_suggestSimilar_eq_none (h : Text.lowercase a.toList = Text.lowercase b.toList)
    (hmore : b.toList.count 'İ' < a.toList.count 'İ') :
    ∃ name maxDistance, suggestSimilar a [name] maxDistance = none ∧ suggestSimilar b [name] maxDistance = some name := by
  let name := String.ofList (List.replicate (b.toList.count 'İ' + 1) 'i')
  have hlength := length_add_count h
  -- one letter fewer would be as far away as the longer name has characters
  have hclose : closeness b name + 1 = b.length := by
    have hdistance : a.length + a.toList.count 'İ' = b.toList.count 'İ' + 1 + closeness a name :=
      closeness_replicate hmore
    rw [closeness_congr h] at hdistance
    omega
  have hcapitals : a.toList.count 'İ' ≤ a.length := by
    rw [← String.length_toList]
    exact List.count_le_length
  have hsuggested : suggestSimilar b [name] (closeness b name) = some name := by
    have hfirst : FirstClosest b ([] ++ name :: []) name := .of_append (by simp) (by simp)
    exact suggestSimilar_eq_some_iff.mpr ⟨qualifies_iff.mpr ⟨Nat.le_refl _, by omega⟩, hfirst⟩
  have hfar : ¬ closeness b name < max a.length 1 := by omega
  refine ⟨name, closeness b name, ?_, hsuggested⟩
  rw [suggestSimilar_filter h (by omega), hsuggested, Option.filter_some, if_neg (by simpa using hfar)]

/-- **When the case of a name matters.** Two names with the same small letters are suggested the same, from all candidates
and for all greatest distances, just if they have as many dotted capitals I. A name with more of them is the
shorter one and is suggested what the other one is, unless this is too far for its own length. -/
theorem suggestSimilar_eq_iff_of_lowercase_eq (h : Text.lowercase a.toList = Text.lowercase b.toList) :
    ((∀ candidates maxDistance, suggestSimilar a candidates maxDistance = suggestSimilar b candidates maxDistance) ↔
        a.toList.count 'İ' = b.toList.count 'İ') ∧
      (b.toList.count 'İ' ≤ a.toList.count 'İ' → ∀ candidates maxDistance,
        suggestSimilar a candidates maxDistance =
          (suggestSimilar b candidates maxDistance).filter fun name => closeness b name < max a.length 1) := by
  have hlength := length_add_count h
  refine ⟨⟨fun hsame => ?_, fun hcount => ?_⟩, fun hcount => suggestSimilar_filter h (by omega)⟩
  · rcases Nat.lt_trichotomy (a.toList.count 'İ') (b.toList.count 'İ') with hless | hcount | hmore
    · obtain ⟨name, maxDistance, hnone, hsome⟩ := exists_suggestSimilar_eq_none h.symm hless
      cases hnone.symm.trans ((hsame _ _).symm.trans hsome)
    · exact hcount
    · obtain ⟨name, maxDistance, hnone, hsome⟩ := exists_suggestSimilar_eq_none h hmore
      cases hnone.symm.trans ((hsame _ _).trans hsome)
  · exact suggestSimilar_congr h (by omega)

/-- A sigma at the end of a word has a small form of its own, and a dotted capital one of two characters. -/
theorem suggestSimilar_eq_iff_of_lowercase_eq_words :
    (Text.lowercase "ΟΔΟΣ".toList = Text.lowercase "Οδος".toList ∧
      ∀ candidates maxDistance,
        suggestSimilar "ΟΔΟΣ" candidates maxDistance = suggestSimilar "Οδος" candidates maxDistance) ∧
    Text.lowercase "İD".toList = Text.lowercase "i\u0307d".toList ∧
      ∀ candidates maxDistance, suggestSimilar "İD" candidates maxDistance =
        (suggestSimilar "i\u0307d" candidates maxDistance).filter fun name =>
          closeness "i\u0307d" name < max "İD".length 1 := by
  have hsigma : Text.lowercase "ΟΔΟΣ".toList = Text.lowercase "Οδος".toList := by decide +kernel
  have hdotted : Text.lowercase "İD".toList = Text.lowercase "i\u0307d".toList := by decide +kernel
  exact ⟨⟨hsigma, (suggestSimilar_eq_iff_of_lowercase_eq hsigma).1.mpr (by decide +kernel)⟩,
    hdotted, (suggestSimilar_eq_iff_of_lowercase_eq hdotted).2 (by decide +kernel)⟩

/-- A dotted capital alone is too short for a candidate that is suggested for the two characters of its small form. -/
theorem suggestSimilar_dotted_capital :
    Text.lowercase "İ".toList = Text.lowercase "i\u0307".toList ∧ suggestSimilar "İ" ["i"] 2 = none ∧
      suggestSimilar "i\u0307" ["i"] 2 = some "i" := by
  decide +kernel

end XmlDiagnostics
