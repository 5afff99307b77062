import XmlDiagnostics.Proofs.Text.Places

/-! # Joined lines

A text without carriage returns is cut at its line feeds, so with line feeds between them its lines give
it back, but for a line feed at its very end (`joinLines_eq`). -/

namespace XmlDiagnostics.Text

/-- The lines of a text with line feeds between them. -/
def joinLines (text : List Char) : List Char := ['\n'].intercalate (splitLines text)

theorem toList_intercalate_lines (text : List Char) :
    ("\n".intercalate ((splitLines text).map String.ofList)).toList = joinLines text := by
  rw [String.toList_intercalate, List.map_map, joinLines]
  congr 1
  exact List.map_id'' (fun _ => String.toList_ofList) _

theorem intercalate_consFirst (separator : List Char) (c : Char) (lines : List (List Char)) :
    separator.intercalate (consFirst c lines) = c :: separator.intercalate lines := by
  cases lines with
  | nil => rfl
  | cons line lines =>
      cases lines with
      | nil => rfl
      | cons next lines => rfl

/-- Joining the lines of a text leaves out at most a line feed at its end. -/
theorem joinLines_eq {text : List Char} (h : '\r' ∉ text) : text = joinLines text ∨ text = joinLines text ++ ['\n'] := by
  induction text with
  | nil => exact .inl rfl
  | cons c rest ih =>
      obtain ⟨hc, hrest⟩ := List.ne_and_not_mem_of_not_mem_cons h
      by_cases hend : isLineEnd c = true
      · obtain rfl : c = '\n' := by simpa [isLineEnd, hc.symm] using hend
        rw [joinLines, splitLines_cons_of_isLineEnd hend (fun h => absurd h (by decide))]
        by_cases hnil : rest = []
        · subst hnil
          exact .inr rfl
        · obtain ⟨line, lines, hlines⟩ := List.exists_cons_of_ne_nil (splitLines_ne_nil hnil)
          have hjoin : ['\n'].intercalate ([] :: splitLines rest) = '\n' :: joinLines rest := by
            rw [joinLines, hlines, List.intercalate_cons_cons]
            rfl
          rw [hjoin, List.cons_append, List.cons.injEq, List.cons.injEq, and_iff_right rfl, and_iff_right rfl]
          exact ih hrest
      · rw [joinLines, splitLines_cons_of_not_isLineEnd (Bool.not_eq_true _ ▸ hend), intercalate_consFirst, ← joinLines,
          List.cons_append, List.cons.injEq, List.cons.injEq, and_iff_right rfl, and_iff_right rfl]
        exact ih hrest

/-- What does not end with a line feed stays in front of the joined lines. -/
theorem exists_joinLines_append {before rest : List Char} (h : '\r' ∉ before ++ rest) (hlast : before.getLast? ≠ some '\n') :
    ∃ more, joinLines (before ++ rest) = before ++ more := by
  rcases joinLines_eq h with heq | heq
  · exact ⟨rest, heq.symm⟩
  · rcases List.eq_nil_or_concat rest with rfl | ⟨more, c, rfl⟩
    · rw [List.append_nil] at heq
      exact absurd (heq ▸ List.getLast?_concat) hlast
    · rw [List.concat_eq_append, ← List.append_assoc] at heq
      exact ⟨more, by rw [List.concat_eq_append, ← List.append_assoc]; exact (List.append_inj_left' heq rfl).symm⟩

end XmlDiagnostics.Text
