/-! # Cutting a text at a character

The parts of a text before and after the first or the last occurrence of a character, and between all
occurrences. The parts before and after the first one give the text back together with the character
(`splitAtFirst_eq_some`). -/

namespace XmlDiagnostics.Text

/-- The characters before and after the first `separator`, if there is one. -/
def splitAtFirst (separator : Char) : List Char → Option (List Char × List Char)
  | [] => none
  | c :: rest =>
    if c = separator then some ([], rest)
    else (splitAtFirst separator rest).map fun (before, after) => (c :: before, after)

/-- The characters before and after the last `separator`, if there is one. -/
def splitAtLast (separator : Char) : List Char → Option (List Char × List Char)
  | [] => none
  | c :: rest =>
    match splitAtLast separator rest with
    | some (before, after) => some (c :: before, after)
    | none => if c = separator then some ([], rest) else none

/-- The parts of a text before and from the first character of a class; without one, all of the text is
the first part. -/
def splitBefore (p : Char → Bool) (text : List Char) : List Char × List Char :=
  (text.takeWhile fun c => !p c, text.dropWhile fun c => !p c)

/-- The parts of a text between the characters of a class. -/
def splitAtEvery (p : Char → Bool) : List Char → List (List Char)
  | [] => [[]]
  | c :: rest =>
    if p c then [] :: splitAtEvery p rest
    else
      match splitAtEvery p rest with
      | [] => [[c]]
      | part :: parts => (c :: part) :: parts

theorem splitBefore_append (p : Char → Bool) (text : List Char) :
    (splitBefore p text).1 ++ (splitBefore p text).2 = text :=
  List.takeWhile_append_dropWhile

theorem splitAtFirst_eq_some {separator : Char} {text before after : List Char}
    (h : splitAtFirst separator text = some (before, after)) :
    text = before ++ separator :: after ∧ separator ∉ before := by
  induction text generalizing before with
  | nil => simp [splitAtFirst] at h
  | cons c rest ih =>
    unfold splitAtFirst at h
    split at h
    · simp_all
    · obtain ⟨⟨b, a⟩, hb, heq⟩ := Option.map_eq_some_iff.mp h
      simp only [Prod.mk.injEq] at heq
      obtain ⟨rfl, rfl⟩ := heq
      obtain ⟨rfl, hmem⟩ := ih hb
      simp_all [eq_comm]

theorem splitAtFirst_eq_none {separator : Char} {text : List Char} :
    splitAtFirst separator text = none ↔ separator ∉ text := by
  induction text with
  | nil => simp [splitAtFirst]
  | cons c rest ih =>
    by_cases hc : c = separator
    · simp [splitAtFirst, hc]
    · simp [splitAtFirst, hc, ih, Ne.symm hc]

theorem splitAtFirst_append {separator : Char} {before : List Char} (h : separator ∉ before) (after : List Char) :
    splitAtFirst separator (before ++ separator :: after) = some (before, after) := by
  induction before with
  | nil => rw [List.nil_append, splitAtFirst, if_pos rfl]
  | cons c before ih =>
    obtain ⟨hc, hbefore⟩ := not_or.mp (mt List.mem_cons.mpr h)
    rw [List.cons_append, splitAtFirst, if_neg (Ne.symm hc), ih hbefore]
    rfl

end XmlDiagnostics.Text
