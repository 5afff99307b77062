import Mathlib.Data.List.Chain
import Mathlib.Data.List.Infix
import XmlDiagnostics.Message
import XmlDiagnostics.Text.Split

/-! # Filling templates

A catalog puts the arguments of a message into its template one after the other, and looks for the placeholders of each one
in the whole text that it has by then. It so finds placeholders that earlier arguments have brought in, which one pass over
the template does not (`format_reads_arguments`).

Apart from these the two agree. The text with the first `n` arguments is that of one pass for these arguments, as long as
it has no more placeholders of the next one than the template has (`replaceAll_fillOnce`, and `occurrences_fillOnce` for
the converse), so the whole is one pass if no argument brings a placeholder in (`format_eq_fillOnce`). In templates whose
placeholders have neither braces nor digits beside them, as in the English ones, only an argument that contains the placeholder
of a later one can do so. -/

namespace XmlDiagnostics

namespace Text

/-- In how many places of a text another text stands. -/
def occurrences (part text : List Char) : Nat := text.tails.countP fun rest => part.isPrefixOf rest

variable {part new : List Char} {c : Char}

theorem occurrences_cons (part : List Char) (c : Char) (rest : List Char) :
    occurrences part (c :: rest) = occurrences part rest + if part <+: c :: rest then 1 else 0 := by
  simp [occurrences, List.countP_cons]

theorem occurrences_le_append (part before rest : List Char) : occurrences part rest ≤ occurrences part (before ++ rest) := by
  induction before with
  | nil => exact Nat.le_refl _
  | cons c before ih =>
      rw [List.cons_append, occurrences_cons]
      exact Nat.le_add_right_of_le ih

theorem replaceFrom_length (part new skipped rest : List Char) :
    replaceFrom part new skipped.length (skipped ++ rest) = replaceAll part new rest := by
  induction skipped with
  | nil => rfl
  | cons c skipped ih => exact ih

theorem replaceAll_append_self (h : part ≠ []) (new rest : List Char) :
    replaceAll part new (part ++ rest) = new ++ replaceAll part new rest := by
  obtain ⟨c, behind, rfl⟩ := List.exists_cons_of_ne_nil h
  have hprefix : (c :: behind).isPrefixOf (c :: (behind ++ rest)) = true :=
    List.isPrefixOf_iff_prefix.mpr (List.prefix_append (c :: behind) rest)
  rw [replaceAll, List.cons_append, replaceFrom, if_pos hprefix]
  exact congrArg (new ++ ·) (replaceFrom_length (c :: behind) new behind rest)

theorem replaceAll_cons {rest : List Char} (h : ¬ part <+: c :: rest) :
    replaceAll part new (c :: rest) = c :: replaceAll part new rest := by
  rw [replaceAll, replaceFrom, if_neg (mt List.isPrefixOf_iff_prefix.mp h)]
  rfl

/-- What brings no occurrence in is copied. -/
theorem replaceAll_append {before rest : List Char} (h : occurrences part (before ++ rest) = occurrences part rest) :
    replaceAll part new (before ++ rest) = before ++ replaceAll part new rest := by
  induction before with
  | nil => rfl
  | cons c before ih =>
      have hle := occurrences_le_append part before rest
      rw [List.cons_append, occurrences_cons] at h
      split at h
      · omega
      · rename_i hprefix
        rw [List.cons_append, replaceAll_cons hprefix, ih h, List.cons_append]

end Text

namespace MessageCatalog

open Text (occurrences replaceAll)

/-- The number of the placeholder that a text begins with, if it is less than `count`. -/
def placeholderAt? (count : Nat) (text : List Char) : Option Nat :=
  (List.range count).find? fun n => (placeholder n).isPrefixOf text

/-- Skip `skip` characters, then put each argument in place of its placeholders, from the left. -/
def fillFrom (args : List String) : Nat → List Char → List Char
  | _, [] => []
  | skip + 1, _ :: rest => fillFrom args skip rest
  | 0, c :: rest =>
    match placeholderAt? args.length (c :: rest) with
    | some n => (args.getD n "").toList ++ fillFrom args ((placeholder n).length - 1) rest
    | none => c :: fillFrom args 0 rest

/-- One pass over a template, from the left, that puts each argument in place of its placeholders and copies all other
characters. What is put in is not looked at. -/
def fillOnce (args : List String) (template : List Char) : List Char := fillFrom args 0 template

/-- No argument brings in a placeholder of a later one, by itself or with what it comes to stand beside: where the arguments
before a later one are in their places, it has as many placeholders as in the template. -/
def NoneBroughtIn (args : List String) (template : List Char) : Prop :=
  ∀ n < args.length, occurrences (placeholder n) (fillOnce (args.take n) template) =
    occurrences (placeholder n) template

/-- Digits and braces, the characters of placeholders. -/
def IsSign (c : Char) : Prop := c.isDigit = true ∨ c = '\x7b' ∨ c = '\x7d'

/-- No digit or brace stands before an opening brace or behind a closing one. -/
def SetApart (template : List Char) : Prop :=
  template.IsChain fun a b => (b = '\x7b' → ¬ IsSign a) ∧ (a = '\x7d' → ¬ IsSign b)

instance : DecidablePred IsSign := fun c => inferInstanceAs (Decidable (c.isDigit = true ∨ c = '\x7b' ∨ c = '\x7d'))

instance : DecidablePred SetApart := fun template => inferInstanceAs (Decidable (template.IsChain _))

variable {args : List String} {n m : Nat} {c : Char} {text rest template : List Char}

/-! ### Placeholders -/

theorem toList_toString (n : Nat) : (toString n).toList = Nat.toDigits 10 n := by
  rw [Nat.toString_eq_repr, Nat.toList_repr]

theorem isDigit_of_mem_toString (h : c ∈ (toString n).toList) : c.isDigit = true := by
  rw [toList_toString] at h
  exact Nat.isDigit_of_mem_toDigits (by decide) (by decide) h

theorem not_mem_toString (h : c.isDigit = false) : c ∉ (toString n).toList := by
  intro hmem
  rw [isDigit_of_mem_toString hmem] at h
  cases h

/-- What follows the opening brace of a placeholder opens no other one. -/
theorem not_mem_behind_open (n : Nat) : '\x7b' ∉ (toString n).toList ++ ['\x7d'] := by
  rw [List.mem_append, not_or]
  exact ⟨not_mem_toString (by decide), by decide⟩

theorem placeholder_append (n : Nat) (rest : List Char) :
    placeholder n ++ rest = '\x7b' :: ((toString n).toList ++ '\x7d' :: rest) := by
  simp [placeholder]

theorem placeholder_ne_nil (n : Nat) : placeholder n ≠ [] := List.cons_ne_nil _ _

theorem not_placeholder_prefix_of_ne (h : c ≠ '\x7b') : ¬ placeholder n <+: c :: rest := by
  rintro ⟨behind, hbehind⟩
  rw [placeholder_append] at hbehind
  exact h (List.cons.inj hbehind).1.symm

/-- No placeholder begins another one. -/
theorem eq_of_prefix_placeholder (h : placeholder m <+: placeholder n ++ rest) : m = n := by
  obtain ⟨behind, h⟩ := h
  have hclose : ∀ k : Nat, '\x7d' ∉ (toString k).toList := fun k => not_mem_toString (by decide)
  rw [placeholder_append, placeholder_append, List.cons.injEq] at h
  have hsplit := Text.splitAtFirst_append (hclose m) behind
  rw [h.2, Text.splitAtFirst_append (hclose n) rest, Option.some.injEq, Prod.mk.injEq, toList_toString,
    toList_toString] at hsplit
  have hvalue := congrArg (fun digits => Nat.ofDigitChars 10 digits 0) hsplit.1
  simpa using hvalue.symm

theorem placeholderAt?_eq_none_iff {count : Nat} :
    placeholderAt? count text = none ↔ ∀ n < count, ¬ placeholder n <+: text := by
  simp [placeholderAt?]

theorem prefix_of_placeholderAt? {count : Nat} (h : placeholderAt? count text = some n) :
    n < count ∧ placeholder n <+: text := by
  have hprefix := List.find?_some h
  exact ⟨List.mem_range.mp (List.mem_of_find?_eq_some h), List.isPrefixOf_iff_prefix.mp hprefix⟩

theorem placeholderAt?_append {count : Nat} (h : n < count) : placeholderAt? count (placeholder n ++ rest) = some n := by
  cases hfound : placeholderAt? count (placeholder n ++ rest) with
  | none => exact absurd (List.prefix_append _ _) (placeholderAt?_eq_none_iff.mp hfound n h)
  | some m => rw [eq_of_prefix_placeholder (prefix_of_placeholderAt? hfound).2]

/-- From a template one takes off a placeholder of one of `count` arguments, or else a character. -/
@[elab_as_elim] theorem template_induction (count : Nat) {motive : List Char → Prop} (nil : motive [])
    (argument : ∀ n rest, n < count → motive rest → motive (placeholder n ++ rest))
    (copy : ∀ c rest, (∀ n < count, ¬ placeholder n <+: c :: rest) → motive rest → motive (c :: rest))
    (template : List Char) : motive template := by
  match template with
  | [] => exact nil
  | c :: rest =>
      cases hat : placeholderAt? count (c :: rest) with
      | none =>
          exact copy c rest (placeholderAt?_eq_none_iff.mp hat) (template_induction count nil argument copy rest)
      | some n =>
          obtain ⟨hn, rest', hrest'⟩ := prefix_of_placeholderAt? hat
          have hlt : rest'.length < (c :: rest).length := by
            rw [← hrest', placeholder_append]
            simp only [List.length_cons, List.length_append]
            omega
          rw [← hrest']
          exact argument n rest' hn (template_induction count nil argument copy rest')
termination_by template.length
decreasing_by
  · exact Nat.lt_succ_self _
  · exact hlt

/-- The same for the arguments so far and the next one. -/
@[elab_as_elim] theorem template_induction_next (count : Nat) {motive : List Char → Prop} (nil : motive [])
    (earlier : ∀ m rest, m < count → motive rest → motive (placeholder m ++ rest))
    (next : ∀ rest, motive rest → motive (placeholder count ++ rest))
    (copy : ∀ c rest, (∀ m ≤ count, ¬ placeholder m <+: c :: rest) → motive rest → motive (c :: rest))
    (template : List Char) : motive template := by
  induction template using template_induction (count + 1) with
  | nil => exact nil
  | argument m rest hm ih =>
      rcases Nat.lt_succ_iff_lt_or_eq.mp hm with hearlier | rfl
      · exact earlier m rest hearlier ih
      · exact next rest ih
  | copy c rest hplain ih => exact copy c rest (fun m hm => hplain m (Nat.lt_succ_of_le hm)) ih

/-! ### One pass -/

theorem fillFrom_length (args : List String) (skipped rest : List Char) :
    fillFrom args skipped.length (skipped ++ rest) = fillOnce args rest := by
  induction skipped with
  | nil => rfl
  | cons c skipped ih => exact ih

theorem fillOnce_placeholder (h : n < args.length) (rest : List Char) :
    fillOnce args (placeholder n ++ rest) = args[n].toList ++ fillOnce args rest := by
  have hat : placeholderAt? args.length (placeholder n ++ rest) = some n := placeholderAt?_append h
  have hskip := fillFrom_length args ((toString n).toList ++ ['\x7d']) rest
  have hlength : (placeholder n).length - 1 = ((toString n).toList ++ ['\x7d']).length := rfl
  rw [placeholder_append] at hat ⊢
  rw [List.append_assoc, List.singleton_append] at hskip
  rw [fillOnce, fillFrom, hat]
  dsimp only
  rw [hlength, hskip, List.getD_eq_getElem?_getD, List.getElem?_eq_getElem h, Option.getD_some]

theorem fillOnce_cons (h : ∀ n < args.length, ¬ placeholder n <+: c :: rest) :
    fillOnce args (c :: rest) = c :: fillOnce args rest := by
  rw [fillOnce, fillFrom, placeholderAt?_eq_none_iff.mpr h]
  rfl

/-- Characters that open no placeholder are copied. -/
theorem fillOnce_append (args : List String) {copied : List Char} (h : '\x7b' ∉ copied) (rest : List Char) :
    fillOnce args (copied ++ rest) = copied ++ fillOnce args rest := by
  induction copied with
  | nil => rfl
  | cons c copied ih =>
      rw [List.mem_cons, not_or] at h
      rw [List.cons_append, fillOnce_cons fun n _ => not_placeholder_prefix_of_ne (Ne.symm h.1), ih h.2, List.cons_append]

/-- A placeholder without argument is copied. -/
theorem fillOnce_placeholder_of_le (h : args.length ≤ n) (rest : List Char) :
    fillOnce args (placeholder n ++ rest) = placeholder n ++ fillOnce args rest := by
  have hnone : ∀ k < args.length, ¬ placeholder k <+: placeholder n ++ rest := by
    intro k hk hprefix
    have := eq_of_prefix_placeholder hprefix
    omega
  have hinner := fillOnce_append args (not_mem_behind_open n) rest
  rw [List.append_assoc, List.append_assoc, List.singleton_append, List.singleton_append] at hinner
  rw [placeholder_append] at hnone
  rw [placeholder_append, placeholder_append, fillOnce_cons hnone, hinner]

/-! ### Occurrences of placeholders -/

theorem occurrences_append_of_not_mem {copied : List Char} (h : '\x7b' ∉ copied) (rest : List Char) :
    occurrences (placeholder n) (copied ++ rest) = occurrences (placeholder n) rest := by
  induction copied with
  | nil => rfl
  | cons c copied ih =>
      rw [List.mem_cons, not_or] at h
      rw [List.cons_append, Text.occurrences_cons, if_neg (not_placeholder_prefix_of_ne (Ne.symm h.1)), ih h.2, Nat.add_zero]

theorem occurrences_placeholder_append (m : Nat) (rest : List Char) :
    occurrences (placeholder n) (placeholder m ++ rest) = occurrences (placeholder n) rest + if n = m then 1 else 0 := by
  have hinner := occurrences_append_of_not_mem (n := n) (not_mem_behind_open m) rest
  have hprefix : placeholder n <+: placeholder m ++ rest ↔ n = m := by
    constructor
    · exact eq_of_prefix_placeholder
    · rintro rfl
      exact List.prefix_append _ _
  rw [List.append_assoc, List.singleton_append] at hinner
  rw [placeholder_append] at hprefix ⊢
  rw [Text.occurrences_cons, hinner, if_congr hprefix rfl rfl]

theorem occurrences_placeholder_self (n : Nat) (rest : List Char) :
    occurrences (placeholder n) (placeholder n ++ rest) = occurrences (placeholder n) rest + 1 := by
  rw [occurrences_placeholder_append, if_pos rfl]

theorem occurrences_placeholder_of_ne (h : n ≠ m) (rest : List Char) :
    occurrences (placeholder n) (placeholder m ++ rest) = occurrences (placeholder n) rest := by
  rw [occurrences_placeholder_append, if_neg h, Nat.add_zero]

/-! ### One argument after the other -/

theorem fillOnce_concat_earlier (h : n < args.length) (arg : String) (rest : List Char) :
    fillOnce (args ++ [arg]) (placeholder n ++ rest) = args[n].toList ++ fillOnce (args ++ [arg]) rest := by
  have hn : n < (args ++ [arg]).length := Nat.lt_of_lt_of_le h (List.length_append ▸ Nat.le_add_right _ _)
  rw [fillOnce_placeholder hn, List.getElem_append_left h]

theorem fillOnce_concat_next (args : List String) (arg : String) (rest : List Char) :
    fillOnce (args ++ [arg]) (placeholder args.length ++ rest) = arg.toList ++ fillOnce (args ++ [arg]) rest := by
  have hn : args.length < (args ++ [arg]).length := by simp
  rw [fillOnce_placeholder hn, List.getElem_concat_length rfl]

theorem fillOnce_concat_cons (h : ∀ m ≤ args.length, ¬ placeholder m <+: c :: rest) (arg : String) :
    fillOnce (args ++ [arg]) (c :: rest) = c :: fillOnce (args ++ [arg]) rest := by
  refine fillOnce_cons fun m hm => h m ?_
  rw [List.length_append, List.length_singleton] at hm
  exact Nat.le_of_lt_succ hm

/-- The placeholders of the next argument stay. -/
theorem occurrences_le_fillOnce (args : List String) (template : List Char) :
    occurrences (placeholder args.length) template ≤ occurrences (placeholder args.length) (fillOnce args template) := by
  induction template using template_induction_next args.length with
  | nil => exact Nat.le_refl _
  | earlier m rest hm ih =>
      rw [fillOnce_placeholder hm, occurrences_placeholder_of_ne (Nat.ne_of_gt hm)]
      exact Nat.le_trans ih (Text.occurrences_le_append _ _ _)
  | next rest ih =>
      rw [fillOnce_placeholder_of_le (Nat.le_refl _), occurrences_placeholder_self, occurrences_placeholder_self]
      exact Nat.add_le_add_right ih 1
  | copy c rest hplain ih =>
      rw [fillOnce_cons fun m hm => hplain m (Nat.le_of_lt hm), Text.occurrences_cons, Text.occurrences_cons,
        if_neg (hplain _ (Nat.le_refl _))]
      exact Nat.le_add_right_of_le ih

/-- **One more argument.** Where the arguments so far are in their places and have brought no placeholder of the next one in,
this one is put into the places that it has in the template. -/
theorem replaceAll_fillOnce (arg : String)
    (h : occurrences (placeholder args.length) (fillOnce args template) = occurrences (placeholder args.length) template) :
    replaceAll (placeholder args.length) arg.toList (fillOnce args template) = fillOnce (args ++ [arg]) template := by
  induction template using template_induction_next args.length with
  | nil => rfl
  | earlier m rest hm ih =>
      have hle := occurrences_le_fillOnce args rest
      have hinner := Text.occurrences_le_append (placeholder args.length) args[m].toList (fillOnce args rest)
      rw [fillOnce_placeholder hm, occurrences_placeholder_of_ne (Nat.ne_of_gt hm)] at h
      rw [fillOnce_placeholder hm, Text.replaceAll_append (by omega), ih (by omega), fillOnce_concat_earlier hm]
  | next rest ih =>
      rw [fillOnce_placeholder_of_le (Nat.le_refl _), occurrences_placeholder_self, occurrences_placeholder_self] at h
      rw [fillOnce_placeholder_of_le (Nat.le_refl _), Text.replaceAll_append_self (placeholder_ne_nil _),
        ih (Nat.add_right_cancel h), fillOnce_concat_next]
  | copy c rest hplain ih =>
      have hcopy : fillOnce args (c :: rest) = c :: fillOnce args rest := fillOnce_cons fun m hm => hplain m (Nat.le_of_lt hm)
      have hle := occurrences_le_fillOnce args rest
      rw [hcopy, Text.occurrences_cons, Text.occurrences_cons, if_neg (hplain _ (Nat.le_refl _))] at h
      split at h
      · omega
      · rename_i hprefix
        rw [hcopy, fillOnce_concat_cons hplain, Text.replaceAll_cons hprefix, ih h]

/-- Without arguments a template is copied. -/
theorem fillOnce_nil (template : List Char) : fillOnce [] template = template := by
  induction template with
  | nil => rfl
  | cons c rest ih =>
      have hnone : ∀ n < ([] : List String).length, ¬ placeholder n <+: c :: rest := fun n hn => absurd hn (Nat.not_lt_zero n)
      rw [fillOnce_cons hnone, ih]

/-- If no argument brings placeholders in, those behind others are put in as in one pass. -/
theorem fill_fillOnce {before behind : List String} (h : NoneBroughtIn (before ++ behind) template) :
    fill before.length behind (fillOnce before template) = fillOnce (before ++ behind) template := by
  induction behind generalizing before with
  | nil => rw [fill, List.append_nil]
  | cons arg behind ih =>
      have hnext := h before.length (by simp)
      rw [List.take_left] at hnext
      rw [List.append_cons] at h ⊢
      rw [fill, replaceAll_fillOnce arg hnext, ← ih h, List.length_append, List.length_singleton]

/-- Without text for them, the placeholders of an argument are lost. -/
theorem length_replaceAll_nil (n : Nat) (text : List Char) :
    (replaceAll (placeholder n) [] text).length + occurrences (placeholder n) text * (placeholder n).length = text.length := by
  induction text using template_induction_next n with
  | nil => simp [replaceAll, Text.replaceFrom, occurrences, placeholder]
  | earlier m rest hm ih =>
      have hcopied := occurrences_placeholder_of_ne (Nat.ne_of_gt hm) rest
      rw [Text.replaceAll_append hcopied, hcopied, List.length_append, List.length_append]
      omega
  | next rest ih =>
      rw [Text.replaceAll_append_self (placeholder_ne_nil _), List.nil_append, occurrences_placeholder_self, Nat.add_one_mul,
        List.length_append]
      omega
  | copy c rest hplain ih =>
      have hprefix := hplain n (Nat.le_refl n)
      rw [Text.replaceAll_cons hprefix, Text.occurrences_cons, if_neg hprefix, Nat.add_zero, List.length_cons,
        List.length_cons]
      omega

theorem length_fillOnce_concat_empty (args : List String) (template : List Char) :
    (fillOnce (args ++ [""]) template).length +
      occurrences (placeholder args.length) template * (placeholder args.length).length = (fillOnce args template).length := by
  induction template using template_induction_next args.length with
  | nil => simp [fillOnce, fillFrom, occurrences, placeholder]
  | earlier m rest hm ih =>
      rw [fillOnce_concat_earlier hm, fillOnce_placeholder hm, occurrences_placeholder_of_ne (Nat.ne_of_gt hm),
        List.length_append, List.length_append]
      omega
  | next rest ih =>
      rw [fillOnce_concat_next, fillOnce_placeholder_of_le (Nat.le_refl _), occurrences_placeholder_self, Nat.add_one_mul,
        List.length_append, List.length_append, String.toList_empty, List.length_nil]
      omega
  | copy c rest hplain ih =>
      rw [fillOnce_concat_cons hplain, fillOnce_cons fun m hm => hplain m (Nat.le_of_lt hm), Text.occurrences_cons,
        if_neg (hplain _ (Nat.le_refl _)), Nat.add_zero, List.length_cons, List.length_cons]
      omega

/-- If a text without characters for the next argument is put in as in one pass, the arguments so far have brought none of
its placeholders in. -/
theorem occurrences_fillOnce
    (h : replaceAll (placeholder args.length) [] (fillOnce args template) = fillOnce (args ++ [""]) template) :
    occurrences (placeholder args.length) (fillOnce args template) = occurrences (placeholder args.length) template := by
  have hround := length_replaceAll_nil args.length (fillOnce args template)
  have hpos : 0 < (placeholder args.length).length := List.length_pos_of_ne_nil (placeholder_ne_nil _)
  rw [h, ← length_fillOnce_concat_empty args template] at hround
  exact Nat.eq_of_mul_eq_mul_right hpos (Nat.add_left_cancel hround)

theorem fill_append (n : Nat) (before behind : List String) (text : List Char) :
    fill n (before ++ behind) text = fill (n + before.length) behind (fill n before text) := by
  induction before generalizing n text with
  | nil => rfl
  | cons arg before ih =>
      rw [List.cons_append, fill, fill, ih, List.length_cons, Nat.add_assoc, Nat.add_comm 1]

/-- None of an argument's placeholders is brought in just if the arguments so far, together with any text for the next one, are
put in as in one pass. -/
theorem noneBroughtIn_iff :
    NoneBroughtIn args template ↔
      ∀ n < args.length, ∀ arg, fill 0 (args.take n ++ [arg]) template = fillOnce (args.take n ++ [arg]) template := by
  constructor
  · intro h n hn arg
    have hnone : NoneBroughtIn ([] ++ (args.take n ++ [arg])) template := by
      intro k hk
      have hlength : (args.take n).length = n := List.length_take_of_le (Nat.le_of_lt hn)
      rw [List.nil_append, List.length_append, List.length_singleton, hlength] at hk
      rw [List.nil_append, List.take_append_of_le_length (by omega), List.take_take, Nat.min_eq_left (by omega)]
      exact h k (by omega)
    have hfill := fill_fillOnce hnone
    rwa [fillOnce_nil] at hfill
  · intro h n hn
    have hlength : (args.take n).length = n := List.length_take_of_le (Nat.le_of_lt hn)
    have hbefore : fill 0 (args.take n) template = fillOnce (args.take n) template := by
      cases n with
      | zero => rw [List.take_zero, fill, fillOnce_nil]
      | succ n =>
          rw [List.take_succ_eq_append_getElem (by omega)]
          exact h n (by omega) _
    have hnext := h n hn ""
    rw [fill_append, hbefore, Nat.zero_add, fill, fill] at hnext
    have hsame := occurrences_fillOnce hnext
    rwa [hlength] at hsame

/-! ### Templates with placeholders set apart -/

theorem isSign_of_mem_behind_open (h : c ∈ (toString n).toList ++ ['\x7d']) : IsSign c := by
  rcases List.mem_append.mp h with h | h
  · exact .inl (isDigit_of_mem_toString h)
  · exact .inr (.inr (List.mem_singleton.mp h))

/-- A text brings no placeholder in if it does not contain it and nothing that a placeholder has follows the text. -/
theorem occurrences_append_of_not_infix {before : List Char} (h : ¬ placeholder n <:+: before)
    (hbehind : ∀ c ∈ rest.head?, ¬ IsSign c) :
    occurrences (placeholder n) (before ++ rest) = occurrences (placeholder n) rest := by
  induction before with
  | nil => rfl
  | cons c before ih =>
      rw [List.infix_cons_iff, not_or] at h
      have hprefix : ¬ placeholder n <+: c :: (before ++ rest) := by
        intro hprefix
        rw [← List.cons_append] at hprefix
        rcases List.prefix_or_prefix_of_prefix hprefix (List.prefix_append _ _) with hwithin | ⟨beyond, hbeyond⟩
        · exact h.1 hwithin
        · cases beyond with
          | nil => exact h.1 (by rw [← hbeyond, List.append_nil])
          | cons d beyond =>
              -- the placeholder reaches beyond the end, and `d` is its first character behind it
              rw [← hbeyond, List.prefix_append_right_inj] at hprefix
              obtain ⟨behind, rfl⟩ := hprefix
              refine hbehind d rfl (isSign_of_mem_behind_open (n := n) ?_)
              rw [placeholder, List.cons_append, List.cons_append, List.cons.injEq] at hbeyond
              rw [← hbeyond.2]
              simp
      rw [List.cons_append, Text.occurrences_cons, if_neg hprefix, ih h.2, Nat.add_zero]

/-- Behind a digit or an opening brace, digits and braces stand in the filled template only where they stand in the template. -/
theorem prefix_of_prefix_fillOnce {word : List Char} (hword : ∀ c ∈ word, IsSign c) (hapart : SetApart (c :: rest))
    (hc : IsSign c) (h : word <+: fillOnce args rest) : word <+: rest := by
  induction word generalizing c rest with
  | nil => exact List.nil_prefix
  | cons d word ih =>
      cases rest with
      | nil => exact absurd h (by simp [fillOnce, fillFrom])
      | cons next rest =>
          obtain ⟨hnext, hapart⟩ := List.isChain_cons_cons.mp hapart
          have hne : next ≠ '\x7b' := fun hopen => hnext.1 hopen hc
          rw [fillOnce_cons fun n _ => not_placeholder_prefix_of_ne hne, List.cons_prefix_cons] at h
          obtain ⟨rfl, h⟩ := h
          obtain ⟨hd, hword⟩ := List.forall_mem_cons.mp hword
          exact List.cons_prefix_cons.mpr ⟨rfl, ih hword hapart hd h⟩

/-- What is put in behind a character makes no placeholder with it. -/
theorem placeholder_prefix_cons_fillOnce_iff (hapart : SetApart (c :: rest)) :
    placeholder n <+: c :: fillOnce args rest ↔ placeholder n <+: c :: rest := by
  rw [placeholder, List.cons_append, List.cons_prefix_cons, List.cons_prefix_cons]
  refine and_congr_right fun hopen => ⟨fun hinner => ?_, fun hinner => ?_⟩
  · exact prefix_of_prefix_fillOnce (fun d hd => isSign_of_mem_behind_open hd) hapart (.inr (.inl hopen.symm)) hinner
  · obtain ⟨behind, rfl⟩ := hinner
    rw [fillOnce_append _ (not_mem_behind_open n)]
    exact List.prefix_append _ _

theorem head?_fillOnce_of_setApart (h : SetApart ('\x7d' :: rest)) : ∀ c ∈ (fillOnce args rest).head?, ¬ IsSign c := by
  cases rest with
  | nil => simp [fillOnce, fillFrom]
  | cons next rest =>
      have hnext : ¬ IsSign next := (List.isChain_cons_cons.mp h).1.2 rfl
      have hne : next ≠ '\x7b' := fun hopen => hnext (.inr (.inl hopen))
      rw [fillOnce_cons fun n _ => not_placeholder_prefix_of_ne hne]
      intro c hc
      obtain rfl := Option.some.inj hc
      exact hnext

/-- Where placeholders are set apart, only an argument that contains the placeholder of a later one brings it in. -/
theorem noneBroughtIn_of_setApart (hapart : SetApart template)
    (h : ∀ n < args.length, ∀ arg ∈ args.take n, ¬ placeholder n <:+: arg.toList) : NoneBroughtIn args template := by
  intro n hn
  have hlength : (args.take n).length = n := List.length_take_of_le (Nat.le_of_lt hn)
  have hargs := h n hn
  induction template using template_induction (args.take n).length with
  | nil => rfl
  | argument m rest hm ih =>
      have hmem := hargs _ (List.getElem_mem hm)
      rw [placeholder_append] at hapart
      have hclosed : SetApart ('\x7d' :: rest) := (List.isChain_cons.mp hapart).2.right_of_append
      rw [fillOnce_placeholder hm, occurrences_append_of_not_infix hmem (head?_fillOnce_of_setApart hclosed),
        ih (List.isChain_cons.mp hclosed).2, occurrences_placeholder_of_ne (by omega)]
  | copy c rest hplain ih =>
      rw [fillOnce_cons hplain, Text.occurrences_cons, Text.occurrences_cons, ih (List.isChain_cons.mp hapart).2,
        if_congr (placeholder_prefix_cons_fillOnce_iff hapart) rfl rfl]

theorem setApart_template (key : MessageKey) : SetApart key.template.toList := by
  cases key <;> decide +kernel

/-! ### Messages -/

/-- **Filling a template is one pass** if no argument brings in the placeholder of a later one, which is to say that the arguments
before each one, with any text in its place, are put in by one pass. In a template whose placeholders are set apart, as they are
in the English ones, no argument does so unless it contains one. -/
theorem format_eq_fillOnce (catalog : MessageCatalog) (key : MessageKey) (args : List String) :
    let template := (catalog.lookup key).toList
    (NoneBroughtIn args template → catalog.format key args = String.ofList (fillOnce args template)) ∧
      (NoneBroughtIn args template ↔ ∀ n < args.length, ∀ arg,
        catalog.format key (args.take n ++ [arg]) = String.ofList (fillOnce (args.take n ++ [arg]) template)) ∧
      (SetApart template → (∀ n < args.length, ∀ arg ∈ args.take n, ¬ placeholder n <:+: arg.toList) →
        NoneBroughtIn args template) ∧
      SetApart key.template.toList := by
  intro template
  refine ⟨fun h => ?_, ?_, noneBroughtIn_of_setApart, setApart_template key⟩
  · have hfill := @fill_fillOnce template [] args h
    rw [fillOnce_nil] at hfill
    exact congrArg String.ofList hfill
  · simp only [noneBroughtIn_iff, format, String.ofList_inj]
    rfl

/-- The value contains its own placeholder, which is not looked for again. -/
theorem format_eq_fillOnce_ownPlaceholder :
    let template := (english.lookup .attributeInvalidValue).toList
    let args := ["{0}", "size"]
    SetApart template ∧ (∀ n < args.length, ∀ arg ∈ args.take n, ¬ placeholder n <:+: arg.toList) ∧
      NoneBroughtIn args template ∧
      english.format .attributeInvalidValue args = "'{0}' isn't an allowed value for the 'size' attribute" := by
  intro template args
  have hapart : SetApart template := setApart_template .attributeInvalidValue
  have hcontains : ∀ n < args.length, ∀ arg ∈ args.take n, ¬ placeholder n <:+: arg.toList := by decide +kernel
  obtain ⟨hformat, -, hnone, -⟩ := format_eq_fillOnce english .attributeInvalidValue args
  have hfilled : String.ofList (fillOnce args template) = "'{0}' isn't an allowed value for the 'size' attribute" := by
    decide +kernel
  exact ⟨hapart, hcontains, hnone hapart hcontains, (hformat (hnone hapart hcontains)).trans hfilled⟩

/-- **Arguments are read.** A value of the document that looks like the placeholder of the attribute's name is taken for it, and
so are braces of a template that an argument between them puts together. -/
theorem format_reads_arguments :
    let template := english.lookup .attributeInvalidValue
    let args := ["{1}", "size"]
    let joined := english.withTemplate .passthru "\x7b{0}1\x7d"
    String.ofList (fillOnce args template.toList) = "'{1}' isn't an allowed value for the 'size' attribute" ∧
      english.format .attributeInvalidValue args = "'size' isn't an allowed value for the 'size' attribute" ∧
      String.ofList (fillOnce ["", "x"] (joined.lookup .passthru).toList) = "{1}" ∧
      joined.format .passthru ["", "x"] = "x" := by
  decide +kernel

end MessageCatalog

end XmlDiagnostics
