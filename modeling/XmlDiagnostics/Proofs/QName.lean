import XmlDiagnostics.QName

/-! # Names and their written forms

A text with braces around a namespace at its front is read as a name in this namespace, every other text as a local
name (`parse_cases`). Writing and reading undo each other as long as the braces stay apart from the braces that
names may have themselves (`written_form_reads_back`). -/

namespace XmlDiagnostics.QName

/-- Whether a text opens with a brace and has a closing one behind it. -/
def IsBraced (text : String) : Prop := ∃ rest, text.toList = '\x7b' :: rest ∧ '\x7d' ∈ rest

theorem display_bare {name : QName} (h : name.namespaceUri = "") : name.display = name.localName := by
  rw [display, if_pos h]

theorem toList_display {name : QName} (h : name.namespaceUri ≠ "") :
    name.display.toList = '\x7b' :: (name.namespaceUri.toList ++ '\x7d' :: name.localName.toList) := by
  rw [display, if_neg h]
  simp

theorem parse_of_braces {text : String} {uri name : List Char} (htext : text.toList = '\x7b' :: (uri ++ '\x7d' :: name))
    (huri : '\x7d' ∉ uri) : parse text = ⟨String.ofList uri, String.ofList name⟩ := by
  rw [parse, htext]
  simp only [Text.splitAtFirst_append huri]

theorem parse_of_not_isBraced {text : String} (h : ¬ IsBraced text) : parse text = bare text := by
  unfold parse
  split
  · rename_i rest htext
    have hnone : Text.splitAtFirst '\x7d' rest = none :=
      Text.splitAtFirst_eq_none.mpr fun hmem => h ⟨rest, htext, hmem⟩
    rw [hnone]
  · rfl

/-- A text is read by its first closing brace if it is braced, and as a local name else. -/
theorem parse_cases (text : String) :
    (∃ uri name, '\x7d' ∉ uri ∧ text.toList = '\x7b' :: (uri ++ '\x7d' :: name) ∧
      parse text = ⟨String.ofList uri, String.ofList name⟩) ∨
    (¬ IsBraced text ∧ parse text = bare text) := by
  by_cases h : IsBraced text
  · obtain ⟨rest, htext, hmem⟩ := h
    obtain ⟨⟨uri, name⟩, hsplit⟩ : ∃ parts, Text.splitAtFirst '\x7d' rest = some parts :=
      Option.ne_none_iff_exists'.mp fun hnone => Text.splitAtFirst_eq_none.mp hnone hmem
    obtain ⟨rfl, huri⟩ := Text.splitAtFirst_eq_some hsplit
    exact .inl ⟨uri, name, huri, htext, parse_of_braces htext huri⟩
  · exact .inr ⟨h, parse_of_not_isBraced h⟩

/-- No namespace that is read has a closing brace. -/
theorem not_mem_namespaceUri_parse (text : String) : '\x7d' ∉ (parse text).namespaceUri.toList := by
  rcases parse_cases text with ⟨uri, name, huri, -, hparse⟩ | ⟨-, hparse⟩
  · rwa [hparse, String.toList_ofList]
  · rw [hparse]
    exact List.not_mem_nil

theorem parse_display_of_namespace {name : QName} (h : name.namespaceUri ≠ "") :
    parse name.display = name ↔ '\x7d' ∉ name.namespaceUri.toList := by
  constructor
  · intro hparse hmem
    have hclean := not_mem_namespaceUri_parse name.display
    rw [hparse] at hclean
    exact hclean hmem
  · intro hclean
    rw [parse_of_braces (toList_display h) hclean, String.ofList_toList, String.ofList_toList]

theorem parse_display_of_bare {name : QName} (h : name.namespaceUri = "") :
    parse name.display = name ↔ ¬ IsBraced name.localName := by
  obtain ⟨space, localName⟩ := name
  obtain rfl : space = "" := h
  rw [display_bare rfl]
  rcases parse_cases localName with ⟨uri, name, -, htext, hparse⟩ | ⟨hnot, hparse⟩
  · have hbraced : IsBraced localName := ⟨_, htext, List.mem_append_right _ List.mem_cons_self⟩
    refine iff_of_false (fun hsame => ?_) (not_not_intro hbraced)
    -- what stands behind the braces is shorter than the text with them
    rw [hparse] at hsame
    have hlocal : String.ofList name = localName := congrArg QName.localName hsame
    have hlength := congrArg List.length htext
    rw [← hlocal, String.toList_ofList] at hlength
    simp only [List.length_cons, List.length_append] at hlength
    omega
  · exact iff_of_true hparse hnot

theorem display_parse_iff (text : String) : (parse text).display = text ↔ ¬ ['\x7b', '\x7d'] <+: text.toList := by
  rcases parse_cases text with ⟨uri, name, huri, htext, hparse⟩ | ⟨hnot, hparse⟩
  · rw [hparse, htext]
    cases uri with
    | nil =>
        refine iff_of_false (fun hsame => ?_) (not_not_intro ⟨name, rfl⟩)
        rw [display_bare rfl] at hsame
        have hlength := congrArg List.length htext
        rw [← hsame, String.toList_ofList] at hlength
        simp only [List.length_cons, List.length_append] at hlength
        omega
    | cons c uri =>
        have hne : String.ofList (c :: uri) ≠ "" := fun h => by simpa using congrArg String.toList h
        refine iff_of_true (String.toList_inj.mp ?_) fun hprefix => ?_
        · rw [toList_display hne, String.toList_ofList, String.toList_ofList, htext]
        · have hc : '\x7d' = c := by simpa using hprefix
          exact huri (hc ▸ List.mem_cons_self)
  · rw [hparse]
    refine iff_of_true (display_bare rfl) fun ⟨rest, htext⟩ => hnot ⟨_, htext.symm, List.mem_cons_self⟩

/-- **Reading and writing names.** A name is read back from its written form just if its namespace has no closing brace,
or it has no namespace and its local name is not braced itself. A text is written back from the name that is read just
if it does not begin with empty braces. -/
theorem written_form_reads_back :
    (∀ name : QName, parse name.display = name ↔
      (name.namespaceUri ≠ "" ∧ '\x7d' ∉ name.namespaceUri.toList) ∨
        (name.namespaceUri = "" ∧ ¬ IsBraced name.localName)) ∧
    ∀ text : String, (parse text).display = text ↔ ¬ ['\x7b', '\x7d'] <+: text.toList := by
  refine ⟨fun name => ?_, display_parse_iff⟩
  by_cases h : name.namespaceUri = ""
  · rw [parse_display_of_bare h]
    simp [h]
  · rw [parse_display_of_namespace h]
    simp [h]

end XmlDiagnostics.QName
