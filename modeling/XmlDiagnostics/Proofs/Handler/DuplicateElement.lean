import XmlDiagnostics.Handler.Explain
import XmlDiagnostics.Proofs.Context.Siblings

/-! # The first occurrence of a repeated element

An error about a repeated element is placed at the start of the element, and a nested diagnosis at the start of the first
sibling before it that it repeats, if there is one (`first_occurrence`). Which siblings stand before an element is told from
their starts alone; these grow from sibling to sibling (`Document.startsGrow_read`). -/

namespace XmlDiagnostics

/-- An element is another occurrence of a repeated one: it has its name and, if the error names an attribute, the
value that tells occurrences apart, which is that of the repeated element or else that of the error. -/
structure ValidationError.Repeats (error : ValidationError) (duplicate other : Element) : Prop where
  name_eq : other.name = duplicate.name
  value_eq : ∀ attributeName value, error.attributeName = some attributeName →
    (duplicate.attribute? attributeName.localName = some value ∨
      duplicate.attribute? attributeName.localName = none ∧ error.attributeValue = some value) →
    other.attribute? attributeName.localName = some value

namespace Context

variable {ctx : Context} {error : ValidationError} {name : QName} {duplicate : Element}

/-! ### Siblings before an element -/

/-- Children of one node start one after the other. -/
theorem starts_of_childAt (hlength : ctx.text.length < 2 ^ 31) {address : List Nat} {element : Element}
    {before after : List (Tree Element)} (h : ctx.document.tree.ChildAt address before element after) :
    (∀ other ∈ before.filterMap Tree.value?, other.start < element.start) ∧
      ∀ other ∈ after.filterMap Tree.value?, element.start < other.start := by
  obtain ⟨parent, node, hparent, hchildren, hvalue⟩ := h
  have hstarts : (Document.topElements parent.children).Pairwise fun earlier later => earlier.start < later.start := by
    have hgrow := Document.startsGrow_read hlength
    have hmem := (leads_valuesTo hparent).mem_subtrees
    rw [ctx.document_tree_eq.1, Tree.subtrees, List.mem_cons] at hmem
    rw [← ctx.document_eq] at hgrow
    rcases hmem with rfl | hmem
    · exact hgrow.siblings
    · exact hgrow.below parent hmem
  rw [hchildren, Document.topElements, List.filterMap_append, List.filterMap_cons_some hvalue,
    List.pairwise_append] at hstarts
  obtain ⟨-, hafter, hbefore⟩ := hstarts
  refine ⟨fun other hother => ?_, fun other hother => ?_⟩
  · exact hbefore other hother element List.mem_cons_self
  · exact List.rel_of_pairwise_cons hafter hother

/-! ### The handler -/

/-- The key is the named attribute with the value that tells occurrences apart. -/
theorem keyOfDuplicate?_eq_some_iff {key value : String} :
    keyOfDuplicate? duplicate error = some (key, value) ↔
      ∃ attributeName, error.attributeName = some attributeName ∧ attributeName.localName = key ∧
        (duplicate.attribute? key = some value ∨ duplicate.attribute? key = none ∧ error.attributeValue = some value) := by
  unfold keyOfDuplicate?
  cases error.attributeName with
  | none => simp
  | some attributeName =>
      simp only [Option.bind_eq_bind, Option.bind_some, Option.bind_eq_some_iff, Option.or_eq_some_iff,
        Option.some.injEq, exists_eq_left']
      constructor
      · rintro ⟨value', hvalue, hkey⟩
        obtain ⟨rfl, rfl⟩ := Prod.mk.inj (Option.some.inj hkey)
        exact ⟨rfl, hvalue⟩
      · rintro ⟨rfl, hvalue⟩
        exact ⟨value, hvalue, rfl⟩

/-- Another occurrence is told from the name and the key. -/
theorem repeats_iff {other : Element} :
    error.Repeats duplicate other ↔ other.name = duplicate.name ∧
      (keyOfDuplicate? duplicate error).all (fun (key, value) => other.attribute? key = some value) = true := by
  rw [Option.all_eq_true]
  constructor
  · rintro ⟨hname, hvalues⟩
    refine ⟨hname, ?_⟩
    rintro ⟨key, value⟩ hkey
    obtain ⟨attributeName, hattribute, rfl, hvalue⟩ := keyOfDuplicate?_eq_some_iff.mp hkey
    exact decide_eq_true (hvalues attributeName value hattribute hvalue)
  · rintro ⟨hname, hkey⟩
    refine ⟨hname, fun attributeName value hattribute hvalue => ?_⟩
    have hfound := hkey _ (keyOfDuplicate?_eq_some_iff.mpr ⟨attributeName, hattribute, rfl, hvalue⟩)
    exact of_decide_eq_true hfound

instance {other : Element} : Decidable (error.Repeats duplicate other) := decidable_of_iff _ repeats_iff.symm

theorem isEarlierOccurrence_iff (hname : duplicate.name = name) {other : Element} :
    isEarlierOccurrence name duplicate (keyOfDuplicate? duplicate error) other = true ↔
      other.start < duplicate.start ∧ error.Repeats duplicate other := by
  unfold isEarlierOccurrence
  rw [repeats_iff, hname, Bool.and_eq_true, Bool.and_eq_true, decide_eq_true_iff, decide_eq_true_iff]
  exact ⟨fun ⟨⟨hsame, hearlier⟩, hkey⟩ => ⟨hearlier, hsame, hkey⟩,
    fun ⟨hearlier, hsame, hkey⟩ => ⟨⟨hsame, hearlier⟩, hkey⟩⟩

/-- The handler places an error at the repeated element, and points from there to the first sibling that it finds. -/
theorem explainDuplicateElement_eq (helement : error.element = some name)
    (hfound : (ctx.documentPathAt name error.position).getLast? = some duplicate) :
    let siblings := ctx.documentSiblings (ctx.documentPathAt name error.position)
      (isEarlierOccurrence name duplicate (keyOfDuplicate? duplicate error))
    let d := ctx.explainDuplicateElement error
    d.position = duplicate.start ∧ d.possiblyMalformed = false ∧
      d.nested.map Diagnosis.position = (siblings.head?.bind List.getLast?).toList.map Element.start := by
  intro siblings d
  have hd : d = ctx.explainDuplicateElement error := rfl
  unfold explainDuplicateElement at hd
  rw [helement] at hd
  simp only [hfound] at hd
  -- with and without a key, the messages differ but not the places
  split at hd <;> split at hd
  all_goals
    rename_i hfirst
    rw [hd, hfirst]
    exact ⟨rfl, rfl, rfl⟩

/-- The first sibling found is the first child before the repeated one that this repeats. -/
theorem first_sibling_eq (hlength : ctx.text.length < 2 ^ 31) (hname : duplicate.name = name) {address : List Nat}
    {before after : List (Tree Element)} (h : ctx.document.tree.ChildAt address before duplicate after) :
    let isEarlier := isEarlierOccurrence name duplicate (keyOfDuplicate? duplicate error)
    ((ctx.documentSiblings (ctx.document.tree.valuesTo address ++ [duplicate]) isEarlier).head?.bind List.getLast?) =
      (before.filterMap Tree.value?).find? isEarlier := by
  intro isEarlier
  have hlater : (after.filterMap Tree.value?).filter isEarlier = [] := by
    rw [List.filter_eq_nil_iff]
    intro other hother hearlier
    have hbehind := (starts_of_childAt hlength h).2 other hother
    have hahead := ((isEarlierOccurrence_iff hname).mp hearlier).1
    rw [Position.lt_def] at hbehind hahead
    omega
  rw [documentSiblings_of_childAt hlength h, List.filterMap_append, List.filter_append, hlater, List.append_nil,
    List.head?_map, List.head?_filter]
  cases (before.filterMap Tree.value?).find? isEarlier with
  | none => rfl
  | some first => simp

/-- **The first occurrence.** Let the element of an error be found in a document with fewer than `2 ^ 31` characters. The
handler of repeated elements places the error at its start. The element is a child of some node, and the handler points to
another place just if a child of this node before it is another occurrence of it, and then to one place, the start of the
first such child. -/
theorem first_occurrence (hlength : ctx.text.length < 2 ^ 31) (helement : error.element = some name)
    (hfound : (ctx.documentPathAt name error.position).getLast? = some duplicate) :
    let d := ctx.explainDuplicateElement error
    (ctx.registry.get? error.kind = some (.builtin .duplicateElement) → ctx.handle error = d) ∧
    d.position = duplicate.start ∧
    (∃ address before after, ctx.document.tree.ChildAt address before duplicate after ∧
      ctx.documentPathAt name error.position = ctx.document.tree.valuesTo address ++ [duplicate]) ∧
    ∀ address before after, ctx.document.tree.ChildAt address before duplicate after →
      ctx.documentPathAt name error.position = ctx.document.tree.valuesTo address ++ [duplicate] →
        (d.nested ≠ [] ↔ ∃ other ∈ before.filterMap Tree.value?, error.Repeats duplicate other) ∧
        ∀ former first latter, before.filterMap Tree.value? = former ++ first :: latter →
          error.Repeats duplicate first → (∀ other ∈ former, ¬ error.Repeats duplicate other) →
            d.nested.map Diagnosis.position = [first.start] := by
  intro d
  obtain ⟨hposition, hflag, hnested⟩ := explainDuplicateElement_eq helement hfound
  obtain ⟨address, before, element, after, hchild, hhere, hpath⟩ :=
    exists_childAt_of_mem_documentPaths (ctx.documentPathAt_mem hfound)
  obtain rfl : element = duplicate := by simpa [hpath] using hfound
  have hname : element.name = name := of_decide_eq_true (Bool.and_eq_true_iff.mp hhere).1
  refine ⟨fun hhandler => ?_, hposition, ⟨address, before, after, hchild, hpath⟩, ?_⟩
  · have hhandle : ctx.handle error = ctx.withFailure d := handle_of_handler hhandler
    rw [hhandle, withFailure_of_not_possiblyMalformed hflag]
  · clear hpath hchild
    intro address before after hchild hpath
    have hbefore := (starts_of_childAt hlength hchild).1
    rw [hpath, first_sibling_eq hlength hname hchild] at hnested
    constructor
    · have hnone : d.nested = [] ↔ ∀ other ∈ before.filterMap Tree.value?, ¬ error.Repeats element other := by
        rw [← List.map_eq_nil_iff, hnested, List.map_eq_nil_iff, Option.toList_eq_nil_iff, List.find?_eq_none]
        refine forall₂_congr fun other hother => not_congr ?_
        rw [isEarlierOccurrence_iff hname, and_iff_right (hbefore other hother)]
      rw [Ne, hnone]
      simp only [not_forall, not_not, exists_prop]
    · intro former first latter hsplit hrepeats hnone
      have hfirst : (before.filterMap Tree.value?).find?
          (isEarlierOccurrence name element (keyOfDuplicate? element error)) = some first := by
        rw [List.find?_eq_some_iff_append]
        refine ⟨(isEarlierOccurrence_iff hname).mpr ⟨hbefore first (by simp [hsplit]), hrepeats⟩, former, latter, hsplit, ?_⟩
        intro other hother
        rw [Bool.not_eq_true', Bool.eq_false_iff]
        exact fun hearlier => hnone other hother ((isEarlierOccurrence_iff hname).mp hearlier).2
      rw [hnested, hfirst]
      rfl

/-- Of the elements before the repeated one, the first has another parent and the second another value. -/
theorem first_occurrence_keyed :
    let ctx := ofText "<r>\n<y><x n='2'/></y>\n<x n='1'/>\n<x n='2'/>\n<x n='2'/></r>".toList
    let error : ValidationError :=
      { kind := .duplicateElement, message := "", position := ⟨5, 1⟩, element := some ⟨"", "x"⟩,
        attributeName := some ⟨"", "n"⟩ }
    let r : Element := ⟨⟨"", "r"⟩, .empty, ⟨1, 1⟩, ⟨5, 15⟩⟩
    let y : Element := ⟨⟨"", "y"⟩, .empty, ⟨2, 1⟩, ⟨2, 18⟩⟩
    let x (value : String) (start stop : Position) : Element := ⟨⟨"", "x"⟩, .ofList [("n", value)], start, stop⟩
    let before : List (Tree Element) :=
      [.node (some y) [.leaf (x "2" ⟨2, 4⟩ ⟨2, 14⟩)], .leaf (x "1" ⟨3, 1⟩ ⟨3, 11⟩), .leaf (x "2" ⟨4, 1⟩ ⟨4, 11⟩)]
    let duplicate := x "2" ⟨5, 1⟩ ⟨5, 11⟩
    ctx.text.length < 2 ^ 31 ∧ ctx.registry.get? error.kind = some (.builtin .duplicateElement) ∧
      ctx.documentPathAt ⟨"", "x"⟩ error.position = [r, duplicate] ∧
      ctx.document.tree.ChildAt [0] before duplicate [] ∧
      (ctx.handle error).position = ⟨5, 1⟩ ∧ (ctx.handle error).nested.map Diagnosis.position = [⟨4, 1⟩] := by
  intro ctx error r y x before duplicate
  have hlength : ctx.text.length < 2 ^ 31 := by decide
  have hhandler : ctx.registry.get? error.kind = some (.builtin .duplicateElement) := by decide
  have hpath : ctx.documentPathAt ⟨"", "x"⟩ error.position = [r, duplicate] := by decide +kernel
  have hparent : ctx.document.tree.at? [0] = some (.node (some r) (before ++ [.leaf duplicate])) := by
    with_unfolding_all rfl
  have hway : ctx.document.tree.valuesTo [0] ++ [duplicate] = [r, duplicate] := by decide +kernel
  have hchild : ctx.document.tree.ChildAt [0] before duplicate [] := ⟨_, .leaf duplicate, hparent, rfl, rfl⟩
  have hfound : (ctx.documentPathAt ⟨"", "x"⟩ error.position).getLast? = some duplicate := by rw [hpath]; rfl
  obtain ⟨hhandle, hposition, -, hplaces⟩ := first_occurrence hlength rfl hfound
  obtain ⟨-, hfirst⟩ := hplaces [0] before [] hchild (hpath.trans hway.symm)
  refine ⟨hlength, hhandler, hpath, hchild, ?_, ?_⟩
  · rw [hhandle hhandler, hposition]
  · rw [hhandle hhandler]
    exact hfirst [y, x "1" ⟨3, 1⟩ ⟨3, 11⟩] (x "2" ⟨4, 1⟩ ⟨4, 11⟩) [] rfl (by decide +kernel) (by decide +kernel)

end Context

end XmlDiagnostics
