import XmlDiagnostics.Schema.Grammar

/-! # Equations for content models and trees

When a content model is gathered, a reference is followed if what it means has not been looked into
(`gather_follow_of_fresh`); else it adds nothing (`gather_follow_of_lost`, `gather_follow_of_visited`).

The tree of a declaration is the one of the declaration that it refers to at last. There is none if a reference is lost
on the way or the last declaration has no name (`expand_of_lost`, `expand_of_nameless`). Otherwise the declared element
is at the top, and the elements of its content are inside unless one around it has its name (`expand_of_unused`,
`expand_of_used`). -/

namespace XmlDiagnostics

open Schema

namespace Grammar

variable {g : Grammar}

/-! ### Content models -/

section Content

variable {sort : GlobalKind} {number : Nat} {reference : String} {fresh : List Key} {rest : List Task}

theorem gather_follow_of_lost (hlookup : g.lookup sort number reference = none) :
    g.gather fresh (.follow sort number reference :: rest) = g.gather fresh rest := by
  rw [gather, hlookup]

theorem gather_follow_of_fresh {d : Definition} (hlookup : g.lookup sort number reference = some d)
    (hfresh : keyOf sort d ∈ fresh) :
    g.gather fresh (.follow sort number reference :: rest) =
      g.gather (fresh.erase (keyOf sort d)) (tasksInside d ++ rest) := by
  rw [gather, hlookup]
  simp only [hfresh, dite_true]

theorem gather_follow_of_visited {d : Definition} (hlookup : g.lookup sort number reference = some d)
    (hvisited : keyOf sort d ∉ fresh) :
    g.gather fresh (.follow sort number reference :: rest) = g.gather fresh rest := by
  rw [gather, hlookup]
  simp only [hvisited, dite_false]

end Content

/-! ### Trees -/

variable {d d' : Declaration} {unused : List QName} {name : QName}

theorem target?_of_no_reference (h : d.definition.node.attribute? "ref" = none) (n : Nat) : g.target? n d = some d := by
  unfold target?
  rw [h]

section Reference

variable {reference : String} (href : d.definition.node.attribute? "ref" = some reference)

include href

theorem target?_zero : g.target? 0 d = none := by
  unfold target?
  rw [href]

theorem target?_of_lost (hlookup : g.lookup .element d.definition.schema reference = none) (n : Nat) :
    g.target? n d = none := by
  unfold target?
  rw [href]
  simp only [hlookup]

theorem target?_succ {n : Definition} (hlookup : g.lookup .element d.definition.schema reference = some n) (k : Nat) :
    g.target? (k + 1) d = g.target? k ⟨n, true⟩ := by
  rw [target?, href]
  simp only [hlookup]

end Reference

theorem expand_of_lost (htarget : g.target? (g.definitions .element).length d = none) : g.expand unused d = none := by
  rw [expand, htarget]

theorem expand_of_nameless (htarget : g.target? (g.definitions .element).length d = some d')
    (hname : g.nameOf? d' = none) : g.expand unused d = none := by
  rw [expand, htarget]
  simp only [hname]

theorem expand_of_unused (htarget : g.target? (g.definitions .element).length d = some d')
    (hname : g.nameOf? d' = some name) (hunused : name ∈ unused) :
    g.expand unused d =
      some (.node (some ⟨name, (g.content d'.definition).attributes⟩)
        (firstPerElement [] ((g.content d'.definition).particles.filterMap fun particle =>
          g.expand (unused.erase name) ⟨particle, false⟩))) := by
  rw [expand, htarget]
  simp only [hname, hunused, dite_true]

theorem expand_of_used (htarget : g.target? (g.definitions .element).length d = some d')
    (hname : g.nameOf? d' = some name) (hused : name ∉ unused) :
    g.expand unused d = some (.leaf ⟨name, (g.content d'.definition).attributes⟩) := by
  rw [expand, htarget]
  simp only [hname, hused, dite_false]

/-- An element without content is a leaf wherever it stands. -/
theorem expand_of_empty (htarget : g.target? (g.definitions .element).length d = some d')
    (hname : g.nameOf? d' = some name) (hempty : (g.content d'.definition).particles = []) :
    g.expand unused d = some (.leaf ⟨name, (g.content d'.definition).attributes⟩) := by
  by_cases hunused : name ∈ unused
  · rw [expand_of_unused htarget hname hunused, hempty]
    rfl
  · exact expand_of_used htarget hname hunused

theorem firstPerElement_singleton (tree : Tree GrammarElement) : firstPerElement [] [tree] = [tree] := by
  rw [firstPerElement]
  cases tree.value? <;> simp [firstPerElement]

/-- The tree of a grammar with one global element. -/
theorem tree_eq_of_expand {n : Definition} {tree : Tree GrammarElement}
    (hglobals : (g.schemas.zipIdx.flatMap fun (schema, number) =>
      (schema.root.childrenOf .element).map (Definition.mk number)) = [n])
    (hexpand : g.expand g.names ⟨n, true⟩ = some tree) : g.tree = .node none [tree] := by
  have htrees : (g.schemas.zipIdx.flatMap fun (schema, number) =>
      (schema.root.childrenOf .element).map (Definition.mk number)).filterMap
        (fun n => g.expand g.names ⟨n, true⟩) = [tree] := by
    rw [hglobals]
    simp [hexpand]
  rw [List.filterMap_flatMap] at htrees
  simp only [List.filterMap_map] at htrees
  rw [Grammar.tree]
  exact congrArg (Tree.node none) ((congrArg _ htrees).trans (firstPerElement_singleton tree))

end Grammar

end XmlDiagnostics
