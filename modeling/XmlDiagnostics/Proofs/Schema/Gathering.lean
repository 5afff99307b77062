import XmlDiagnostics.Proofs.Schema.Equations
import XmlDiagnostics.Proofs.Schema.Occurrence

/-! # Gathering content models

The content of an element is gathered by errands: to visit a component, or to follow a reference. `Gathers` is what
the errands lead to when nothing but the visited components ends them. Every list of errands leads to
something (`exists_gathers`), and what it leads to is the content that a grammar
gathers (`Gathers.content_eq`). -/

namespace XmlDiagnostics

open Schema

/-! ### Parts of content models -/

/-- Whether what stands inside a component belongs to the content models that the component is part of. -/
def Schema.Node.isTransparent (n : Node) : Bool :=
  match n.kind with
  | .container | .complexType | .derivation => true
  | .group | .attributeGroup => (n.attribute? "ref").isNone
  | _ => false

/-- The reference to a global component that continues the content models that a component is part of. -/
def Schema.Node.reference? (n : Node) : Option (GlobalKind × String) :=
  match n.kind with
  | .group => (n.attribute? "ref").map (.group, ·)
  | .attributeGroup => (n.attribute? "ref").map (.attributeGroup, ·)
  | .derivation => (n.attribute? "base").map (.type, ·)
  | _ => none

/-- Whether a component is one of those that content models consist of: an element or an attribute. -/
def Schema.Node.isItem (n : Node) : Bool := n.kind = .element || n.kind = .attributeUse

theorem Schema.Node.ne_element_of_reference? {n : Node} {r : GlobalKind × String} (h : n.reference? = some r) :
    r.1 ≠ .element := by
  unfold reference? at h
  split at h
  · obtain ⟨_, -, rfl⟩ := Option.map_eq_some_iff.mp h
    exact nofun
  · obtain ⟨_, -, rfl⟩ := Option.map_eq_some_iff.mp h
    exact nofun
  · obtain ⟨_, -, rfl⟩ := Option.map_eq_some_iff.mp h
    exact nofun
  · cases h

/-! ### Errands -/

/-- A step of gathering, with the places of components. -/
inductive Errand (g : Grammar) where
  | visit (o : Occurrence g)
  | follow (sort : GlobalKind) (hsort : sort ≠ .element) (number : Nat) (reference : String)

/-- The step without places. -/
def Errand.task {g : Grammar} : Errand g → Grammar.Task
  | visit o => .visit o.definition
  | follow sort _ number reference => .follow sort number reference

namespace Occurrence

variable {g : Grammar}

/-- The errands into a component. -/
def visits (o : Occurrence g) : List (Errand g) := o.inside.map .visit

/-- The errand along the reference of a component. -/
def follows (o : Occurrence g) : List (Errand g) :=
  (o.node.reference?.pmap (fun r hr => Errand.follow r.1 hr o.number r.2) fun _ => Node.ne_element_of_reference?).toList

/-- The errands that a part of a content model leads to. -/
def errands (o : Occurrence g) : List (Errand g) := o.follows ++ if o.node.isTransparent then o.visits else []

/-- The errands for the content of an element declaration. -/
def contentErrands (o : Occurrence g) : List (Errand g) :=
  (o.node.attribute? "type").toList.map (Errand.follow .type nofun o.number) ++
    (o.inside.filter fun child => child.node.kind = .complexType).flatMap visits

theorem map_task_visits (o : Occurrence g) : o.visits.map Errand.task = Grammar.tasksInside o.definition := by
  have htask : Errand.task ∘ Errand.visit = Grammar.Task.visit ∘ definition (g := g) := rfl
  rw [visits, List.map_map, htask, ← List.map_map, map_definition_inside, List.map_map]
  rfl

theorem map_task_follows (o : Occurrence g) :
    o.follows.map Errand.task = (o.node.reference?.map fun r => Grammar.Task.follow r.1 o.number r.2).toList := by
  rw [follows, ← Option.toList_map, Option.map_pmap]
  exact congrArg Option.toList (Option.pmap_eq_map ..)

theorem map_task_errands (o : Occurrence g) : o.errands.map Errand.task = Grammar.tasksOf o.definition := by
  have hvisits := o.map_task_visits
  rw [errands, List.map_append, map_task_follows, apply_ite (List.map Errand.task), hvisits]
  have hnode : o.definition.node = o.node := rfl
  rw [Grammar.tasksOf, Node.reference?, Node.isTransparent, hnode]
  cases hkind : o.node.kind with
  | group => cases o.node.attribute? "ref" <;> simp [definition]
  | attributeGroup => cases o.node.attribute? "ref" <;> simp [definition]
  | derivation => cases o.node.attribute? "base" <;> simp [definition]
  | _ => simp

theorem map_definition_filter_inside (o : Occurrence g) (kind : Kind) :
    (o.inside.filter fun child => child.node.kind = kind).map definition =
      (o.node.childrenOf kind).map fun n => (⟨o.number, n⟩ : Definition) := by
  have hfilter := List.filter_map (f := definition (g := g)) (p := fun d => decide (d.node.kind = kind)) (l := o.inside)
  rw [map_definition_inside, List.filter_map] at hfilter
  exact hfilter.symm

theorem map_task_contentErrands (o : Occurrence g) :
    o.contentErrands.map Errand.task =
      (o.node.attribute? "type").toList.map (fun name => .follow .type o.number name) ++
        (o.node.childrenOf .complexType).flatMap fun n => Grammar.tasksInside ⟨o.number, n⟩ := by
  have hinside :
      ((o.inside.filter fun child => child.node.kind = .complexType).flatMap visits).map Errand.task =
        (o.node.childrenOf .complexType).flatMap fun n => Grammar.tasksInside ⟨o.number, n⟩ := by
    rw [List.map_flatMap]
    simp only [map_task_visits]
    rw [← List.flatMap_map definition, map_definition_filter_inside, List.flatMap_map]
  rw [contentErrands, List.map_append, hinside, List.map_map]
  rfl

end Occurrence

/-! ### Gathering -/

/-- What errands lead to, in order, when the global components with the keys in `visited` are not looked into again. -/
inductive Gathers (g : Grammar) : List Key → List (Errand g) → List (Occurrence g) → Prop
  | done {visited} : Gathers g visited [] []
  | item {visited o rest found} :
      o.node.isItem → Gathers g visited rest found → Gathers g visited (.visit o :: rest) (o :: found)
  | enter {visited o rest found} :
      ¬ o.node.isItem → Gathers g visited (o.errands ++ rest) found → Gathers g visited (.visit o :: rest) found
  | dangling {visited sort hsort number reference rest found} :
      g.lookup sort number reference = none → Gathers g visited rest found →
        Gathers g visited (.follow sort hsort number reference :: rest) found
  | again {visited sort hsort number reference o rest found} :
      g.Means sort number reference o → Grammar.keyOf sort o.definition ∈ visited → Gathers g visited rest found →
        Gathers g visited (.follow sort hsort number reference :: rest) found
  | first {visited sort hsort number reference o rest found} :
      g.Means sort number reference o → Grammar.keyOf sort o.definition ∉ visited →
        Gathers g (Grammar.keyOf sort o.definition :: visited) (o.visits ++ rest) found →
          Gathers g visited (.follow sort hsort number reference :: rest) found

/-- The keys of the global components that are still to be looked into. -/
def Grammar.unvisited (g : Grammar) (visited : List Key) : List Key := g.keys.filter fun key => key ∉ visited

section Unvisited

variable {g : Grammar} {visited : List Key} {sort : GlobalKind} {o : Occurrence g}

theorem Grammar.unvisited_nil : g.unvisited [] = g.keys := by
  simp [unvisited]

theorem Grammar.erase_unvisited (key : Key) : (g.unvisited visited).erase key = g.unvisited (key :: visited) :=
  erase_filter_not_mem g.nodup_keys visited key

theorem Occurrence.IsGlobal.mem_unvisited (h : o.IsGlobal sort) (hsort : sort ≠ .element) :
    Grammar.keyOf sort o.definition ∈ g.unvisited visited ↔ Grammar.keyOf sort o.definition ∉ visited := by
  rw [Grammar.unvisited, List.mem_filter]
  simp [h.keyOf_mem_keys hsort]

end Unvisited

variable {g : Grammar}

/-- Every list of errands leads to something: what is entered is smaller, or less is left to be looked into. -/
theorem exists_gathers (visited : List Key) : ∀ errands : List (Errand g), ∃ found, Gathers g visited errands found
  | [] => ⟨[], .done⟩
  | .visit o :: rest => by
      by_cases hitem : o.node.isItem
      · obtain ⟨found, hfound⟩ := exists_gathers visited rest
        exact ⟨_, .item hitem hfound⟩
      · have hless := Grammar.weights_tasksOf_lt o.definition
        obtain ⟨found, hfound⟩ := exists_gathers visited (o.errands ++ rest)
        exact ⟨_, .enter hitem hfound⟩
  | .follow sort hsort number reference :: rest => by
      obtain ⟨found, hfound⟩ := exists_gathers visited rest
      cases hlookup : g.lookup sort number reference with
      | none => exact ⟨_, .dangling hlookup hfound⟩
      | some d =>
          obtain ⟨o, rfl, hmeans⟩ := Grammar.exists_means hlookup
          by_cases hvisited : Grammar.keyOf sort o.definition ∈ visited
          · exact ⟨_, .again hmeans hvisited hfound⟩
          · have hfresh := (hmeans.isGlobal.mem_unvisited hsort).mpr hvisited
            have hless := Grammar.length_erase_lt hfresh
            obtain ⟨found, hfound⟩ := exists_gathers (Grammar.keyOf sort o.definition :: visited) (o.visits ++ rest)
            exact ⟨_, .first hmeans hvisited hfound⟩
termination_by errands => ((g.unvisited visited).length, Grammar.weights (errands.map Errand.task))
decreasing_by
  · right
    exact Grammar.weights_lt_cons _ _
  · right
    rw [List.map_append, Grammar.weights_append, o.map_task_errands]
    have hrest : Grammar.weights ((Errand.visit o :: rest).map Errand.task) =
      o.definition.node.weight + Grammar.weights (rest.map Errand.task) := rfl
    omega
  · right
    exact Grammar.weights_lt_cons _ _
  · left
    rwa [Grammar.erase_unvisited] at hless

namespace Gathers

theorem unique {visited : List Key} {errands : List (Errand g)} {found found' : List (Occurrence g)}
    (h : Gathers g visited errands found) (h' : Gathers g visited errands found') : found = found' := by
  induction h generalizing found' with
  | done =>
      cases h'
      rfl
  | item hitem _ ih =>
      cases h' with
      | item _ hrest => rw [ih hrest]
      | enter hitem' => exact absurd hitem hitem'
  | enter hitem _ ih =>
      cases h' with
      | item hitem' => exact absurd hitem' hitem
      | enter _ hrest => exact ih hrest
  | dangling hlookup _ ih =>
      cases h' with
      | dangling _ hrest => exact ih hrest
      | again hmeans => cases hlookup.symm.trans hmeans.lookup_eq
      | first hmeans => cases hlookup.symm.trans hmeans.lookup_eq
  | again hmeans hvisited _ ih =>
      cases h' with
      | dangling hlookup => cases hlookup.symm.trans hmeans.lookup_eq
      | again _ _ hrest => exact ih hrest
      | first hmeans' hfresh =>
          obtain rfl := hmeans.unique hmeans'
          exact absurd hvisited hfresh
  | first hmeans hfresh _ ih =>
      cases h' with
      | dangling hlookup => cases hlookup.symm.trans hmeans.lookup_eq
      | again hmeans' hvisited =>
          obtain rfl := hmeans.unique hmeans'
          exact absurd hvisited hfresh
      | first hmeans' _ hrest =>
          obtain rfl := hmeans.unique hmeans'
          exact ih hrest

end Gathers

/-! ### Content models -/

namespace Occurrence

/-- The attribute that a component allows. -/
def allowed? (o : Occurrence g) : Option String :=
  if o.node.kind = .attributeUse then Grammar.attributeName? o.node else none

/-- The components among others that are elements. -/
def elements (l : List (Occurrence g)) : List (Occurrence g) := l.filter fun o => o.node.kind = .element

/-- The content model that consists of some components. -/
def content (items : List (Occurrence g)) : Grammar.Content where
  attributes := .ofList (items.filterMap allowed?)
  particles := (elements items).map definition

theorem content_cons_element {o : Occurrence g} (h : o.node.kind = .element) (items : List (Occurrence g)) :
    content (o :: items) = { content items with particles := o.definition :: (content items).particles } := by
  have hallowed : o.allowed? = none := by rw [allowed?, h, if_neg nofun]
  rw [content, List.filterMap_cons_none hallowed, elements, List.filter_cons_of_pos (by simp [h]), List.map_cons]
  rfl

theorem content_cons_attribute {o : Occurrence g} (h : o.node.kind = .attributeUse) (items : List (Occurrence g)) :
    content (o :: items) =
      match Grammar.attributeName? o.node with
      | some name => { content items with attributes := (content items).attributes.insert name }
      | none => content items := by
  have hallowed : o.allowed? = Grammar.attributeName? o.node := by rw [allowed?, if_pos h]
  rw [content, elements, List.filter_cons_of_neg (by simp [h])]
  cases hname : Grammar.attributeName? o.node with
  | none =>
      rw [List.filterMap_cons_none (hallowed.trans hname)]
      rfl
  | some name =>
      rw [List.filterMap_cons_some (hallowed.trans hname)]
      rfl

end Occurrence

namespace Gathers

/-- A grammar gathers what the errands lead to. -/
theorem gather_eq {visited : List Key} {errands : List (Errand g)} {found : List (Occurrence g)}
    (h : Gathers g visited errands found) :
    g.gather (g.unvisited visited) (errands.map Errand.task) = Occurrence.content found := by
  induction h with
  | done =>
      rw [List.map_nil, Grammar.gather]
      rfl
  | @item visited o rest found hitem _ ih =>
      rw [List.map_cons, Errand.task, Grammar.gather, ih, Occurrence.definition_node]
      have hkind : o.node.kind = .element ∨ o.node.kind = .attributeUse := by simpa [Node.isItem] using hitem
      rcases hkind with helement | hattribute
      · rw [Occurrence.content_cons_element helement, if_pos helement]
      · have helement : o.node.kind ≠ .element := by rw [hattribute]; decide
        have hcons := Occurrence.content_cons_attribute hattribute found
        refine (if_neg helement).trans ((if_pos hattribute).trans (Eq.trans ?_ hcons.symm))
        cases Grammar.attributeName? o.node with
        | none => rfl
        | some name => rfl
  | @enter visited o rest found hitem _ ih =>
      have hkind : o.definition.node.kind ≠ .element ∧ o.definition.node.kind ≠ .attributeUse := by
        simpa [Node.isItem] using hitem
      rw [List.map_append, o.map_task_errands] at ih
      rw [List.map_cons, Errand.task, Grammar.gather, if_neg hkind.1, if_neg hkind.2, ih]
  | dangling hlookup _ ih =>
      rw [List.map_cons, Errand.task, Grammar.gather_follow_of_lost hlookup, ih]
  | @again visited sort hsort number reference o rest found hmeans hvisited _ ih =>
      have hfresh : Grammar.keyOf sort o.definition ∉ g.unvisited visited := fun hmem =>
        (hmeans.isGlobal.mem_unvisited hsort).mp hmem hvisited
      rw [List.map_cons, Errand.task, Grammar.gather_follow_of_visited hmeans.lookup_eq hfresh, ih]
  | @first visited sort hsort number reference o rest found hmeans hvisited _ ih =>
      have hfresh := (hmeans.isGlobal.mem_unvisited hsort).mpr hvisited
      rw [List.map_append, o.map_task_visits, ← Grammar.erase_unvisited] at ih
      rw [List.map_cons, Errand.task, Grammar.gather_follow_of_fresh hmeans.lookup_eq hfresh, ih]

/-- The content of an element declaration is what its errands lead to. -/
theorem content_eq {start : Occurrence g} {found : List (Occurrence g)} (h : Gathers g [] start.contentErrands found) :
    g.content start.definition = Occurrence.content found := by
  rw [← h.gather_eq, Grammar.unvisited_nil, start.map_task_contentErrands]
  rfl

end Gathers

end XmlDiagnostics
