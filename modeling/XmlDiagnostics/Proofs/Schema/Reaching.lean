import Mathlib.Data.List.Permutation
import Mathlib.Logic.Relation
import XmlDiagnostics.Proofs.Schema.Definitions
import XmlDiagnostics.Proofs.Schema.Gathering

/-! # What the content of an element consists of

The components that belong to the content of an element are those inside of the types, groups and parts
that the declaration opens (`Opened`). Gathering with a list of visited keys gets to all of them
(`Gathers.mem_iff`) and to none twice (`Gathers.nodup`), so that the content model that a grammar has for an element
is what can be reached from its declaration (`Grammar.content_reaches`). -/

namespace XmlDiagnostics

open Schema

variable {g : Grammar}

/-! ### Reachability -/

/-- The components whose insides belong to the content of an element declaration: the type inside of it and the type
that it names, parts inside of those, and what these parts refer to. -/
inductive Opened (start : Occurrence g) : Occurrence g → Prop
  | inner {o} : o ∈ start.inside → o.node.kind = .complexType → Opened start o
  | named {name o} : start.node.attribute? "type" = some name → g.Means .type start.number name o → Opened start o
  | part {o p} : Opened start o → p ∈ o.inside → p.node.isTransparent → Opened start p
  | referred {o p sort reference q} :
      Opened start o → p ∈ o.inside → p.node.reference? = some (sort, reference) →
        g.Means sort p.number reference q → Opened start q

/-- Whether a component belongs to the content of an element declaration. -/
def Reached (start o : Occurrence g) : Prop := ∃ p, Opened start p ∧ o ∈ p.inside

/-- Whether a component allows an attribute: one that it names or refers to and does not prohibit. -/
def Schema.Node.Allows (n : Node) (name : String) : Prop :=
  n.kind = .attributeUse ∧ n.attribute? "use" ≠ some "prohibited" ∧
    (n.attribute? "name" = some name ∨
      n.attribute? "name" = none ∧ ∃ reference, n.attribute? "ref" = some reference ∧
        String.ofList (localPart reference.toList) = name)

theorem Occurrence.allowed?_eq_some {o : Occurrence g} {name : String} :
    o.allowed? = some name ↔ o.node.Allows name := by
  unfold allowed? Grammar.attributeName? Node.Allows
  by_cases hkind : o.node.kind = .attributeUse
  · by_cases huse : o.node.attribute? "use" = some "prohibited"
    · simp [hkind, huse]
    · cases hname : o.node.attribute? "name" <;> simp [hkind, huse]
  · simp [hkind]

/-! ### Errands that are left -/

theorem Occurrence.mem_follows {o : Occurrence g} {e : Errand g} :
    e ∈ o.follows ↔
      ∃ sort hsort reference,
        o.node.reference? = some (sort, reference) ∧ e = .follow sort hsort o.number reference := by
  rw [follows, Option.mem_toList, Option.pmap_eq_some_iff]
  constructor
  · rintro ⟨⟨sort, reference⟩, hsort, hreference, rfl⟩
    exact ⟨sort, hsort, reference, hreference, rfl⟩
  · rintro ⟨sort, hsort, reference, hreference, rfl⟩
    exact ⟨⟨sort, reference⟩, hsort, hreference, rfl⟩

theorem Occurrence.mem_visits {o : Occurrence g} {e : Errand g} :
    e ∈ o.visits ↔ ∃ child ∈ o.inside, e = .visit child := by
  rw [visits, List.mem_map]
  constructor
  · rintro ⟨child, hchild, rfl⟩
    exact ⟨child, hchild, rfl⟩
  · rintro ⟨child, hchild, rfl⟩
    exact ⟨child, hchild, rfl⟩

theorem Occurrence.mem_errands {o : Occurrence g} {e : Errand g} :
    e ∈ o.errands ↔ e ∈ o.follows ∨ o.node.isTransparent ∧ e ∈ o.visits := by
  rw [errands, List.mem_append]
  cases o.node.isTransparent <;> simp

/-- Elements and attributes lead nowhere else. -/
theorem Occurrence.errands_of_isItem {o : Occurrence g} (h : o.node.isItem) : o.errands = [] := by
  have hkind : o.node.kind = .element ∨ o.node.kind = .attributeUse := by simpa [Node.isItem] using h
  have hnothing : Grammar.tasksOf o.definition = [] := by
    rcases hkind with hkind | hkind <;> rw [Grammar.tasksOf, definition_node, hkind]
  rw [← map_task_errands] at hnothing
  exact List.map_eq_nil_iff.mp hnothing

/-- What an errand leads to through global components whose keys are not in `visited`. -/
inductive Fetches (g : Grammar) (visited : List Key) : Errand g → Occurrence g → Prop
  | item {o} : o.node.isItem → Fetches g visited (.visit o) o
  | enter {o e found} : e ∈ o.errands → Fetches g visited e found → Fetches g visited (.visit o) found
  | follow {sort hsort number reference o e found} :
      g.Means sort number reference o → Grammar.keyOf sort o.definition ∉ visited → e ∈ o.visits →
        Fetches g visited e found → Fetches g visited (.follow sort hsort number reference) found

namespace Fetches

variable {visited : List Key} {sort : GlobalKind} {hsort : sort ≠ .element} {number : Nat} {reference : String}
  {o found : Occurrence g}

theorem visit_item (h : o.node.isItem) : Fetches g visited (.visit o) found ↔ found = o := by
  constructor
  · intro hfetches
    cases hfetches with
    | item => rfl
    | enter hmem =>
        rw [o.errands_of_isItem h] at hmem
        cases hmem
  · rintro rfl
    exact .item h

theorem visit_enter (h : ¬ o.node.isItem) :
    Fetches g visited (.visit o) found ↔ ∃ e ∈ o.errands, Fetches g visited e found := by
  constructor
  · intro hfetches
    cases hfetches with
    | item hitem => exact absurd hitem h
    | enter hmem hfetches => exact ⟨_, hmem, hfetches⟩
  · rintro ⟨e, hmem, hfetches⟩
    exact .enter hmem hfetches

theorem not_of_lookup_eq_none (h : g.lookup sort number reference = none) :
    ¬ Fetches g visited (.follow sort hsort number reference) found := by
  intro hfetches
  cases hfetches with
  | follow hmeans => cases h.symm.trans hmeans.lookup_eq

theorem not_of_mem (hmeans : g.Means sort number reference o) (h : Grammar.keyOf sort o.definition ∈ visited) :
    ¬ Fetches g visited (.follow sort hsort number reference) found := by
  intro hfetches
  cases hfetches with
  | follow hmeans' hfresh =>
      obtain rfl := hmeans.unique hmeans'
      exact hfresh h

theorem of_cons {key : Key} {e : Errand g} (h : Fetches g (key :: visited) e found) : Fetches g visited e found := by
  induction h with
  | item hitem => exact .item hitem
  | enter hmem _ ih => exact .enter hmem ih
  | follow hmeans hfresh hmem _ ih => exact .follow hmeans (fun h => hfresh (List.mem_cons_of_mem _ h)) hmem ih

/-- What an errand leads to, it leads to without a given global component, or that component does: only the last
time that the way goes through the component matters. -/
theorem avoid (hglobal : o.IsGlobal sort) {e : Errand g} (h : Fetches g visited e found) :
    Fetches g (Grammar.keyOf sort o.definition :: visited) e found ∨
      ∃ e' ∈ o.visits, Fetches g (Grammar.keyOf sort o.definition :: visited) e' found := by
  induction h with
  | item hitem => exact .inl (.item hitem)
  | enter hmem _ ih => exact ih.imp_left (.enter hmem)
  | @follow sort' _ _ _ o' e _ hmeans hfresh hmem _ ih =>
      rcases ih with hfetches | hthrough
      · by_cases hkey : Grammar.keyOf sort' o'.definition = Grammar.keyOf sort o.definition
        · obtain rfl := hmeans.isGlobal.eq_of_keyOf_eq hglobal hkey
          exact .inr ⟨e, hmem, hfetches⟩
        · refine .inl (.follow hmeans (fun hmem' => ?_) hmem hfetches)
          rcases List.mem_cons.mp hmem' with hsame | hvisited
          · exact hkey hsame
          · exact hfresh hvisited
      · exact .inr hthrough

/-- The first errand to a global component leads to what stands inside it. -/
theorem first_or_iff (hmeans : g.Means sort number reference o) (h : Grammar.keyOf sort o.definition ∉ visited)
    (rest : List (Errand g)) :
    (∃ e ∈ o.visits ++ rest, Fetches g (Grammar.keyOf sort o.definition :: visited) e found) ↔
      Fetches g visited (.follow sort hsort number reference) found ∨ ∃ e ∈ rest, Fetches g visited e found := by
  constructor
  · rintro ⟨e, hmem, hfetches⟩
    rcases List.mem_append.mp hmem with hmem | hmem
    · exact .inl (.follow hmeans h hmem hfetches.of_cons)
    · exact .inr ⟨e, hmem, hfetches.of_cons⟩
  · rintro (hfetches | ⟨e, hmem, hfetches⟩)
    · cases hfetches with
      | @follow _ _ _ _ o' e _ hmeans' _ hmem hfetches =>
          obtain rfl := hmeans.unique hmeans'
          rcases hfetches.avoid hmeans.isGlobal with hfetches | ⟨e', hmem', hfetches⟩
          · exact ⟨e, List.mem_append_left _ hmem, hfetches⟩
          · exact ⟨e', List.mem_append_left _ hmem', hfetches⟩
    · rcases hfetches.avoid hmeans.isGlobal with hfetches | ⟨e', hmem', hfetches⟩
      · exact ⟨e, List.mem_append_right _ hmem, hfetches⟩
      · exact ⟨e', List.mem_append_left _ hmem', hfetches⟩

end Fetches

/-- Gathering finds what the errands lead to. -/
theorem Gathers.mem_iff {visited : List Key} {errands : List (Errand g)} {found : List (Occurrence g)}
    (h : Gathers g visited errands found) {o : Occurrence g} :
    o ∈ found ↔ ∃ e ∈ errands, Fetches g visited e o := by
  induction h with
  | done => simp
  | item hitem _ ih => rw [List.mem_cons, List.exists_mem_cons_iff, Fetches.visit_item hitem, ih]
  | enter hitem _ ih =>
      rw [ih, List.exists_mem_cons_iff, Fetches.visit_enter hitem]
      simp only [List.mem_append, or_and_right, exists_or]
  | dangling hlookup _ ih =>
      rw [ih, List.exists_mem_cons_iff, or_iff_right (Fetches.not_of_lookup_eq_none hlookup)]
  | again hmeans hvisited _ ih => rw [ih, List.exists_mem_cons_iff, or_iff_right (Fetches.not_of_mem hmeans hvisited)]
  | first hmeans hvisited _ ih => rw [ih, List.exists_mem_cons_iff, Fetches.first_or_iff hmeans hvisited]

/-! ### Reachability by errands -/

namespace Fetches

variable {start : Occurrence g}

/-- What an errand leads to belongs to the content of a declaration when the errand does. -/
theorem reached {visited : List Key} {e : Errand g} {o : Occurrence g} (h : Fetches g visited e o)
    (hvisit : ∀ x, e = .visit x → Reached start x)
    (hfollow : ∀ sort hsort number reference, e = .follow sort hsort number reference →
      ∀ q, g.Means sort number reference q → Opened start q) :
    Reached start o := by
  induction h with
  | item => exact hvisit _ rfl
  | @enter x e _ hmem _ ih =>
      obtain ⟨p, hopened, hinside⟩ := hvisit x rfl
      rcases Occurrence.mem_errands.mp hmem with hmem | ⟨htransparent, hmem⟩
      · obtain ⟨sort, hsort, reference, hreference, rfl⟩ := Occurrence.mem_follows.mp hmem
        refine ih (fun _ h => by cases h) fun _ _ _ _ heq q hmeans => ?_
        cases heq
        exact .referred hopened hinside hreference hmeans
      · obtain ⟨child, hchild, rfl⟩ := Occurrence.mem_visits.mp hmem
        refine ih (fun _ heq => ?_) fun _ _ _ _ h => by cases h
        cases heq
        exact ⟨x, .part hopened hinside htransparent, hchild⟩
  | @follow sort hsort number reference x e _ hmeans _ hmem _ ih =>
      obtain ⟨child, hchild, rfl⟩ := Occurrence.mem_visits.mp hmem
      refine ih (fun _ heq => ?_) fun _ _ _ _ h => by cases h
      cases heq
      exact ⟨x, hfollow sort hsort number reference rfl x hmeans, hchild⟩

theorem isItem {visited : List Key} {e : Errand g} {o : Occurrence g} (h : Fetches g visited e o) : o.node.isItem := by
  induction h with
  | item hitem => exact hitem
  | enter _ _ ih => exact ih
  | follow _ _ _ _ ih => exact ih

end Fetches

theorem Occurrence.mem_contentErrands {start : Occurrence g} {e : Errand g} :
    e ∈ start.contentErrands ↔
      (∃ name, start.node.attribute? "type" = some name ∧ e = .follow .type nofun start.number name) ∨
        ∃ p ∈ start.inside, p.node.kind = .complexType ∧ e ∈ p.visits := by
  simp [contentErrands, List.mem_flatMap, eq_comm, and_assoc]

/-- What can be reached from what a declaration opens, the errands for its content lead to. -/
theorem Opened.exists_fetches {start p o : Occurrence g} (h : Opened start p) {e : Errand g} (hmem : e ∈ p.visits)
    (hfetches : Fetches g [] e o) : ∃ e ∈ start.contentErrands, Fetches g [] e o := by
  induction h generalizing e with
  | inner hinside hkind => exact ⟨e, Occurrence.mem_contentErrands.mpr (.inr ⟨_, hinside, hkind, hmem⟩), hfetches⟩
  | named htype hmeans =>
      refine ⟨_, Occurrence.mem_contentErrands.mpr (.inl ⟨_, htype, rfl⟩), ?_⟩
      exact .follow hmeans List.not_mem_nil hmem hfetches
  | @part x p _ hinside htransparent ih =>
      have hpart : Errand.visit p ∈ x.visits := Occurrence.mem_visits.mpr ⟨p, hinside, rfl⟩
      exact ih hpart (.enter (Occurrence.mem_errands.mpr (.inr ⟨htransparent, hmem⟩)) hfetches)
  | @referred x p sort reference q _ hinside hreference hmeans ih =>
      have hpart : Errand.visit p ∈ x.visits := Occurrence.mem_visits.mpr ⟨p, hinside, rfl⟩
      have hfollow : Errand.follow sort (Node.ne_element_of_reference? hreference) p.number reference ∈ p.follows :=
        Occurrence.mem_follows.mpr ⟨_, _, _, hreference, rfl⟩
      refine ih hpart (.enter (Occurrence.mem_errands.mpr (.inl hfollow)) ?_)
      exact .follow hmeans List.not_mem_nil hmem hfetches

/-- The errands for the content of an element lead to the elements and attributes that can be reached from it. -/
theorem fetches_contentErrands_iff {start o : Occurrence g} :
    (∃ e ∈ start.contentErrands, Fetches g [] e o) ↔ Reached start o ∧ o.node.isItem := by
  constructor
  · rintro ⟨e, hmem, hfetches⟩
    refine ⟨?_, hfetches.isItem⟩
    rcases Occurrence.mem_contentErrands.mp hmem with ⟨name, htype, rfl⟩ | ⟨p, hinside, hkind, hmem⟩
    · refine hfetches.reached (fun _ h => by cases h) fun _ _ _ _ heq q hmeans => ?_
      cases heq
      exact .named htype hmeans
    · obtain ⟨child, hchild, rfl⟩ := Occurrence.mem_visits.mp hmem
      refine hfetches.reached (fun _ heq => ?_) fun _ _ _ _ h => by cases h
      cases heq
      exact ⟨p, .inner hinside hkind, hchild⟩
  · rintro ⟨⟨p, hopened, hinside⟩, hitem⟩
    exact hopened.exists_fetches (Occurrence.mem_visits.mpr ⟨o, hinside, rfl⟩) (.item hitem)

/-! ### Components that share nothing -/

namespace Occurrence

theorem path_length_of_mem_inside {o child : Occurrence g} (h : child ∈ o.inside) :
    child.path.length = o.path.length + 1 := by
  obtain ⟨-, i, hpath⟩ := mem_inside.mp h
  rw [hpath, List.length_append, List.length_singleton]

/-- A component stands directly inside one component only. -/
theorem eq_of_mem_inside {o o' child : Occurrence g} (h : child ∈ o.inside) (h' : child ∈ o'.inside) : o = o' := by
  obtain ⟨hnumber, i, hpath⟩ := mem_inside.mp h
  obtain ⟨hnumber', i', hpath'⟩ := mem_inside.mp h'
  exact ext (hnumber.symm.trans hnumber') (List.append_inj_left' (hpath.symm.trans hpath') rfl)

/-- Whether visiting a component gets to another one without any reference: down through transparent components. -/
def Spans : Occurrence g → Occurrence g → Prop :=
  Relation.ReflTransGen fun o child => o.node.isTransparent ∧ child ∈ o.inside

/-- Whether looking into a component gets to another one without any reference. -/
def Opens (b o : Occurrence g) : Prop := ∃ child ∈ b.inside, child.Spans o

theorem Spans.eq_or_lt {o o' : Occurrence g} (h : o.Spans o') : o = o' ∨ o.path.length < o'.path.length := by
  induction h with
  | refl => exact .inl rfl
  | tail _ hstep ih =>
      have hlength := path_length_of_mem_inside hstep.2
      rcases ih with rfl | hlt
      · exact .inr (by omega)
      · exact .inr (by omega)

theorem Spans.eq_of_length_le {o o' : Occurrence g} (h : o.Spans o') (hle : o'.path.length ≤ o.path.length) : o = o' := by
  rcases h.eq_or_lt with heq | hlt
  · exact heq
  · omega

theorem Spans.eq_or_inside {o child parent : Occurrence g} (h : o.Spans child) (hinside : child ∈ parent.inside) :
    o = child ∨ o.Spans parent ∧ parent.node.isTransparent := by
  rcases Relation.ReflTransGen.cases_tail h with rfl | ⟨parent', hspans, htransparent, hinside'⟩
  · exact .inl rfl
  · obtain rfl := eq_of_mem_inside hinside hinside'
    exact .inr ⟨hspans, htransparent⟩

theorem Opens.spans {b o : Occurrence g} (h : b.Opens o) (htransparent : b.node.isTransparent) : b.Spans o := by
  obtain ⟨child, hchild, hspans⟩ := h
  exact .head ⟨htransparent, hchild⟩ hspans

theorem Opens.length_lt {b o : Occurrence g} (h : b.Opens o) : b.path.length < o.path.length := by
  obtain ⟨child, hchild, hspans⟩ := h
  have hlength := path_length_of_mem_inside hchild
  rcases hspans.eq_or_lt with rfl | hlt
  · omega
  · omega

/-- What gets to a child is the parent or gets through it. -/
theorem Opens.eq_or_through {b child parent : Occurrence g} (h : b.Opens child) (hinside : child ∈ parent.inside) :
    b = parent ∨ b.Opens parent ∧ parent.node.isTransparent := by
  obtain ⟨first, hfirst, hspans⟩ := h
  rcases hspans.eq_or_inside hinside with rfl | ⟨hspans, htransparent⟩
  · exact .inl (eq_of_mem_inside hfirst hinside)
  · exact .inr ⟨⟨first, hfirst, hspans⟩, htransparent⟩

/-- Whether no visit to one of two components gets to the other. -/
def Apart (o o' : Occurrence g) : Prop := ¬ o.Spans o' ∧ ¬ o'.Spans o

theorem apart_of_length_eq {o o' : Occurrence g} (hne : o ≠ o') (h : o.path.length = o'.path.length) : o.Apart o' := by
  constructor
  · intro hspans
    exact hne (hspans.eq_of_length_le (Nat.le_of_eq h.symm))
  · intro hspans
    exact hne (hspans.eq_of_length_le (Nat.le_of_eq h)).symm

theorem apart_of_mem_inside {o child other : Occurrence g} (hchild : child ∈ o.inside) (hopens : ¬ o.Opens other)
    (hspans : ¬ other.Spans o) : child.Apart other := by
  constructor
  · intro h
    exact hopens ⟨child, hchild, h⟩
  · intro h
    rcases h.eq_or_inside hchild with rfl | ⟨h, -⟩
    · exact hopens ⟨other, hchild, .refl⟩
    · exact hspans h

theorem pairwise_apart {l : List (Occurrence g)} (hnodup : l.Nodup) {n : Nat} (h : ∀ o ∈ l, o.path.length = n) :
    l.Pairwise Apart :=
  hnodup.imp_of_mem fun ho ho' hne => apart_of_length_eq hne ((h _ ho).trans (h _ ho').symm)

/-- Whether no global component that can still be looked into gets to a component. -/
structure Clear (visited : List Key) (o : Occurrence g) : Prop where
  deep : 2 ≤ o.path.length
  unopened : ∀ sort (b : Occurrence g), b.IsGlobal sort → sort ≠ .element →
    Grammar.keyOf sort b.definition ∉ visited → ¬ b.Opens o

end Occurrence

/-- Whether visits to several components cannot get to anything twice. -/
structure Orderly (visited : List Key) (l : List (Occurrence g)) : Prop where
  apart : l.Pairwise Occurrence.Apart
  clear : ∀ o ∈ l, o.Clear visited

namespace Orderly

variable {visited : List Key} {o : Occurrence g} {l : List (Occurrence g)}

theorem tail (h : Orderly visited (o :: l)) : Orderly visited l :=
  ⟨(List.pairwise_cons.mp h.apart).2, fun _ ho => h.clear _ (List.mem_cons_of_mem _ ho)⟩

/-- The components inside one component are apart, and so they are from others that the component does not get to. -/
theorem pairwise_inside_append (h : l.Pairwise Occurrence.Apart) (hopens : ∀ other ∈ l, ¬ o.Opens other)
    (hspans : ∀ other ∈ l, ¬ other.Spans o) : (o.inside ++ l).Pairwise Occurrence.Apart := by
  have hinside : o.inside.Pairwise Occurrence.Apart :=
    Occurrence.pairwise_apart o.nodup_inside fun _ => Occurrence.path_length_of_mem_inside
  refine List.pairwise_append.mpr ⟨hinside, h, fun child hchild other hother => ?_⟩
  exact Occurrence.apart_of_mem_inside hchild (hopens other hother) (hspans other hother)

/-- Going into a component instead of visiting it keeps the order. -/
theorem enter (h : Orderly visited (o :: l)) (htransparent : o.node.isTransparent) :
    Orderly visited (o.inside ++ l) := by
  obtain ⟨hfirst, hrest⟩ := List.pairwise_cons.mp h.apart
  have hclear := h.clear o List.mem_cons_self
  constructor
  · refine pairwise_inside_append hrest (fun other hother hopens => ?_) fun other hother => (hfirst other hother).2
    exact (hfirst other hother).1 (hopens.spans htransparent)
  · intro child hmem
    rcases List.mem_append.mp hmem with hchild | hmem
    · have hdeep := hclear.deep
      have hlength := Occurrence.path_length_of_mem_inside hchild
      refine ⟨by omega, fun sort b hglobal hsort hfresh hopens => ?_⟩
      rcases hopens.eq_or_through hchild with rfl | ⟨hopens, -⟩
      · have htop := hglobal.path_length
        omega
      · exact hclear.unopened sort b hglobal hsort hfresh hopens
    · exact h.clear child (List.mem_cons_of_mem _ hmem)

/-- Looking into a global component for the first time keeps the order. -/
theorem first {sort : GlobalKind} (h : Orderly visited l) (hglobal : o.IsGlobal sort) (hsort : sort ≠ .element)
    (hfresh : Grammar.keyOf sort o.definition ∉ visited) :
    Orderly (Grammar.keyOf sort o.definition :: visited) (o.inside ++ l) := by
  have htop := hglobal.path_length
  constructor
  · refine pairwise_inside_append h.apart (fun other hother => ?_) fun other hother hspans => ?_
    · exact (h.clear other hother).unopened sort o hglobal hsort hfresh
    · have hdeep := (h.clear other hother).deep
      obtain rfl := hspans.eq_of_length_le (by omega)
      omega
  · intro child hmem
    rcases List.mem_append.mp hmem with hchild | hmem
    · have hlength := Occurrence.path_length_of_mem_inside hchild
      refine ⟨by omega, fun sort' b hglobal' hsort' hfresh' hopens => ?_⟩
      rcases hopens.eq_or_through hchild with rfl | ⟨hopens, -⟩
      · obtain rfl := hglobal.sort_eq hglobal'
        exact hfresh' List.mem_cons_self
      · have htop' := hglobal'.path_length
        have hlt := hopens.length_lt
        omega
    · refine ⟨(h.clear child hmem).deep, fun sort' b hglobal' hsort' hfresh' => ?_⟩
      exact (h.clear child hmem).unopened sort' b hglobal' hsort' fun hmem' => hfresh' (List.mem_cons_of_mem _ hmem')

end Orderly

/-- The component that an errand visits. -/
def Errand.place? : Errand g → Option (Occurrence g)
  | visit o => some o
  | follow .. => none

theorem filterMap_place?_visits (o : Occurrence g) : o.visits.filterMap Errand.place? = o.inside := by
  have hplace : Errand.place? ∘ Errand.visit = some (α := Occurrence g) := rfl
  rw [Occurrence.visits, List.filterMap_map, hplace, List.filterMap_some]

theorem filterMap_place?_follows (o : Occurrence g) : o.follows.filterMap Errand.place? = [] := by
  rw [List.filterMap_eq_nil_iff]
  intro e he
  obtain ⟨sort, hsort, reference, -, rfl⟩ := Occurrence.mem_follows.mp he
  rfl

/-- What an errand leads to stands below the component that it visits, or below a global one that is looked into. -/
theorem Fetches.spans_or_opens {visited : List Key} {e : Errand g} {o : Occurrence g} (h : Fetches g visited e o) :
    (∃ x, e.place? = some x ∧ x.Spans o) ∨
      ∃ sort, ∃ b : Occurrence g, b.IsGlobal sort ∧ sort ≠ .element ∧ Grammar.keyOf sort b.definition ∉ visited ∧
        b.Opens o := by
  induction h with
  | item => exact .inl ⟨_, rfl, .refl⟩
  | @enter x e _ hmem _ ih =>
      rcases ih with ⟨child, hplace, hspans⟩ | hopens
      · rcases Occurrence.mem_errands.mp hmem with hmem | ⟨htransparent, hmem⟩
        · obtain ⟨sort, hsort, reference, -, rfl⟩ := Occurrence.mem_follows.mp hmem
          cases hplace
        · obtain ⟨child', hchild, rfl⟩ := Occurrence.mem_visits.mp hmem
          obtain rfl := Option.some.inj hplace
          exact .inl ⟨x, rfl, .head ⟨htransparent, hchild⟩ hspans⟩
      · exact .inr hopens
  | @follow sort hsort _ _ b e _ hmeans hfresh hmem _ ih =>
      rcases ih with ⟨child, hplace, hspans⟩ | hopens
      · obtain ⟨child', hchild, rfl⟩ := Occurrence.mem_visits.mp hmem
        obtain rfl := Option.some.inj hplace
        exact .inr ⟨sort, b, hmeans.isGlobal, hsort, hfresh, child', hchild, hspans⟩
      · exact .inr hopens

/-- Orderly errands lead to nothing twice. -/
theorem Gathers.nodup {visited : List Key} {errands : List (Errand g)} {found : List (Occurrence g)}
    (h : Gathers g visited errands found) (horderly : Orderly visited (errands.filterMap Errand.place?)) :
    found.Nodup := by
  induction h with
  | done => exact List.nodup_nil
  | @item visited o rest found hitem hrest ih =>
      change Orderly visited (o :: rest.filterMap Errand.place?) at horderly
      refine List.nodup_cons.mpr ⟨fun hmem => ?_, ih horderly.tail⟩
      obtain ⟨e, he, hfetches⟩ := hrest.mem_iff.mp hmem
      rcases hfetches.spans_or_opens with ⟨x, hplace, hspans⟩ | ⟨sort, b, hglobal, hsort, hfresh, hopens⟩
      · have hx : x ∈ rest.filterMap Errand.place? := List.mem_filterMap.mpr ⟨e, he, hplace⟩
        exact ((List.pairwise_cons.mp horderly.apart).1 x hx).2 hspans
      · exact (horderly.clear o List.mem_cons_self).unopened sort b hglobal hsort hfresh hopens
  | @enter visited o rest found _ _ ih =>
      change Orderly visited (o :: rest.filterMap Errand.place?) at horderly
      refine ih ?_
      rw [Occurrence.errands, List.filterMap_append, List.filterMap_append, filterMap_place?_follows, List.nil_append]
      by_cases htransparent : o.node.isTransparent
      · rw [if_pos htransparent, filterMap_place?_visits]
        exact horderly.enter htransparent
      · rw [if_neg htransparent, List.filterMap_nil, List.nil_append]
        exact horderly.tail
  | dangling _ _ ih => exact ih horderly
  | again _ _ _ ih => exact ih horderly
  | @first visited sort hsort _ _ o rest found hmeans hfresh _ ih =>
      refine ih ?_
      rw [List.filterMap_append, filterMap_place?_visits]
      exact horderly.first hmeans.isGlobal hsort hfresh

/-! ### Content models -/

/-- The outermost component of a schema that is read is a schema. -/
theorem Schema.kind_root_of_read {text : List Char} {order : TableOrder} {schema : Schema}
    (h : Schema.read text order = .ok schema) : schema.root.kind = .schema := by
  simp only [Schema.read, bind, Except.bind] at h
  split at h
  · cases h
  · split at h
    · cases h
    · split at h
      · rename_i hkind
        obtain rfl := Except.ok.inj h
        exact hkind
      · cases h
    · cases h

theorem Grammar.kind_root_of_mem_read {texts : List (List Char)} {orders : Nat → TableOrder} {schema : Schema}
    (h : schema ∈ (Grammar.read texts orders).schemas) : schema.root.kind = .schema := by
  obtain ⟨⟨text, number⟩, -, hread⟩ := List.mem_filterMap.mp h
  dsimp only at hread
  cases hschema : Schema.read text (orders number) with
  | error flaw =>
      rw [hschema] at hread
      cases hread
  | ok schema' =>
      rw [hschema] at hread
      obtain rfl := Option.some.inj hread
      exact Schema.kind_root_of_read hschema

theorem Occurrence.path_ne_nil (hroot : ∀ schema ∈ g.schemas, schema.root.kind = .schema) {o : Occurrence g}
    (ho : o.node.kind ≠ .schema) : o.path ≠ [] := by
  intro hpath
  have hnode := o.node_eq
  rw [hpath] at hnode
  obtain ⟨schema, hschema, hat⟩ := Option.bind_eq_some_iff.mp hnode
  have hsame : schema.root = o.node := Option.some.inj hat
  have hkind := hroot schema (List.mem_of_getElem? hschema)
  rw [hsame] at hkind
  exact ho hkind

theorem filterMap_place?_contentErrands (start : Occurrence g) :
    start.contentErrands.filterMap Errand.place? =
      (start.inside.filter fun p => p.node.kind = .complexType).flatMap Occurrence.inside := by
  rw [Occurrence.contentErrands, List.filterMap_append, List.filterMap_flatMap]
  simp only [filterMap_place?_visits]
  cases start.node.attribute? "type" <;> rfl

theorem orderly_contentErrands (hroot : ∀ schema ∈ g.schemas, schema.root.kind = .schema) {start : Occurrence g}
    (hstart : start.node.kind = .element) : Orderly [] (start.contentErrands.filterMap Errand.place?) := by
  have hdeep : start.path.length ≠ 0 := fun h =>
    start.path_ne_nil hroot (by rw [hstart]; exact nofun) (List.length_eq_zero_iff.mp h)
  have hplace : ∀ o ∈ start.contentErrands.filterMap Errand.place?, ∃ p ∈ start.inside, o ∈ p.inside := by
    intro o ho
    rw [filterMap_place?_contentErrands] at ho
    obtain ⟨p, hp, ho⟩ := List.mem_flatMap.mp ho
    exact ⟨p, (List.mem_filter.mp hp).1, ho⟩
  have hlength : ∀ o ∈ start.contentErrands.filterMap Errand.place?, o.path.length = start.path.length + 2 := by
    intro o ho
    obtain ⟨p, hp, ho⟩ := hplace o ho
    rw [Occurrence.path_length_of_mem_inside ho, Occurrence.path_length_of_mem_inside hp]
  constructor
  · refine Occurrence.pairwise_apart ?_ hlength
    rw [filterMap_place?_contentErrands, List.nodup_flatMap]
    refine ⟨fun p _ => p.nodup_inside, (start.nodup_inside.filter _).imp fun hne child hchild hchild' => ?_⟩
    exact hne (Occurrence.eq_of_mem_inside hchild hchild')
  · intro o ho
    have hlength := hlength o ho
    refine ⟨by omega, fun sort b hglobal hsort _ hopens => ?_⟩
    obtain ⟨p, hp, ho⟩ := hplace o ho
    -- the way down from a global component would have to go through the element
    rcases hopens.eq_or_through ho with rfl | ⟨hopens, -⟩
    · have htop := hglobal.path_length
      have hbelow := Occurrence.path_length_of_mem_inside hp
      omega
    · rcases hopens.eq_or_through hp with rfl | ⟨-, htransparent⟩
      · have hkind : sort.kind = GlobalKind.element.kind := hglobal.kind_eq.symm.trans hstart
        exact hsort (GlobalKind.eq_of_kind_eq hkind)
      · rw [Node.isTransparent, hstart] at htransparent
        cases htransparent

/-- In schemas as they are read (`Grammar.kind_root_of_mem_read`), the content model of an element is what can be
reached from its declaration: the attributes that some component allows, and every element once. -/
theorem Grammar.content_reaches (hroot : ∀ schema ∈ g.schemas, schema.root.kind = .schema) (start : Occurrence g)
    (hstart : start.node.kind = .element) :
    (∀ name, name ∈ (g.content start.definition).attributes ↔ ∃ o, Reached start o ∧ o.node.Allows name) ∧
      ∃ particles : List (Occurrence g), particles.Nodup ∧
        (∀ o, o ∈ particles ↔ Reached start o ∧ o.node.kind = .element) ∧
          (g.content start.definition).particles = particles.map Occurrence.definition := by
  obtain ⟨found, hfound⟩ := exists_gathers [] start.contentErrands
  have hmem : ∀ o, o ∈ found ↔ Reached start o ∧ o.node.isItem := fun o =>
    hfound.mem_iff.trans fetches_contentErrands_iff
  rw [hfound.content_eq]
  constructor
  · intro name
    rw [Occurrence.content, StringSet.mem_ofList, List.mem_filterMap]
    constructor
    · rintro ⟨o, ho, hname⟩
      exact ⟨o, ((hmem o).mp ho).1, Occurrence.allowed?_eq_some.mp hname⟩
    · rintro ⟨o, hreached, hallows⟩
      refine ⟨o, (hmem o).mpr ⟨hreached, ?_⟩, Occurrence.allowed?_eq_some.mpr hallows⟩
      simp [Node.isItem, hallows.1]
  · refine ⟨Occurrence.elements found, (hfound.nodup (orderly_contentErrands hroot hstart)).filter _, fun o => ?_, rfl⟩
    rw [Occurrence.elements, List.mem_filter, hmem]
    constructor
    · rintro ⟨⟨hreached, -⟩, hkind⟩
      exact ⟨hreached, of_decide_eq_true hkind⟩
    · rintro ⟨hreached, hkind⟩
      exact ⟨⟨hreached, by simp [Node.isItem, hkind]⟩, decide_eq_true hkind⟩

/-- A schema of an element with a type whose content goes on in a group that refers to itself. -/
def recursiveSchema : List Char :=
  ("<schema><element name='list' type='List'/>" ++
    "<complexType name='List'><group ref='Rest'/><attribute name='length'/></complexType>" ++
    "<group name='Rest'><sequence><element name='item'/><group ref='Rest'/></sequence></group></schema>").toList

namespace RecursiveContent

/-! The components of this schema. -/

def list : Node := .node .element [("name", "list"), ("type", "List")] []
def listType : Node :=
  .node .complexType [("name", "List")] [.node .group [("ref", "Rest")] [], .node .attributeUse [("name", "length")] []]
def item : Node := .node .element [("name", "item")] []
def rest : Node := .node .group [("name", "Rest")] [.node .container [] [item, .node .group [("ref", "Rest")] []]]

end RecursiveContent

open RecursiveContent

/-- What is read from it. -/
def recursiveContent : Grammar := ⟨[.ofRoot (.node .schema [] [list, listType, rest])]⟩

set_option maxRecDepth 8192 in
theorem read_recursiveSchema : Grammar.read [recursiveSchema] = recursiveContent := rfl

theorem Grammar.content_list : recursiveContent.content ⟨0, list⟩ = ⟨.ofList ["length"], [⟨0, item⟩]⟩ := by
  have hkeys : recursiveContent.keys = [⟨.type, 0, "List"⟩, ⟨.group, 0, "Rest"⟩] := by decide +kernel
  have hlist : recursiveContent.lookup .type 0 "List" = some ⟨0, listType⟩ :=
    lookup_of_definition? rfl (by decide) rfl
  have hrest : recursiveContent.lookup .group 0 "Rest" = some ⟨0, rest⟩ :=
    lookup_of_definition? rfl (by decide) rfl
  show recursiveContent.gather recursiveContent.keys [.follow .type 0 "List"] = _
  rw [hkeys]
  simp [gather, hlist, hrest, keyOf, tasksOf, tasksInside, attributeName?, listType, rest, item, Node.attribute?,
    List.lookup_cons]
  rfl

/-- The group is looked into once: its item is one element of the content. -/
theorem Grammar.content_reaches_recursiveContent :
    let start : Occurrence recursiveContent := ⟨0, [0], list, rfl⟩
    (∀ schema ∈ recursiveContent.schemas, schema.root.kind = .schema) ∧ start.node.kind = .element ∧
      (recursiveContent.content start.definition).attributes.toList = ["length"] ∧
      (recursiveContent.content start.definition).particles.length = 1 ∧
      (∀ name, name ∈ (recursiveContent.content start.definition).attributes ↔
        ∃ o, Reached start o ∧ o.node.Allows name) ∧
      ∃ particles : List (Occurrence recursiveContent), particles.Nodup ∧
        (∀ o, o ∈ particles ↔ Reached start o ∧ o.node.kind = .element) ∧
          (recursiveContent.content start.definition).particles = particles.map Occurrence.definition := by
  intro start
  have hroot : ∀ schema ∈ recursiveContent.schemas, schema.root.kind = .schema := by
    rw [← read_recursiveSchema]
    exact fun _ hmem => Grammar.kind_root_of_mem_read hmem
  have hattributes : (recursiveContent.content start.definition).attributes.toList = ["length"] := by
    rw [show start.definition = ⟨0, list⟩ from rfl, content_list]
    rfl
  have hparticles : (recursiveContent.content start.definition).particles.length = 1 := by
    rw [show start.definition = ⟨0, list⟩ from rfl, content_list]
    rfl
  exact ⟨hroot, rfl, hattributes, hparticles, Grammar.content_reaches hroot start rfl⟩

end XmlDiagnostics
