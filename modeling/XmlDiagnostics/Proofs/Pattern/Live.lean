import Mathlib.Algebra.BigOperators.Group.Finset.Piecewise
import Mathlib.Algebra.Order.BigOperators.Group.Finset
import XmlDiagnostics.Proofs.Pattern.Layout

/-! # Live nodes

The nodes that are noted as live at a place are those from which a match can be completed (`mem_liveAt_iff`). They are
found backwards, from the end of a match and from the nodes that read on to a live one. What is found this way
completes a match; and as what is found is closed under going back, nothing that completes a match is left out.

The search makes a bounded number of steps, and they are enough: each step takes a node off the list of those to be
looked at, and what leads to a node is put on it only once (`sum_length_sources_le`). -/

namespace XmlDiagnostics

namespace Automaton

variable {a : Automaton} {nodes : Array Node}

/-! ### Sources -/

/-- The nodes that lead to a node, as the nodes themselves tell. -/
def Leads (nodes : Array Node) (source target : Nat) : Prop := ∃ node, nodes[source]? = some node ∧ target ∈ node.targets

theorem length_targets_le (node : Node) : node.targets.length ≤ 2 := by
  cases node <;> simp [Node.targets]

section sources

variable {number : Nat} {sources : Array (List Nat)}

/-- Note a node with each of the nodes that it leads to. -/
def noteTargets (number : Nat) (sources : Array (List Nat)) (targets : List Nat) : Array (List Nat) :=
  targets.foldl (fun sources target => sources.modify target (number :: ·)) sources

theorem size_noteTargets (targets : List Nat) : (noteTargets number sources targets).size = sources.size := by
  induction targets generalizing sources with
  | nil => rfl
  | cons target targets ih =>
      rw [noteTargets, List.foldl_cons]
      exact ih.trans (Array.size_modify ..)

theorem getD_modify_cons (target n : Nat) :
    (sources.modify target (number :: ·)).getD n [] =
      if target = n ∧ n < sources.size then number :: sources.getD n [] else sources.getD n [] := by
  rw [Array.getD_eq_getD_getElem?, Array.getD_eq_getD_getElem?, Array.getElem?_modify]
  by_cases hn : n < sources.size
  · rw [Array.getElem?_eq_getElem hn]
    by_cases htarget : target = n <;> simp [htarget, hn]
  · rw [Array.getElem?_eq_none (Nat.le_of_not_lt hn)]
    simp [hn]

theorem mem_noteTargets {targets : List Nat} {source n : Nat} :
    source ∈ (noteTargets number sources targets).getD n [] ↔
      (source = number ∧ n ∈ targets ∧ n < sources.size) ∨ source ∈ sources.getD n [] := by
  induction targets generalizing sources with
  | nil => simp [noteTargets]
  | cons target targets ih =>
      rw [noteTargets, List.foldl_cons, ← noteTargets, ih, Array.size_modify, getD_modify_cons]
      by_cases htarget : target = n ∧ n < sources.size
      · rw [if_pos htarget, List.mem_cons]
        obtain ⟨rfl, hn⟩ := htarget
        simp [hn]
        tauto
      · rw [if_neg htarget, List.mem_cons]
        have hne : n < sources.size → ¬n = target := fun hn heq => htarget ⟨heq.symm, hn⟩
        constructor
        · rintro (⟨hsource, hmem, hn⟩ | hmem)
          · exact .inl ⟨hsource, .inr hmem, hn⟩
          · exact .inr hmem
        · rintro (⟨hsource, hmem | hmem, hn⟩ | hmem)
          · exact absurd hmem (hne hn)
          · exact .inl ⟨hsource, hmem, hn⟩
          · exact .inr hmem

/-- How many sources are noted. -/
def countSources (sources : Array (List Nat)) : Nat := ∑ n ∈ Finset.range sources.size, (sources.getD n []).length

theorem countSources_modify_le (number : Nat) (sources : Array (List Nat)) (target : Nat) :
    countSources (sources.modify target (number :: ·)) ≤ countSources sources + 1 := by
  have hterm : ∀ n, ((sources.modify target (number :: ·)).getD n []).length ≤
      (sources.getD n []).length + if target = n then 1 else 0 := by
    intro n
    rw [getD_modify_cons]
    by_cases htarget : target = n
    · by_cases hn : n < sources.size <;> simp [htarget, hn]
    · simp [htarget]
  calc countSources (sources.modify target (number :: ·))
      ≤ ∑ n ∈ Finset.range sources.size, ((sources.getD n []).length + if target = n then 1 else 0) := by
        rw [countSources, Array.size_modify]
        exact Finset.sum_le_sum fun n _ => hterm n
    _ = countSources sources + ∑ n ∈ Finset.range sources.size, (if target = n then 1 else 0) := Finset.sum_add_distrib
    _ ≤ countSources sources + 1 := by
        rw [Finset.sum_ite_eq]
        split <;> omega

theorem countSources_noteTargets_le (number : Nat) (sources : Array (List Nat)) (targets : List Nat) :
    countSources (noteTargets number sources targets) ≤ countSources sources + targets.length := by
  induction targets generalizing sources with
  | nil => exact Nat.le_refl _
  | cons target targets ih =>
      rw [noteTargets, List.foldl_cons, ← noteTargets, List.length_cons]
      have h := ih (sources.modify target (number :: ·))
      have h' := countSources_modify_le number sources target
      omega

/-- Note several nodes. -/
def noteAll (sources : Array (List Nat)) (nodes : List (Node × Nat)) : Array (List Nat) :=
  nodes.foldl (fun sources entry => noteTargets entry.2 sources entry.1.targets) sources

theorem size_noteAll (nodes : List (Node × Nat)) : (noteAll sources nodes).size = sources.size := by
  induction nodes generalizing sources with
  | nil => rfl
  | cons first nodes ih =>
      rw [noteAll, List.foldl_cons]
      exact ih.trans (size_noteTargets _)

theorem mem_noteAll {nodes : List (Node × Nat)} {source n : Nat} :
    source ∈ (noteAll sources nodes).getD n [] ↔
      (∃ node, (node, source) ∈ nodes ∧ n ∈ node.targets ∧ n < sources.size) ∨ source ∈ sources.getD n [] := by
  induction nodes generalizing sources with
  | nil => simp [noteAll]
  | cons first nodes ih =>
      obtain ⟨node, number⟩ := first
      rw [noteAll, List.foldl_cons, ← noteAll, ih, mem_noteTargets, size_noteTargets]
      simp only [List.mem_cons, Prod.mk.injEq]
      constructor
      · rintro (⟨node', hmem, hrest⟩ | ⟨rfl, hrest⟩ | hmem)
        · exact .inl ⟨node', .inr hmem, hrest⟩
        · exact .inl ⟨node, .inl ⟨rfl, rfl⟩, hrest⟩
        · exact .inr hmem
      · rintro (⟨node', ⟨rfl, rfl⟩ | hmem, hrest⟩ | hmem)
        · exact .inr (.inl ⟨rfl, hrest⟩)
        · exact .inl ⟨node', hmem, hrest⟩
        · exact .inr (.inr hmem)

theorem countSources_noteAll_le (sources : Array (List Nat)) (nodes : List (Node × Nat)) :
    countSources (noteAll sources nodes) ≤ countSources sources + 2 * nodes.length := by
  induction nodes generalizing sources with
  | nil => exact Nat.le_refl _
  | cons first nodes ih =>
      rw [noteAll, List.foldl_cons, ← noteAll, List.length_cons]
      have h := ih (noteTargets first.2 sources first.1.targets)
      have h' := countSources_noteTargets_le first.2 sources first.1.targets
      have h'' := length_targets_le first.1
      omega

end sources

theorem sourcesOf_eq (nodes : Array Node) :
    sourcesOf nodes = noteAll (Array.replicate nodes.size []) nodes.zipIdx.toList := by
  rw [sourcesOf, ← Array.foldl_toList]
  rfl

theorem size_sourcesOf (nodes : Array Node) : (sourcesOf nodes).size = nodes.size := by
  rw [sourcesOf_eq, size_noteAll, Array.size_replicate]

theorem mem_sourcesOf {source n : Nat} (hn : n < nodes.size) :
    source ∈ (sourcesOf nodes).getD n [] ↔ Leads nodes source n := by
  have hempty : (Array.replicate nodes.size ([] : List Nat)).getD n [] = [] := by
    rw [Array.getD_eq_getD_getElem?, Array.getElem?_replicate, if_pos hn, Option.getD_some]
  rw [sourcesOf_eq, mem_noteAll, hempty, Array.size_replicate]
  simp only [Array.mem_toList_iff, Array.mk_mem_zipIdx_iff_getElem?, hn, and_true, List.not_mem_nil, or_false]
  rfl

/-- Each node has at most two targets, so there are at most twice as many sources as nodes. -/
theorem sum_length_sources_le (nodes : Array Node) :
    ∑ n ∈ Finset.range nodes.size, ((sourcesOf nodes).getD n []).length ≤ 2 * nodes.size := by
  have hnone : countSources (Array.replicate nodes.size []) = 0 := by
    refine Finset.sum_eq_zero fun n hn => ?_
    rw [Array.size_replicate, Finset.mem_range] at hn
    rw [Array.getD_eq_getD_getElem?, Array.getElem?_replicate, if_pos hn]
    rfl
  have h := countSources_noteAll_le (Array.replicate nodes.size []) nodes.zipIdx.toList
  rw [← sourcesOf_eq, hnone, Nat.zero_add, Array.length_toList, Array.size_zipIdx, countSources, size_sourcesOf] at h
  exact h

/-! ### Going back without a character -/

/-- The nodes that lead to a node at a place without a character. -/
def passedTo (a : Automaton) (place : Place) (node : Nat) : List Nat :=
  (a.before node).filter fun source => a.nodes[source]?.any (Node.isPassedAt place)

/-- A set of nodes has all that lead to a node in it without a character. -/
def ClosedAt (a : Automaton) (place : Place) (s : Nat → Prop) : Prop := ∀ n, s n → ∀ m ∈ a.passedTo place n, s m

/-- What is found is in each closed set that has what was found and what is to be looked at. -/
theorem of_mem_leadingTo {place : Place} {s : Nat → Prop} (hclosed : a.ClosedAt place s) :
    ∀ {n : Nat} {found : Nodes} {todo : List Nat}, (∀ m ∈ found, s m) → (∀ m ∈ todo, s m) →
      ∀ m ∈ a.leadingTo place n found todo, s m
  | 0, found, todo, hfound, _ => by
      rw [leadingTo]
      exact hfound
  | n + 1, found, [], hfound, _ => by
      rw [leadingTo]
      · exact hfound
      · simp
  | n + 1, found, node :: todo, hfound, htodo => by
      obtain ⟨hnode, htodo⟩ := List.forall_mem_cons.mp htodo
      rw [leadingTo]
      split
      · exact of_mem_leadingTo hclosed hfound htodo
      · refine of_mem_leadingTo hclosed (fun m hm => ?_) (fun m hm => ?_)
        · rcases Std.TreeSet.mem_insert.mp hm with heq | hm
          · exact Std.LawfulEqCmp.eq_of_compare heq ▸ hnode
          · exact hfound m hm
        · rcases List.mem_append.mp hm with hm | hm
          · exact hclosed node hnode m hm
          · exact htodo m hm

/-- What leads to nodes that are not found yet, as much as there is of it. -/
def unlooked (a : Automaton) (place : Place) (found : Nodes) : Nat :=
  ∑ n ∈ Finset.range a.nodes.size with n ∉ found, (a.passedTo place n).length

/-- An automaton is well laid out if its sources are those of its nodes, and its first node is the only end. -/
structure WellLaid (a : Automaton) : Prop where
  sources_eq : a.sources = sourcesOf a.nodes
  stop_iff : ∀ n, a.nodes[n]? = some .stop ↔ n = 0

theorem WellLaid.before_eq_nil (ha : a.WellLaid) {n : Nat} (hn : a.nodes.size ≤ n) : a.before n = [] := by
  rw [before, ha.sources_eq, Array.getD_eq_getD_getElem?, Array.getElem?_eq_none (by rwa [size_sourcesOf])]
  rfl

theorem WellLaid.mem_before (ha : a.WellLaid) {n source : Nat} (hn : n < a.nodes.size) :
    source ∈ a.before n ↔ Leads a.nodes source n := by
  rw [before, ha.sources_eq]
  exact mem_sourcesOf hn

/-- What leads to a node counts no more once the node is found. -/
theorem WellLaid.unlooked_insert (ha : a.WellLaid) (place : Place) {found : Nodes} {node : Nat} (hnode : node ∉ found) :
    (a.passedTo place node).length + a.unlooked place (found.insert node) ≤ a.unlooked place found := by
  rcases Nat.lt_or_ge node a.nodes.size with hlt | hge
  · have hsplit : (Finset.range a.nodes.size).filter (· ∉ found) =
        insert node ((Finset.range a.nodes.size).filter (· ∉ found.insert node)) := by
      ext n
      simp only [Finset.mem_filter, Finset.mem_range, Finset.mem_insert, Std.TreeSet.mem_insert, compare_eq_iff_eq, not_or]
      constructor
      · rintro ⟨hn, hfound⟩
        by_cases heq : n = node
        · exact .inl heq
        · exact .inr ⟨hn, fun h => heq h.symm, hfound⟩
      · rintro (rfl | ⟨hn, -, hfound⟩)
        · exact ⟨hlt, hnode⟩
        · exact ⟨hn, hfound⟩
    rw [unlooked, unlooked, hsplit, Finset.sum_insert (by simp)]
  · have hnone : a.passedTo place node = [] := by rw [passedTo, ha.before_eq_nil hge, List.filter_nil]
    rw [hnone, List.length_nil, Nat.zero_add, unlooked, unlooked]
    refine Finset.sum_le_sum_of_subset fun n hn => ?_
    simp only [Finset.mem_filter, Std.TreeSet.mem_insert, not_or] at hn ⊢
    exact ⟨hn.1, hn.2.2⟩

/-- With enough steps, all that is to be looked at is found, and what is found is closed. -/
theorem WellLaid.leadingTo_closed (ha : a.WellLaid) {place : Place} :
    ∀ {n : Nat} {found : Nodes} {todo : List Nat}, todo.length + a.unlooked place found ≤ n →
      (∀ m ∈ found, ∀ k ∈ a.passedTo place m, k ∈ found ∨ k ∈ todo) →
      (∀ m, m ∈ found ∨ m ∈ todo → m ∈ a.leadingTo place n found todo) ∧
        a.ClosedAt place (· ∈ a.leadingTo place n found todo)
  | n, found, [], _, hinv => by
      have hfound : a.leadingTo place n found [] = found := by
        cases n <;> simp [leadingTo]
      rw [hfound]
      exact ⟨fun m hm => hm.resolve_right (by simp), fun m hm k hk => (hinv m hm k hk).resolve_right (by simp)⟩
  | 0, found, node :: todo, hfuel, _ => by simp at hfuel
  | n + 1, found, node :: todo, hfuel, hinv => by
      rw [List.length_cons] at hfuel
      rw [leadingTo]
      split
      · rename_i hnode
        have hnode := Std.TreeSet.contains_iff_mem.mp hnode
        obtain ⟨hall, hclosed⟩ := ha.leadingTo_closed (by omega : todo.length + a.unlooked place found ≤ n)
          fun m hm k hk => (hinv m hm k hk).elim .inl fun hk => (List.mem_cons.mp hk).elim (fun heq => .inl (heq ▸ hnode)) .inr
        refine ⟨fun m hm => hall m ?_, hclosed⟩
        rcases hm with hm | hm
        · exact .inl hm
        · exact (List.mem_cons.mp hm).elim (fun heq => .inl (heq ▸ hnode)) .inr
      · rename_i hnode
        have hnode : node ∉ found := fun hmem => hnode (Std.TreeSet.contains_iff_mem.mpr hmem)
        have hless := ha.unlooked_insert place hnode
        have hmem : ∀ m, m ∈ found.insert node ↔ m = node ∨ m ∈ found := by
          intro m
          rw [Std.TreeSet.mem_insert, compare_eq_iff_eq, eq_comm]
        have hlength : (a.passedTo place node ++ todo).length + a.unlooked place (found.insert node) ≤ n := by
          rw [List.length_append]
          omega
        obtain ⟨hall, hclosed⟩ := ha.leadingTo_closed hlength fun m hm k hk => by
          rw [hmem] at hm ⊢
          rw [List.mem_append]
          rcases hm with rfl | hm
          · exact .inr (.inl hk)
          · rcases hinv m hm k hk with hk | hk
            · exact .inl (.inr hk)
            · exact (List.mem_cons.mp hk).elim (fun heq => .inl (.inl heq)) fun hk => .inr (.inr hk)
        refine ⟨fun m hm => hall m ?_, hclosed⟩
        rw [hmem, List.mem_append]
        rcases hm with hm | hm
        · exact .inl (.inr hm)
        · exact (List.mem_cons.mp hm).elim (fun heq => .inl (.inl heq)) fun hm => .inr (.inr hm)

/-! ### Going back over a character -/

theorem length_passedTo_add_le (a : Automaton) (place : Place) (c : Char) (n : Nat) :
    (a.passedTo place n).length + ((a.before n).filter fun source => a.nodes[source]?.any (Node.canRead c)).length ≤
      (a.before n).length := by
  have hother : ∀ source : Nat, a.nodes[source]?.any (Node.canRead c) = true →
      (!a.nodes[source]?.any (Node.isPassedAt place)) = true := by
    intro source h
    cases hnode : a.nodes[source]? with
    | none => rfl
    | some node =>
        rw [hnode] at h
        cases node <;> first | rfl | cases h
  have hsublist := (List.monotone_filter_right (a.before n) hother).length_le
  have hlength := List.length_eq_length_filter_add (l := a.before n) fun source : Nat =>
    a.nodes[source]?.any (Node.isPassedAt place)
  rw [passedTo]
  omega

/-- The readers before a character and all that leads to nodes without one are no more than the sources. -/
theorem WellLaid.fuel_le (ha : a.WellLaid) (place : Place) (c : Char) (liveAfter : Nodes) :
    (a.readersOf c liveAfter).length + a.unlooked place ∅ ≤ 2 * a.nodes.size := by
  let reading : Nat → Nat := fun n => ((a.before n).filter fun source => a.nodes[source]?.any (Node.canRead c)).length
  have hnodup : liveAfter.toList.Nodup := by
    refine List.Pairwise.imp ?_ Std.TreeSet.distinct_toList
    rintro m n hne rfl
    exact hne (compare_eq_iff_eq.mpr rfl)
  have hreaders : (a.readersOf c liveAfter).length ≤ ∑ n ∈ Finset.range a.nodes.size, reading n := by
    rw [readersOf, List.length_flatMap, ← List.sum_toFinset reading hnodup]
    refine Finset.sum_le_sum_of_ne_zero fun n _ hne => Finset.mem_range.mpr (Nat.lt_of_not_le fun hge => hne ?_)
    simp [ha.before_eq_nil hge]
  have hpassed : a.unlooked place ∅ = ∑ n ∈ Finset.range a.nodes.size, (a.passedTo place n).length := by
    rw [unlooked, Finset.filter_true_of_mem fun n _ => Std.TreeSet.not_mem_emptyc]
  calc (a.readersOf c liveAfter).length + a.unlooked place ∅
      ≤ ∑ n ∈ Finset.range a.nodes.size, reading n + ∑ n ∈ Finset.range a.nodes.size, (a.passedTo place n).length := by
        omega
    _ = ∑ n ∈ Finset.range a.nodes.size, (reading n + (a.passedTo place n).length) := Finset.sum_add_distrib.symm
    _ ≤ ∑ n ∈ Finset.range a.nodes.size, (a.before n).length :=
        Finset.sum_le_sum fun n _ => (Nat.add_comm _ _).trans_le (length_passedTo_add_le a place c n)
    _ ≤ 2 * a.nodes.size := by
        have hsum := sum_length_sources_le a.nodes
        rw [← ha.sources_eq] at hsum
        exact hsum

/-! ### Live nodes -/

theorem Node.ways_withGroups {node : Node} {s : Spot} (groups : Groups) {m : Nat} {o : Spot} (h : (m, o) ∈ node.ways s) :
    ∃ groups', (m, o.withGroups groups') ∈ node.ways (s.withGroups groups) := by
  cases node with
  | stop => cases h
  | read set next =>
      obtain ⟨o', ho', heq⟩ := List.mem_map.mp h
      obtain ⟨rfl, rfl⟩ := Prod.mk.inj heq
      obtain ⟨c, hhead, hc, rfl⟩ := Spot.read?_eq_some_iff.mp (Option.mem_toList.mp ho')
      refine ⟨groups, List.mem_map.mpr ⟨_, Option.mem_toList.mpr (Spot.read?_eq_some_iff.mpr ⟨c, hhead, hc, rfl⟩), ?_⟩⟩
      rw [Spot.skip_withGroups]
  | branch first second =>
      refine ⟨groups, ?_⟩
      simp only [ways, List.mem_cons, Prod.mk.injEq, List.not_mem_nil, or_false] at h ⊢
      rcases h with ⟨rfl, rfl⟩ | ⟨rfl, rfl⟩
      · exact .inl ⟨rfl, rfl⟩
      · exact .inr ⟨rfl, rfl⟩
  | mark group closing next =>
      obtain ⟨rfl, rfl⟩ := Prod.mk.inj (List.mem_singleton.mp h)
      exact ⟨_, List.mem_singleton.mpr rfl⟩
  | test condition next =>
      rw [ways] at h
      split at h
      · rename_i hholds
        obtain ⟨rfl, rfl⟩ := Prod.mk.inj (List.mem_singleton.mp h)
        refine ⟨groups, ?_⟩
        rw [ways, Spot.place_withGroups, if_pos hholds]
        exact List.mem_singleton.mpr rfl
      · cases h

/-- Groups do not decide whether a match can be completed. -/
theorem Completes.withGroups {n : Nat} {s : Spot} (h : Completes nodes n s) (groups : Groups) :
    Completes nodes n (s.withGroups groups) := by
  induction h generalizing groups with
  | stop hstop => exact .stop hstop
  | step hnode hway _ ih =>
      obtain ⟨groups', hway'⟩ := Node.ways_withGroups groups hway
      exact .step hnode hway' (ih groups')

theorem completes_withGroups {n : Nat} {s : Spot} {groups : Groups} :
    Completes nodes n (s.withGroups groups) ↔ Completes nodes n s :=
  ⟨fun h => h.withGroups s.groups, fun h => h.withGroups groups⟩

/-- A way without a character leads to the same spot with other groups, from a node that is passed there. -/
theorem Node.ways_of_isPassedAt {node : Node} {s : Spot} (h : node.isPassedAt s.place = true) {m : Nat}
    (hm : m ∈ node.targets) : ∃ groups, (m, s.withGroups groups) ∈ node.ways s := by
  cases node with
  | stop => cases h
  | read set next => cases h
  | branch first second =>
      refine ⟨s.groups, ?_⟩
      simp only [targets, List.mem_cons, List.not_mem_nil, or_false] at hm
      rcases hm with rfl | rfl <;> simp [ways]
  | mark group closing next =>
      obtain rfl := List.mem_singleton.mp hm
      exact ⟨_, List.mem_singleton.mpr rfl⟩
  | test condition next =>
      obtain rfl := List.mem_singleton.mp hm
      have hholds : condition.holds s.place = true := h
      refine ⟨s.groups, ?_⟩
      rw [ways, if_pos hholds]
      exact List.mem_singleton.mpr rfl

/-- A way takes no character from a node that is passed, or it takes one that the node reads. -/
theorem Node.cases_of_mem_ways {node : Node} {s : Spot} {m : Nat} {o : Spot} (h : (m, o) ∈ node.ways s) :
    m ∈ node.targets ∧ ((node.isPassedAt s.place = true ∧ ∃ groups, o = s.withGroups groups) ∨
      ∃ c, s.rest.head? = some c ∧ node.canRead c = true ∧ o = s.skip 1) := by
  cases node with
  | stop => cases h
  | read set next =>
      obtain ⟨o', ho', heq⟩ := List.mem_map.mp h
      obtain ⟨rfl, rfl⟩ := Prod.mk.inj heq
      obtain ⟨c, hhead, hc, rfl⟩ := Spot.read?_eq_some_iff.mp (Option.mem_toList.mp ho')
      exact ⟨List.mem_singleton.mpr rfl, .inr ⟨c, hhead, hc, rfl⟩⟩
  | branch first second =>
      simp only [ways, List.mem_cons, Prod.mk.injEq, List.not_mem_nil, or_false] at h
      rcases h with ⟨rfl, rfl⟩ | ⟨rfl, rfl⟩
      · exact ⟨by simp [targets], .inl ⟨rfl, o.groups, rfl⟩⟩
      · exact ⟨by simp [targets], .inl ⟨rfl, o.groups, rfl⟩⟩
  | mark group closing next =>
      obtain ⟨rfl, rfl⟩ := Prod.mk.inj (List.mem_singleton.mp h)
      exact ⟨List.mem_singleton.mpr rfl, .inl ⟨rfl, _, rfl⟩⟩
  | test condition next =>
      rw [ways] at h
      split at h
      · rename_i hholds
        obtain ⟨rfl, rfl⟩ := Prod.mk.inj (List.mem_singleton.mp h)
        exact ⟨List.mem_singleton.mpr rfl, .inl ⟨hholds, o.groups, rfl⟩⟩
      · cases h

theorem Completes.lt_size {n : Nat} {s : Spot} (h : Completes nodes n s) : n < nodes.size := by
  cases h with
  | stop hstop => exact (Array.getElem?_eq_some_iff.mp hstop).1
  | step hnode => exact (Array.getElem?_eq_some_iff.mp hnode).1

theorem mem_readersOf {c : Char} {liveAfter : Nodes} {n : Nat} :
    n ∈ a.readersOf c liveAfter ↔
      ∃ m ∈ liveAfter, n ∈ a.before m ∧ a.nodes[n]?.any (Node.canRead c) = true := by
  simp only [readersOf, List.mem_flatMap, List.mem_filter, Std.TreeSet.mem_toList]

/-- **Live nodes complete a match.** Given the nodes from which a match can be completed behind the next character, those are
found from which it can be completed here. -/
theorem WellLaid.mem_liveAt_iff (ha : a.WellLaid) {s : Spot} {liveAfter : Nodes}
    (hafter : s.rest ≠ [] → ∀ n, n ∈ liveAfter ↔ Completes a.nodes n (s.skip 1)) (n : Nat) :
    n ∈ a.liveAt s.place liveAfter ↔ Completes a.nodes n s := by
  let readers : List Nat := s.place.after.elim [] (a.readersOf · liveAfter)
  have hrest : ∀ c, s.rest.head? = some c → s.rest ≠ [] := by
    rintro c hhead heq
    rw [heq] at hhead
    cases hhead
  have hreaders : ∀ m, m ∈ readers ↔ ∃ c, s.rest.head? = some c ∧ ∃ k, Completes a.nodes k (s.skip 1) ∧
      m ∈ a.before k ∧ a.nodes[m]?.any (Node.canRead c) = true := by
    intro m
    cases hhead : s.rest.head? with
    | none => simp [readers, Spot.place, hhead]
    | some c =>
        have hlive := hafter (hrest c hhead)
        simp [readers, Spot.place, hhead, mem_readersOf, hlive]
  constructor
  · refine of_mem_leadingTo (s := fun n => Completes a.nodes n s) ?_ (fun m hm => absurd hm Std.TreeSet.not_mem_emptyc) ?_ n
    · intro m hm k hk
      obtain ⟨hbefore, hpassed⟩ := List.mem_filter.mp hk
      obtain ⟨node, hnode, htarget⟩ := (ha.mem_before hm.lt_size).mp hbefore
      rw [hnode] at hpassed
      obtain ⟨groups, hway⟩ := Node.ways_of_isPassedAt hpassed htarget
      exact .step hnode hway (hm.withGroups groups)
    · intro m hm
      rcases List.mem_cons.mp hm with rfl | hm
      · exact .stop ((ha.stop_iff 0).mpr rfl)
      · obtain ⟨c, hhead, k, hk, hbefore, hreads⟩ := (hreaders m).mp hm
        obtain ⟨node, hnode, htarget⟩ := (ha.mem_before hk.lt_size).mp hbefore
        rw [hnode] at hreads
        cases node with
        | read set next =>
            obtain rfl := List.mem_singleton.mp htarget
            refine .step hnode ?_ hk
            have hread : s.read? set = some (s.skip 1) := Spot.read?_eq_some_iff.mpr ⟨c, hhead, hreads, rfl⟩
            simp [Node.ways, hread]
        | _ => cases hreads
  · -- what completes a match is reached backwards, groups apart
    have hfuel : (0 :: readers).length + a.unlooked s.place ∅ ≤ 3 * a.nodes.size + 1 := by
      have hstop : 0 < a.nodes.size := (Completes.stop (s := s) ((ha.stop_iff 0).mpr rfl)).lt_size
      cases hhead : s.rest.head? with
      | none =>
          have h := ha.fuel_le s.place 'a' ∅
          simp only [readers, Spot.place, hhead, List.length_cons, Option.elim_none, List.length_nil] at h ⊢
          omega
      | some c =>
          have h := ha.fuel_le s.place c liveAfter
          simp only [readers, Spot.place, hhead, List.length_cons, Option.elim_some] at h ⊢
          omega
    obtain ⟨hall, hclosed⟩ := ha.leadingTo_closed hfuel fun m hm => absurd hm Std.TreeSet.not_mem_emptyc
    suffices hgroups : ∀ n t, Completes a.nodes n t → ∀ groups, t = s.withGroups groups →
        n ∈ a.liveAt s.place liveAfter from fun h => hgroups n s h s.groups rfl
    intro n t ht
    induction ht with
    | @stop n t hstop =>
        intro _ _
        obtain rfl := (ha.stop_iff n).mp hstop
        exact hall 0 (.inr List.mem_cons_self)
    | @step n t node m o hnode hway hm ih =>
        rintro groups rfl
        obtain ⟨htarget, ⟨hpassed, groups', rfl⟩ | ⟨c, hhead, hreads, rfl⟩⟩ := Node.cases_of_mem_ways hway
        · have hbefore := (ha.mem_before hm.lt_size).mpr ⟨node, hnode, htarget⟩
          refine hclosed m (ih groups' rfl) n (List.mem_filter.mpr ⟨hbefore, ?_⟩)
          rw [hnode]
          exact hpassed
        · rw [Spot.skip_withGroups, completes_withGroups] at hm
          refine hall n (.inr (List.mem_cons_of_mem _ ((hreaders n).mpr ⟨c, hhead, m, hm, ?_, ?_⟩)))
          · exact (ha.mem_before hm.lt_size).mpr ⟨node, hnode, htarget⟩
          · rw [hnode]
            exact hreads

end Automaton

end XmlDiagnostics
