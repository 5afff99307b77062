import XmlDiagnostics.Proofs.Pattern.Ways

/-! # Runs of an automaton

A run tries the nodes of an automaton depth first. It keeps a list of what is still to be tried, each time a node with
a spot, and puts the ways of a node in front of the others (`Runs`). It ends with the first spot where a match is
complete, or when nothing is left.

A node completes at a spot if some way from it gets to the end of a match (`Completes`). A run goes back from
a node only if it does not complete. So what is found is where one gets by always taking the first way that
completes (`Runs.prefers`), which needs no going back. -/

namespace XmlDiagnostics.Automaton

/-- Where a node leads to from a spot, in the order of preference. -/
def Node.ways : Node → Spot → List (Nat × Spot)
  | stop, _ => []
  | read set next, s => (s.read? set).toList.map (next, ·)
  | branch first second, s => [(first, s), (second, s)]
  | mark group closing next, s => [(next, s.pass ⟨group, closing⟩)]
  | test condition next, s => if condition.holds s.place then [(next, s)] else []

/-- A run that tries some nodes at spots, in order, and what it finds. -/
inductive Runs (nodes : Array Node) : List (Nat × Spot) → Option Spot → Prop
  | nothing : Runs nodes [] none
  | stop {n s todo} (h : nodes[n]? = some .stop) : Runs nodes ((n, s) :: todo) (some s)
  | step {n s todo node result} (h : nodes[n]? = some node) (hstop : node ≠ .stop)
      (hrest : Runs nodes (node.ways s ++ todo) result) : Runs nodes ((n, s) :: todo) result

/-- A match can be completed from a node at a spot. -/
inductive Completes (nodes : Array Node) : Nat → Spot → Prop
  | stop {n s} (h : nodes[n]? = some .stop) : Completes nodes n s
  | step {n s node m o} (h : nodes[n]? = some node) (hway : (m, o) ∈ node.ways s) (hrest : Completes nodes m o) :
      Completes nodes n s

/-- Where a match ends that takes the first way that completes, at each node. -/
inductive Prefers (nodes : Array Node) : Nat → Spot → Spot → Prop
  | stop {n s} (h : nodes[n]? = some .stop) : Prefers nodes n s s
  | step {n s node dead m o others result} (h : nodes[n]? = some node)
      (hways : node.ways s = dead ++ (m, o) :: others) (hdead : ∀ way ∈ dead, ¬Completes nodes way.1 way.2)
      (hrest : Prefers nodes m o result) : Prefers nodes n s result

variable {nodes : Array Node}

theorem Node.eq_stop_of_stop {n : Nat} {node : Node} (h : nodes[n]? = some .stop) (h' : nodes[n]? = some node) :
    node = .stop := (Option.some.inj (h.symm.trans h')).symm

/-- Some way goes on where a match can be completed, unless that is the end. -/
theorem Completes.exists_way {n : Nat} {s : Spot} {node : Node} (h : Completes nodes n s) (hnode : nodes[n]? = some node)
    (hstop : node ≠ .stop) : ∃ way ∈ node.ways s, Completes nodes way.1 way.2 := by
  cases h with
  | stop hend => exact absurd (Node.eq_stop_of_stop hend hnode) hstop
  | step hother hway hrest =>
      obtain rfl := Option.some.inj (hnode.symm.trans hother)
      exact ⟨_, hway, hrest⟩

/-- Of several ways one is the first that completes, if any does. -/
theorem exists_first_completes {ways : List (Nat × Spot)} (h : ∃ way ∈ ways, Completes nodes way.1 way.2) :
    ∃ dead n s others, ways = dead ++ (n, s) :: others ∧ (∀ way ∈ dead, ¬Completes nodes way.1 way.2) ∧
      Completes nodes n s := by
  induction ways with
  | nil =>
      obtain ⟨way, hway, -⟩ := h
      cases hway
  | cons first ways ih =>
      by_cases hfirst : Completes nodes first.1 first.2
      · exact ⟨[], first.1, first.2, ways, rfl, by simp, hfirst⟩
      · obtain ⟨way, hway, hcompletes⟩ := h
        rcases List.mem_cons.mp hway with rfl | hway
        · exact absurd hcompletes hfirst
        · obtain ⟨dead, n, s, others, rfl, hdead, hn⟩ := ih ⟨way, hway, hcompletes⟩
          refine ⟨first :: dead, n, s, others, rfl, fun d hd => ?_, hn⟩
          rcases List.mem_cons.mp hd with rfl | hd
          · exact hfirst
          · exact hdead d hd

/-- **Runs take the first way that completes.** Of what is to be tried, a run passes all that does not complete; from
the first node that does, it finds where the preferred match ends. -/
theorem Runs.prefers {todo : List (Nat × Spot)} {result : Option Spot} (h : Runs nodes todo result)
    {dead : List (Nat × Spot)} {n : Nat} {s : Spot} {others : List (Nat × Spot)} (htodo : todo = dead ++ (n, s) :: others)
    (hdead : ∀ way ∈ dead, ¬Completes nodes way.1 way.2) (hn : Completes nodes n s) :
    ∃ o, result = some o ∧ Prefers nodes n s o := by
  induction h generalizing dead n s others with
  | nothing => simp at htodo
  | @stop m t todo hstop =>
      cases dead with
      | nil =>
          obtain ⟨hsame, -⟩ := List.cons.inj htodo
          obtain ⟨rfl, rfl⟩ := Prod.mk.inj hsame
          exact ⟨_, rfl, .stop hstop⟩
      | cons d dead =>
          obtain ⟨rfl, -⟩ := List.cons.inj htodo
          exact absurd (.stop hstop) (hdead _ List.mem_cons_self)
  | @step m t todo node result hnode hstop _ ih =>
      cases dead with
      | nil =>
          obtain ⟨hsame, rfl⟩ := List.cons.inj htodo
          obtain ⟨rfl, rfl⟩ := Prod.mk.inj hsame
          obtain ⟨dead, k, o, rest, hways, hdead, hk⟩ := exists_first_completes (hn.exists_way hnode hstop)
          obtain ⟨found, rfl, hprefers⟩ := ih (by rw [hways, List.append_assoc, List.cons_append]) hdead hk
          exact ⟨found, rfl, .step hnode hways hdead hprefers⟩
      | cons d dead =>
          obtain ⟨hfirst, hothers⟩ := List.cons.inj htodo
          obtain rfl := hfirst
          -- what a node that does not complete leads to does not complete either
          have hsplit : node.ways t ++ todo = (node.ways t ++ dead) ++ (n, s) :: others := by
            rw [hothers, List.append_assoc]
            rfl
          refine ih hsplit (fun way hway => ?_) hn
          rcases List.mem_append.mp hway with hway | hway
          · exact fun hcompletes => hdead _ List.mem_cons_self (.step hnode hway hcompletes)
          · exact hdead way (List.mem_cons_of_mem _ hway)

/-- A run finds something only if something completes. -/
theorem Runs.completes {todo : List (Nat × Spot)} {o : Spot} (h : Runs nodes todo (some o)) :
    ∃ way ∈ todo, Completes nodes way.1 way.2 := by
  generalize hresult : some o = result at h
  induction h with
  | nothing => cases hresult
  | stop hstop => exact ⟨_, List.mem_cons_self, .stop hstop⟩
  | @step n s todo node result hnode _ _ ih =>
      obtain ⟨way, hway, hcompletes⟩ := ih hresult
      rcases List.mem_append.mp hway with hway | hway
      · exact ⟨(n, s), List.mem_cons_self, .step hnode hway hcompletes⟩
      · exact ⟨way, List.mem_cons_of_mem _ hway, hcompletes⟩

/-- What a run from one node finds is where the preferred match ends; if it finds nothing, the node does not complete. -/
theorem Runs.result {n : Nat} {s : Spot} {result : Option Spot} (h : Runs nodes [(n, s)] result) :
    (∃ o, result = some o ∧ Completes nodes n s ∧ Prefers nodes n s o) ∨ (result = none ∧ ¬Completes nodes n s) := by
  by_cases hn : Completes nodes n s
  · obtain ⟨o, hresult, hprefers⟩ := h.prefers (List.nil_append _).symm (by simp) hn
    exact .inl ⟨o, hresult, hn, hprefers⟩
  · cases result with
    | none => exact .inr ⟨rfl, hn⟩
    | some o =>
        obtain ⟨way, hway, hcompletes⟩ := h.completes
        obtain rfl := List.mem_singleton.mp hway
        exact absurd hcompletes hn

end XmlDiagnostics.Automaton
