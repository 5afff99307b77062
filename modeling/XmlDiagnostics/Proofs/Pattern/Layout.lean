import XmlDiagnostics.Proofs.Pattern.Runs

/-! # The nodes of a pattern

The nodes laid out for a pattern stand for its ways. A run that comes to their first node does what it would do if
it had to try instead the node behind them, at each spot where a way of the pattern ends, in the order of the ways
(`Fragment`). This holds in every automaton that has the nodes, since a layout leaves alone what has been laid
out before (`Keeps`), and a loop changes no node but its own branch.

`laysOut_layOut` puts this together for all steady patterns. -/

namespace XmlDiagnostics

namespace Automaton

open Pattern

/-- Trying `entry` is trying `next` wherever a step leads. -/
def Fragment (nodes : Array Node) (entry next : Nat) (step : Spot → List Spot) : Prop :=
  ∀ s todo result, Runs nodes ((step s).map (next, ·) ++ todo) result → Runs nodes ((entry, s) :: todo) result

/-- Nodes have been added behind others, and none of them is an end. -/
structure Keeps (nodes nodes' : Array Node) : Prop where
  size_le : nodes.size ≤ nodes'.size
  kept : ∀ i < nodes.size, nodes'[i]? = nodes[i]?
  noStop : ∀ i, nodes.size ≤ i → nodes'[i]? ≠ some .stop

/-- An automaton has the nodes that have been added. -/
def Agrees (nodes nodes' final : Array Node) : Prop :=
  ∀ i, nodes.size ≤ i → i < nodes'.size → final[i]? = nodes'[i]?

/-- A layout adds nodes that stand for a step. -/
structure LaysOut (part : Nat → Layout) (step : Spot → List Spot) : Prop where
  keeps : ∀ next nodes, Keeps nodes (part next nodes).2
  fragment : ∀ next nodes final, Agrees nodes (part next nodes).2 final → Fragment final (part next nodes).1 next step

variable {nodes nodes' nodes'' final : Array Node} {step step' : Spot → List Spot}

/-! ### Adding nodes -/

theorem Keeps.refl (nodes : Array Node) : Keeps nodes nodes where
  size_le := Nat.le_refl _
  kept := fun i _ => rfl
  noStop := fun i hi => by simp [Array.getElem?_eq_none hi]

theorem Keeps.trans (h : Keeps nodes nodes') (h' : Keeps nodes' nodes'') : Keeps nodes nodes'' where
  size_le := Nat.le_trans h.size_le h'.size_le
  kept := fun i hi => (h'.kept i (Nat.lt_of_lt_of_le hi h.size_le)).trans (h.kept i hi)
  noStop := fun i hi => by
    rcases Nat.lt_or_ge i nodes'.size with hlt | hge
    · rw [h'.kept i hlt]
      exact h.noStop i hi
    · exact h'.noStop i hge

theorem keeps_push {node : Node} (h : node ≠ .stop) (nodes : Array Node) : Keeps nodes (nodes.push node) where
  size_le := by simp
  kept := fun i hi => Array.getElem?_push_lt hi ▸ (Array.getElem?_eq_getElem hi).symm
  noStop := fun i hi => by
    rw [Array.getElem?_push]
    split
    · exact fun hsome => h (Option.some.inj hsome)
    · rw [Array.getElem?_eq_none hi]
      simp

/-- What has all nodes that were added in two steps has those of the first one. -/
theorem Agrees.left (h : Agrees nodes nodes'' final) (hkeeps : Keeps nodes' nodes'') : Agrees nodes nodes' final := by
  intro i hi hlt
  rw [h i hi (Nat.lt_of_lt_of_le hlt hkeeps.size_le), hkeeps.kept i hlt]

theorem Agrees.right (h : Agrees nodes nodes'' final) (hkeeps : Keeps nodes nodes') : Agrees nodes' nodes'' final :=
  fun i hi hlt => h i (Nat.le_trans hkeeps.size_le hi) hlt

theorem Agrees.last {node : Node} (h : Agrees nodes (nodes'.push node) final) (hkeeps : Keeps nodes nodes') :
    final[nodes'.size]? = some node := by
  rw [h nodes'.size hkeeps.size_le (by simp), Array.getElem?_push_size]

/-! ### Runs through fragments -/

/-- What a run does behind what it tries first can be replaced. -/
theorem Runs.tail {pre todo todo' : List (Nat × Spot)} {result : Option Spot}
    (h : Runs nodes (pre ++ todo) result) (htail : ∀ result, Runs nodes todo result → Runs nodes todo' result) :
    Runs nodes (pre ++ todo') result := by
  generalize hall : pre ++ todo = all at h
  induction h generalizing pre with
  | nothing =>
      obtain ⟨rfl, rfl⟩ := List.append_eq_nil_iff.mp hall
      exact htail none .nothing
  | @stop n s others hstop =>
      cases pre with
      | nil =>
          obtain rfl : todo = (n, s) :: others := hall
          exact htail _ (.stop hstop)
      | cons first pre =>
          obtain ⟨rfl, -⟩ := List.cons.inj hall
          exact .stop hstop
  | @step n s others node result hnode hstop hrest ih =>
      cases pre with
      | nil =>
          obtain rfl : todo = (n, s) :: others := hall
          exact htail _ (.step hnode hstop hrest)
      | cons first pre =>
          obtain ⟨rfl, hothers⟩ := List.cons.inj hall
          have hsplit : (node.ways s ++ pre) ++ todo = node.ways s ++ others := by
            rw [List.append_assoc]
            exact congrArg _ hothers
          have hrest' := ih hsplit
          rw [List.append_assoc] at hrest'
          exact .step hnode hstop hrest'

/-- Trying a node at each of some spots is trying the next one wherever a step leads from them. -/
theorem runs_of_flatMap {entry next : Nat} {spots : List Spot}
    (h : ∀ s ∈ spots, ∀ todo result, Runs nodes ((step s).map (next, ·) ++ todo) result →
      Runs nodes ((entry, s) :: todo) result)
    {todo : List (Nat × Spot)} {result : Option Spot}
    (hruns : Runs nodes ((spots.flatMap step).map (next, ·) ++ todo) result) :
    Runs nodes (spots.map (entry, ·) ++ todo) result := by
  induction spots generalizing todo result with
  | nil => exact hruns
  | cons s spots ih =>
      rw [List.flatMap_cons, List.map_append, List.append_assoc] at hruns
      refine h s List.mem_cons_self _ _ (hruns.tail fun result hresult => ?_)
      exact ih (fun s hs => h s (List.mem_cons_of_mem _ hs)) hresult

theorem fragment_self (nodes : Array Node) (next : Nat) : Fragment nodes next next fun s => [s] :=
  fun _ _ _ h => h

theorem Fragment.trans {entry mid next : Nat} (h : Fragment nodes entry mid step) (h' : Fragment nodes mid next step') :
    Fragment nodes entry next fun s => (step s).flatMap step' :=
  fun s todo result hruns => h s todo result (runs_of_flatMap (fun s _ => h' s) hruns)

theorem fragment_of_ways {entry next : Nat} {node : Node} (hnode : nodes[entry]? = some node) (hstop : node ≠ .stop)
    (hways : ∀ s, node.ways s = (step s).map (next, ·)) : Fragment nodes entry next step :=
  fun s _ _ hruns => .step hnode hstop (hways s ▸ hruns)

/-- A branch between going on and more of a repetition. -/
theorem runs_branch {entry into next : Nat} {greedy : Bool} {s : Spot} {more : List Spot}
    (hnode : nodes[entry]? = some (if greedy then .branch into next else .branch next into))
    (hmore : ∀ todo result, Runs nodes (more.map (next, ·) ++ todo) result → Runs nodes ((into, s) :: todo) result)
    {todo : List (Nat × Spot)} {result : Option Spot}
    (hruns : Runs nodes ((if greedy then more ++ [s] else s :: more).map (next, ·) ++ todo) result) :
    Runs nodes ((entry, s) :: todo) result := by
  cases greedy with
  | true =>
      rw [if_pos rfl] at hnode hruns
      refine .step hnode (by simp) (hmore _ _ ?_)
      simpa using hruns
  | false =>
      rw [if_neg Bool.false_ne_true] at hnode hruns
      refine .step hnode (by simp) ?_
      have hnext : Runs nodes ([(next, s)] ++ (more.map (next, ·) ++ todo)) result := by simpa using hruns
      exact hnext.tail (hmore todo)

/-! ### Parts -/

theorem laysOut_pure : LaysOut (fun next => pure next) fun s => [s] where
  keeps := fun _ nodes => .refl nodes
  fragment := fun next _ final _ => fragment_self final next

/-- One node that stands for a step. -/
theorem laysOut_add {node : Nat → Node} (hstop : ∀ next, node next ≠ .stop)
    (hways : ∀ next s, (node next).ways s = (step s).map (next, ·)) : LaysOut (fun next => add (node next)) step where
  keeps := fun next nodes => keeps_push (hstop next) nodes
  fragment := fun next nodes _ hagrees => fragment_of_ways (hagrees.last (.refl nodes)) (hstop next) (hways next)

theorem LaysOut.bind {part part' : Nat → Layout} (h : LaysOut part step) (h' : LaysOut part' step') :
    LaysOut (fun next => do part (← part' next)) fun s => (step s).flatMap step' where
  keeps := fun next nodes => (h'.keeps next nodes).trans (h.keeps _ _)
  fragment := fun next nodes final hagrees =>
    (h.fragment _ _ final (hagrees.right (h'.keeps next nodes))).trans
      (h'.fragment next nodes final (hagrees.left (h.keeps _ _)))

theorem LaysOut.copies {part : Nat → Layout} (h : LaysOut part step) :
    ∀ n, LaysOut (Automaton.copies part n) (times step n)
  | 0 => laysOut_pure
  | n + 1 => h.bind (h.copies n)

theorem branch_ne_stop (greedy : Bool) (into around : Nat) :
    (if greedy then Node.branch into around else .branch around into) ≠ .stop := by
  cases greedy <;> simp

theorem LaysOut.upTo {part : Nat → Layout} (h : LaysOut part step) (greedy : Bool) :
    ∀ n, LaysOut (fun next => Automaton.upTo part greedy next n) (repeats step greedy n)
  | 0 => laysOut_pure
  | n + 1 => by
      have hmore := h.bind (h.upTo greedy n)
      refine ⟨fun next nodes => (hmore.keeps next nodes).trans (keeps_push (branch_ne_stop _ _ _) _), ?_⟩
      intro next nodes final hagrees s todo result hruns
      have hlast := hagrees.last (hmore.keeps next nodes)
      refine runs_branch hlast (fun todo result => ?_) hruns
      exact hmore.fragment next nodes final (hagrees.left (keeps_push (branch_ne_stop _ _ _) _)) s todo result

/-! ### Loops -/

/-- A loop is left where its part no longer goes on, at the latest when the text is at its end. -/
theorem runs_loop {first back next : Nat} {greedy : Bool}
    (hback : nodes[back]? = some (if greedy then .branch first next else .branch next first))
    (hpart : Fragment nodes first back step) (hshorter : ∀ s, ∀ o ∈ step s, o.rest.length < s.rest.length) {n : Nat} :
    ∀ s : Spot, s.rest.length ≤ n → ∀ todo result,
      Runs nodes ((repeats step greedy n s).map (next, ·) ++ todo) result → Runs nodes ((back, s) :: todo) result := by
  induction n with
  | zero =>
      intro s hs todo result hruns
      have hnone : step s = [] := by
        rw [List.eq_nil_iff_forall_not_mem]
        intro o ho
        have := hshorter s o ho
        omega
      have hmore : ∀ todo result, Runs nodes (([] : List Spot).map (next, ·) ++ todo) result →
          Runs nodes ((first, s) :: todo) result := by
        intro todo result hresult
        refine hpart s todo result ?_
        rw [hnone]
        exact hresult
      refine runs_branch hback hmore ?_
      cases greedy <;> exact hruns
  | succ n ih =>
      intro s hs todo result hruns
      refine runs_branch hback (fun todo result hresult => hpart s todo result ?_) hruns
      refine runs_of_flatMap (fun o ho => ih o ?_) hresult
      have := hshorter s o ho
      omega

/-- The nodes of a loop around a part. -/
theorem LaysOut.loop {part : Nat → Layout} (h : LaysOut part step)
    (hshorter : ∀ s, ∀ o ∈ step s, o.rest.length < s.rest.length) (greedy : Bool) (next : Nat) (nodes : Array Node) :
    let laid := Automaton.loop part greedy next nodes
    Keeps nodes laid.2 ∧ ∀ final, Agrees nodes laid.2 final →
      Fragment final laid.1.1 laid.1.2 step ∧
      Fragment final laid.1.2 next fun s => repeats step greedy s.rest.length s := by
  intro laid
  let start := nodes.push (.branch next next)
  let inner := part nodes.size start
  let branch : Node := if greedy then .branch inner.1 next else .branch next inner.1
  have hlaid : laid = ((inner.1, nodes.size), inner.2.setIfInBounds nodes.size branch) := by
    cases greedy <;> rfl
  have hstart : Keeps nodes start := keeps_push (by simp) nodes
  have hinner : Keeps start inner.2 := h.keeps _ _
  have hsize : start.size = nodes.size + 1 := by simp [start]
  have hinBounds : nodes.size < inner.2.size := by
    have := hinner.size_le
    omega
  rw [hlaid]
  refine ⟨⟨?_, fun i hi => ?_, fun i hi => ?_⟩, fun final hagrees => ?_⟩
  · simp only [Array.size_setIfInBounds]
    omega
  · rw [Array.getElem?_setIfInBounds_ne (by omega)]
    exact (hstart.trans hinner).kept i hi
  · rw [Array.getElem?_setIfInBounds]
    split
    · exact fun hsome => branch_ne_stop greedy inner.1 next (Option.some.inj hsome)
    · exact (hstart.trans hinner).noStop i hi
  · have hback : final[nodes.size]? = some branch := by
      rw [hagrees nodes.size (Nat.le_refl _) (by simpa using hinBounds), Array.getElem?_setIfInBounds_self_of_lt hinBounds]
    have hpart : Fragment final inner.1 nodes.size step := by
      refine h.fragment nodes.size start final fun i hi hlt => ?_
      rw [hagrees i (by omega) (by simpa using hlt), Array.getElem?_setIfInBounds_ne (by omega)]
    exact ⟨hpart, fun s todo result => runs_loop hback hpart hshorter s (Nat.le_refl _) todo result⟩

theorem LaysOut.atLeast {part : Nat → Layout} (h : LaysOut part step)
    (hshorter : ∀ s, ∀ o ∈ step s, o.rest.length < s.rest.length) (greedy : Bool) :
    ∀ n, LaysOut (fun next => Automaton.atLeast part false greedy next n)
      fun s => (times step n s).flatMap fun s => repeats step greedy s.rest.length s
  | 0 => by
      have hways : (fun s => (times step 0 s).flatMap fun s => repeats step greedy s.rest.length s) =
          fun s => repeats step greedy s.rest.length s := by
        funext s
        rw [times, List.flatMap_singleton]
      rw [hways]
      exact ⟨fun next nodes => (h.loop hshorter greedy next nodes).1,
        fun next nodes final hagrees => ((h.loop hshorter greedy next nodes).2 final hagrees).2⟩
  | n + 1 => by
      -- the loop begins with its part, so one copy less stands before it
      have hloop : LaysOut (fun next => do return (← Automaton.loop part greedy next).1)
          fun s => (step s).flatMap fun s => repeats step greedy s.rest.length s :=
        ⟨fun next nodes => (h.loop hshorter greedy next nodes).1, fun next nodes final hagrees =>
          have hboth := (h.loop hshorter greedy next nodes).2 final hagrees
          hboth.1.trans hboth.2⟩
      have hways : (fun s => (times step (n + 1) s).flatMap fun s => repeats step greedy s.rest.length s) =
          fun s => (times step n s).flatMap fun s => (step s).flatMap fun s => repeats step greedy s.rest.length s := by
        funext s
        rw [times_succ_right, List.flatMap_assoc]
      rw [hways]
      exact (h.copies n).bind hloop

/-! ### Patterns -/

theorem LaysOut.alt {part part' : Nat → Layout} (h : LaysOut part step) (h' : LaysOut part' step') :
    LaysOut (fun next => do
      let second ← part' next
      add (.branch (← part next) second)) fun s => step s ++ step' s where
  keeps := fun next nodes =>
    ((h'.keeps next nodes).trans (h.keeps next _)).trans (keeps_push (by simp) _)
  fragment := by
    intro next nodes final hagrees s todo result hruns
    have hsecond := h'.keeps next nodes
    have hfirst := h.keeps next (part' next nodes).2
    have hparts := hagrees.left (keeps_push (by simp) _)
    rw [List.map_append, List.append_assoc] at hruns
    refine .step (hagrees.last (hsecond.trans hfirst)) (by simp) ?_
    refine h.fragment next _ final (hparts.right hsecond) s _ result (hruns.tail fun result hresult => ?_)
    exact h'.fragment next nodes final (hparts.left hfirst) s todo result hresult

/-- **The nodes of a pattern stand for its ways.** -/
theorem laysOut_layOut : ∀ {p : Pattern}, p.isSteady = true → LaysOut (layOut p) p.ways
  | .empty, _ => laysOut_pure
  | .one set, _ => laysOut_add (fun next => by simp) fun next s => rfl
  | .anchor condition, _ => by
      have hways : ∀ next s, (Node.test condition next).ways s = (ways (.anchor condition) s).map (next, ·) := by
        intro next s
        rw [Node.ways, ways]
        split <;> rfl
      exact laysOut_add (fun next => by simp) hways
  | .seq p q, h => by
      rw [isSteady, Bool.and_eq_true] at h
      exact (laysOut_layOut h.1).bind (laysOut_layOut h.2)
  | .alt p q, h => by
      rw [isSteady, Bool.and_eq_true] at h
      exact (laysOut_layOut h.1).alt (laysOut_layOut h.2)
  | .group number p, h => by
      have hmark : ∀ closing, LaysOut (fun next => add (.mark number closing next))
          fun s => [s.pass ⟨number, closing⟩] :=
        fun closing => laysOut_add (fun next => by simp) fun next s => rfl
      have hgroup := (hmark false).bind ((laysOut_layOut (p := p) h).bind (hmark true))
      have hways : (ways (.group number p)) = fun s => [s.pass ⟨number, false⟩].flatMap fun s =>
          (p.ways s).flatMap fun s => [s.pass ⟨number, true⟩] := by
        funext s
        rw [ways, List.flatMap_singleton, ← List.map_eq_flatMap]
      rw [hways]
      exact hgroup
  | .many p least most greedy, h => by
      rw [isSteady, Bool.and_eq_true, Bool.and_eq_true, Bool.not_eq_true', Bool.not_eq_true'] at h
      obtain ⟨⟨hsteady, hnullable⟩, hvoid⟩ := h
      have hp := laysOut_layOut hsteady
      cases most with
      | none =>
          have hmany := hp.atLeast (fun s o ho => length_lt_of_mem_ways hnullable ho) greedy least
          have hlaid : layOut (.many p least none greedy) = fun next => atLeast (layOut p) false greedy next least := by
            funext next
            rw [layOut, hvoid, hnullable]
            rfl
          rw [hlaid]
          exact hmany
      | some most =>
          have hmany := (hp.copies least).bind (hp.upTo greedy (most - least))
          have hlaid : layOut (.many p least (some most) greedy) = fun next =>
              upTo (layOut p) greedy next (most - least) >>= copies (layOut p) least := by
            funext next
            rw [layOut, hvoid]
            rfl
          rw [hlaid]
          exact hmany

end Automaton

end XmlDiagnostics
