import XmlDiagnostics.Proofs.Pattern.Live

/-! # Routes over live nodes

At each place `follow` looks for the preferred route over live nodes to one that reads or is the end. It only ever
goes down from a live node to the first live one behind it (`Descends`), and since the nodes passed on such a route are different
(`Descends.nodup`), it has enough steps for it (`follow_of_descends`). So routes and characters taken in turn
lead where the preferred match ends (`finish_of_prefers`). -/

namespace XmlDiagnostics

namespace Automaton

variable {a : Automaton} {place : Place} {live : Nodes}

/-! ### Going down -/

/-- Where a node leads to at a place without a character, with the borders passed on the way. -/
def Node.passes (place : Place) (borders : List Border) : Node → List (Nat × List Border)
  | stop => []
  | read _ _ => []
  | branch first second => [(first, borders), (second, borders)]
  | mark group closing next => [(next, ⟨group, closing⟩ :: borders)]
  | test condition next => if condition.holds place then [(next, borders)] else []

/-- Whether a route ends at a node. -/
def Node.isLast : Node → Bool
  | stop => true
  | read _ _ => true
  | _ => false

/-- A route over live nodes, always on to the first one, with the nodes that are passed. -/
inductive Descends (a : Automaton) (place : Place) (live : Nodes) : Nat → List Border → List Nat → Route → Prop
  | last {n borders node} (hlive : n ∈ live) (h : a.nodes[n]? = some node) (hlast : node.isLast = true) :
      Descends a place live n borders [n] ⟨n, borders⟩
  | step {n borders node m borders' passed route} (hlive : n ∈ live) (h : a.nodes[n]? = some node)
      (hway : (node.passes place borders).find? (fun way => live.contains way.1) = some (m, borders'))
      (hrest : Descends a place live m borders' passed route) : Descends a place live n borders (n :: passed) route

theorem Node.passes_of_isLast {node : Node} (h : node.isLast = true) (borders : List Border) :
    node.passes place borders = [] := by
  cases node <;> first | rfl | cases h

theorem Node.length_passes_le (node : Node) (place : Place) (borders : List Border) : (node.passes place borders).length ≤ 2 := by
  cases node with
  | test condition next =>
      rw [passes]
      split <;> simp
  | _ => simp [passes]

/-- Where a node leads to does not depend on the borders that have been passed. -/
theorem Node.map_fst_passes (node : Node) (borders borders' : List Border) :
    (node.passes place borders).map Prod.fst = (node.passes place borders').map Prod.fst := by
  cases node with
  | test condition next =>
      rw [passes, passes]
      split <;> rfl
  | _ => rfl

theorem Node.find?_passes {node : Node} {borders borders' : List Border} {way way' : Nat × List Border}
    (h : (node.passes place borders).find? (fun way => live.contains way.1) = some way)
    (h' : (node.passes place borders').find? (fun way => live.contains way.1) = some way') : way.1 = way'.1 := by
  have hfst : ∀ borders way, (node.passes place borders).find? (fun way => live.contains way.1) = some way →
      ((node.passes place borders).map Prod.fst).find? live.contains = some way.1 := by
    intro borders way h
    rw [List.find?_map]
    exact congrArg (Option.map Prod.fst) h
  have hboth := hfst borders' way' h'
  rw [node.map_fst_passes borders' borders, hfst borders way h] at hboth
  exact Option.some.inj hboth

namespace Descends

variable {n : Nat} {borders : List Border} {passed : List Nat} {route : Route}

theorem forall_live (h : Descends a place live n borders passed route) : ∀ m ∈ passed, m ∈ live := by
  induction h with
  | last hlive => simpa using hlive
  | step hlive _ _ _ ih => exact List.forall_mem_cons.mpr ⟨hlive, ih⟩

/-- The nodes passed depend on the first one alone. -/
theorem passed_unique (h : Descends a place live n borders passed route) {borders' : List Border}
    {passed' : List Nat} {route' : Route} (h' : Descends a place live n borders' passed' route') :
    passed = passed' := by
  induction h generalizing borders' passed' route' with
  | last _ hnode hlast =>
      cases h' with
      | last => rfl
      | step _ hnode' hway' =>
          cases hnode.symm.trans hnode'
          rw [Node.passes_of_isLast hlast] at hway'
          cases hway'
  | step _ hnode hway _ ih =>
      cases h' with
      | last _ hnode' hlast' =>
          cases hnode.symm.trans hnode'
          rw [Node.passes_of_isLast hlast'] at hway
          cases hway
      | step _ hnode' hway' hrest' =>
          cases hnode.symm.trans hnode'
          obtain rfl := Node.find?_passes hway hway'
          rw [ih hrest']

/-- From each node passed, the nodes passed from there on are the last ones. -/
theorem exists_suffix (h : Descends a place live n borders passed route) {m : Nat} (hm : m ∈ passed) :
    ∃ borders' rest, Descends a place live m borders' rest route ∧ rest <:+ passed := by
  induction h with
  | @last n borders node hlive hnode hlast =>
      obtain rfl := List.mem_singleton.mp hm
      exact ⟨borders, _, .last hlive hnode hlast, List.suffix_refl _⟩
  | @step n borders node k borders' passed route hlive hnode hway hrest ih =>
      rcases List.mem_cons.mp hm with rfl | hm
      · exact ⟨borders, _, .step hlive hnode hway hrest, List.suffix_refl _⟩
      · obtain ⟨borders'', rest, hdescends, hsuffix⟩ := ih hm
        exact ⟨borders'', rest, hdescends, hsuffix.trans (List.suffix_cons _ _)⟩

/-- **No node is passed twice.** A node passed again would be passed again and again. -/
theorem nodup (h : Descends a place live n borders passed route) : passed.Nodup := by
  induction h with
  | last => exact List.nodup_singleton _
  | @step n borders node k borders' passed route hlive hnode hway hrest ih =>
      refine List.nodup_cons.mpr ⟨fun hmem => ?_, ih⟩
      obtain ⟨borders'', rest, hagain, hsuffix⟩ := hrest.exists_suffix hmem
      have hsame := hagain.passed_unique (.step hlive hnode hway hrest)
      have hlength := hsuffix.length_le
      rw [hsame, List.length_cons] at hlength
      omega

end Descends

/-! ### Following routes -/

theorem follow_nil (n : Nat) (passed : Nodes) : a.follow place live n passed [] = none := by
  cases n <;> simp [follow]

/-- A route to a node that is not live is given up. -/
theorem follow_dead {n : Nat} {passed : Nodes} {route : Route} {routes : List Route} (h : route.last ∉ live) :
    a.follow place live (n + 1) passed (route :: routes) = a.follow place live n passed routes := by
  have hdead : live.contains route.last = false := by
    rw [← Bool.not_eq_true, Std.TreeSet.contains_iff_mem]
    exact h
  rw [follow, hdead, Bool.not_false, Bool.or_true, if_pos rfl]

theorem follow_append_dead {passed : Nodes} {dead routes : List Route} (h : ∀ route ∈ dead, route.last ∉ live) {n : Nat} :
    a.follow place live (n + dead.length) passed (dead ++ routes) = a.follow place live n passed routes := by
  induction dead with
  | nil => rfl
  | cons route dead ih =>
      obtain ⟨hroute, hdead⟩ := List.forall_mem_cons.mp h
      rw [List.length_cons, ← Nat.add_assoc, List.cons_append, follow_dead hroute, ih hdead]

theorem follow_last {n : Nat} {passed : Nodes} {route : Route} {routes : List Route} {node : Node}
    (hpassed : route.last ∉ passed) (hlive : route.last ∈ live) (hnode : a.nodes[route.last]? = some node)
    (hlast : node.isLast = true) : a.follow place live (n + 1) passed (route :: routes) = some route := by
  rw [follow, if_neg, hnode]
  · cases node <;> first | rfl | cases hlast
  · simp [hlive, hpassed]

/-- A live node is passed, and the routes behind it come first. -/
theorem follow_pass {n : Nat} {passed : Nodes} {route : Route} {routes : List Route} {node : Node}
    (hpassed : route.last ∉ passed) (hlive : route.last ∈ live) (hnode : a.nodes[route.last]? = some node)
    (hlast : node.isLast = false) :
    a.follow place live (n + 1) passed (route :: routes) =
      a.follow place live n (passed.insert route.last)
        ((node.passes place route.borders).map (fun way => ⟨way.1, way.2⟩) ++ routes) := by
  rw [follow, if_neg, hnode]
  · cases node with
    | test condition next =>
        by_cases hholds : condition.holds place = true <;> simp [Node.passes, hholds]
    | branch first second => rfl
    | mark group closing next => rfl
    | _ => cases hlast
  · simp [hlive, hpassed]

/-- **Following finds the route.** Two steps for each node that is passed are enough. -/
theorem follow_of_descends {n : Nat} {borders : List Border} {nodes : List Nat} {route : Route}
    (h : Descends a place live n borders nodes route) {fuel : Nat} (hfuel : 2 * nodes.length ≤ fuel) {passed : Nodes}
    (hpassed : ∀ m ∈ nodes, m ∉ passed) (routes : List Route) :
    a.follow place live fuel passed (⟨n, borders⟩ :: routes) = some route := by
  have hnodup := h.nodup
  induction h generalizing fuel passed routes with
  | @last n borders node hlive hnode hlast =>
      obtain ⟨fuel, rfl⟩ : ∃ k, fuel = k + 1 := ⟨fuel - 1, by simp at hfuel; omega⟩
      exact follow_last (hpassed n List.mem_cons_self) hlive hnode hlast
  | @step n borders node m borders' nodes route hlive hnode hway hrest ih =>
      obtain ⟨hn, hnodup⟩ := List.nodup_cons.mp hnodup
      obtain ⟨hfirst, hothers⟩ := List.forall_mem_cons.mp hpassed
      obtain ⟨-, dead, others, hsplit, hdead⟩ := List.find?_eq_some_iff_append.mp hway
      have hlast : node.isLast = false := by
        cases hlast : node.isLast with
        | false => rfl
        | true =>
            rw [Node.passes_of_isLast hlast] at hsplit
            simp at hsplit
      have hcount := node.length_passes_le place borders
      rw [hsplit, List.length_append, List.length_cons] at hcount
      rw [List.length_cons] at hfuel
      let deadRoutes : List Route := dead.map fun way => ⟨way.1, way.2⟩
      obtain ⟨k, hk, rfl⟩ : ∃ k, 2 * nodes.length ≤ k ∧ fuel = k + deadRoutes.length + 1 :=
        ⟨fuel - deadRoutes.length - 1, by simp [deadRoutes]; omega, by simp [deadRoutes]; omega⟩
      have hskipped : ∀ route ∈ deadRoutes, route.last ∉ live := by
        intro route hroute hmem
        obtain ⟨way, hway, rfl⟩ := List.mem_map.mp hroute
        have hlive := hdead way hway
        rw [Std.TreeSet.contains_iff_mem.mpr hmem] at hlive
        cases hlive
      rw [follow_pass hfirst hlive hnode hlast, hsplit, List.map_append, List.append_assoc, follow_append_dead hskipped,
        List.map_cons, List.cons_append]
      refine ih hk (fun k hk => ?_) _ hnodup
      rw [Std.TreeSet.mem_insert, compare_eq_iff_eq]
      rintro (rfl | hmem)
      · exact hn hk
      · exact hothers k hk hmem

/-! ### Preferred matches -/

/-- The groups after passing borders, the latest of which comes first. -/
def passAll (index : Nat) (borders : List Border) (groups : Groups) : Groups := borders.foldr (Groups.pass index) groups

/-- A node that is no last one leads to the same spot, with the borders passed. -/
theorem Node.ways_eq_map_passes {node : Node} (h : node.isLast = false) (s : Spot) (groups : Groups)
    (borders : List Border) :
    node.ways (s.withGroups (passAll s.index borders groups)) =
      (node.passes s.place borders).map fun way => (way.1, s.withGroups (passAll s.index way.2 groups)) := by
  cases node with
  | test condition next =>
      rw [ways, passes, Spot.place_withGroups]
      split <;> rfl
  | branch first second => rfl
  | mark group closing next => rfl
  | _ => cases h

theorem Prefers.completes {nodes : Array Node} {n : Nat} {s o : Spot} (h : Prefers nodes n s o) : Completes nodes n s := by
  induction h with
  | stop hstop => exact .stop hstop
  | step hnode hways _ _ ih =>
      exact .step hnode (hways ▸ List.mem_append_right _ List.mem_cons_self) ih

/-- The preferred match follows a route to a node that reads or is the end. -/
theorem Prefers.descends {n : Nat} {t o : Spot} (h : Prefers a.nodes n t o) {s : Spot} {groups : Groups}
    (hlive : ∀ m, m ∈ live ↔ Completes a.nodes m s) {borders : List Border}
    (ht : t = s.withGroups (passAll s.index borders groups)) :
    ∃ passed route, Descends a s.place live n borders passed route ∧
      ((a.nodes[route.last]? = some .stop ∧ o = s.withGroups (passAll s.index route.borders groups)) ∨
        ∃ set next, a.nodes[route.last]? = some (.read set next) ∧ s.rest ≠ [] ∧
          Prefers a.nodes next ((s.skip 1).withGroups (passAll s.index route.borders groups)) o) := by
  induction h generalizing borders with
  | @stop n t hstop =>
      have hn : n ∈ live := (hlive n).mpr (.stop hstop)
      exact ⟨[n], ⟨n, borders⟩, .last hn hstop rfl, .inl ⟨hstop, ht⟩⟩
  | @step n t node dead m t' others o hnode hways hdead hrest ih =>
      have hcompletes : Completes a.nodes n t :=
        .step hnode (hways ▸ List.mem_append_right _ List.mem_cons_self) hrest.completes
      have hn : n ∈ live := (hlive n).mpr (completes_withGroups.mp (ht ▸ hcompletes))
      cases hlast : node.isLast with
      | true =>
          cases node with
          | stop => simp [Node.ways] at hways
          | read set next =>
              have hway : (m, t') ∈ (Node.read set next).ways t := hways ▸ List.mem_append_right _ List.mem_cons_self
              obtain ⟨o', ho', heq⟩ := List.mem_map.mp hway
              obtain ⟨rfl, rfl⟩ := Prod.mk.inj heq
              obtain ⟨c, hhead, -, rfl⟩ := Spot.read?_eq_some_iff.mp (Option.mem_toList.mp ho')
              rw [ht, Spot.skip_withGroups] at hrest
              rw [ht, Spot.rest_withGroups] at hhead
              refine ⟨[n], ⟨n, borders⟩, .last hn hnode hlast, .inr ⟨set, next, hnode, fun hnil => ?_, hrest⟩⟩
              rw [hnil] at hhead
              cases hhead
          | _ => cases hlast
      | false =>
          rw [ht, Node.ways_eq_map_passes hlast] at hways
          obtain ⟨deadWays, rest, hsplit, rfl, hmap⟩ := List.map_eq_append_iff.mp hways
          obtain ⟨way, otherWays, rfl, hway, rfl⟩ := List.map_eq_cons_iff.mp hmap
          obtain ⟨rfl, rfl⟩ := Prod.mk.inj hway
          obtain ⟨passed, route, hdescends, hend⟩ := ih rfl
          refine ⟨n :: passed, route, .step hn hnode (List.find?_eq_some_iff_append.mpr ?_) hdescends, hend⟩
          refine ⟨?_, deadWays, otherWays, hsplit, fun other hother => ?_⟩
          · exact Std.TreeSet.contains_iff_mem.mpr ((hlive _).mpr (completes_withGroups.mp hrest.completes))
          · have hnot := hdead _ (List.mem_map_of_mem hother)
            rw [completes_withGroups, ← hlive] at hnot
            rw [Bool.not_eq_true', ← Bool.not_eq_true, Std.TreeSet.contains_iff_mem]
            exact hnot

/-! ### Matches along the stops of a scan -/

/-- The stops of a text from a spot on, with the nodes noted that are live there. -/
inductive Noted (a : Automaton) : Spot → List Stop → Prop
  | last {s live} (hrest : s.rest = []) (hlive : ∀ n, n ∈ live ↔ Completes a.nodes n s) : Noted a s [⟨s.place, live⟩]
  | more {s live stops} (hrest : s.rest ≠ []) (hlive : ∀ n, n ∈ live ↔ Completes a.nodes n s)
      (hstops : Noted a (s.skip 1) stops) : Noted a s (⟨s.place, live⟩ :: stops)

/-- The first stop, with what is behind it. -/
theorem Noted.exists_cons {s : Spot} {stops : List Stop} (h : Noted a s stops) :
    ∃ live rest, stops = ⟨s.place, live⟩ :: rest ∧ (∀ n, n ∈ live ↔ Completes a.nodes n s) ∧
      (s.rest ≠ [] → Noted a (s.skip 1) rest) := by
  cases h with
  | last hrest hlive => exact ⟨_, [], rfl, hlive, fun h => absurd hrest h⟩
  | more hrest hlive hstops => exact ⟨_, _, rfl, hlive, fun _ => hstops⟩

theorem length_le_of_completes {nodes : List Nat} {s : Spot} (hnodup : nodes.Nodup)
    (hlive : ∀ m ∈ nodes, Completes a.nodes m s) : nodes.length ≤ a.nodes.size := by
  have hsubset : nodes.toFinset ⊆ Finset.range a.nodes.size := fun m hm =>
    Finset.mem_range.mpr (hlive m (List.mem_toFinset.mp hm)).lt_size
  simpa [List.toFinset_card_of_nodup hnodup] using Finset.card_le_card hsubset

/-- **What is found is preferred.** -/
theorem finish_of_prefers {s : Spot} {stops : List Stop} (hnoted : Noted a s stops) {n : Nat} {groups : Groups} {o : Spot}
    (h : Prefers a.nodes n (s.withGroups groups) o) : a.finish n groups stops = some (o.index, o.groups) := by
  induction stops generalizing s n groups with
  | nil => cases hnoted
  | cons stop stops ih =>
      obtain ⟨live, rest, hstops, hlive, hnext⟩ := hnoted.exists_cons
      obtain ⟨rfl, rfl⟩ := List.cons.inj hstops
      have hstart : s.withGroups groups = s.withGroups (passAll s.index [] groups) := rfl
      obtain ⟨passed, route, hdescends, hend⟩ := h.descends hlive hstart
      have hlength := length_le_of_completes hdescends.nodup fun m hm => (hlive m).mp (hdescends.forall_live m hm)
      have hroute : a.route? s.place live n = some route :=
        follow_of_descends hdescends (by omega) (fun m _ => Std.TreeSet.not_mem_emptyc) []
      rw [finish]
      simp only [hroute]
      rcases hend with ⟨hstop, rfl⟩ | ⟨set, next, hread, hrest, hprefers⟩
      · rw [hstop]
        rfl
      · rw [hread]
        exact ih (hnext hrest) hprefers

/-- Nothing is found from a node that does not complete a match. -/
theorem finish_eq_none {s : Spot} {stops : List Stop} (hnoted : Noted a s stops) {n : Nat} {groups : Groups}
    (h : ¬Completes a.nodes n s) : a.finish n groups stops = none := by
  obtain ⟨live, rest, rfl, hlive, -⟩ := hnoted.exists_cons
  have hdead : n ∉ live := fun hn => h ((hlive n).mp hn)
  have hroute : a.route? s.place live n = none := by
    rw [route?, follow_dead hdead, follow_nil]
  rw [finish]
  simp only [hroute]

end Automaton

end XmlDiagnostics
