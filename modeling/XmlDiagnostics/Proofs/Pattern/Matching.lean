import Mathlib.Order.Bounds.Basic
import XmlDiagnostics.Proofs.Lookup
import XmlDiagnostics.Proofs.Pattern.Searching

/-! # Matches at places

`matchAt` is the preferred match that starts at a place of a text. Whatever the pattern is, steady or not:

* a search from a place on finds the match at the first place that has one (`leftmost_cases`), and of the places before a
  bound the last one that has a match is found (`last_cases`);
* a match at a place starts there, and it ends and its groups begin between there and the end of the text
  (`bounds_of_matchAt`);
* only groups that the pattern has take part in it (`mem_numbers_of_matchAt`).

The last two come from one fact about completing a match: what holds of the groups at its start still holds at its end if
passing a border keeps it (`finish_induction`). -/

namespace XmlDiagnostics

/-! ### Looking at one place after the other -/

namespace Scan

variable {a : Automaton} {stops : List Stop}

/-- The places that have a match, by the numbers of places before them. -/
def starts (a : Automaton) (stops : List Stop) : Set Nat := {k | (first? ⟨a, stops.drop k⟩).isSome}

theorem mem_starts {k : Nat} : k ∈ starts a stops ↔ (first? ⟨a, stops.drop k⟩).isSome = true := Iff.rfl

theorem zero_mem_starts : 0 ∈ starts a stops ↔ (first? ⟨a, stops⟩).isSome = true := Iff.rfl

theorem not_mem_starts_nil (k : Nat) : k ∉ starts a [] := by
  rw [mem_starts, List.drop_nil]
  exact Bool.false_ne_true

/-- **The leftmost match.** A search finds the match at the first place that has one. -/
theorem search_cases (a : Automaton) (stops : List Stop) :
    (∃ k m, search a stops = some m ∧ IsLeast (starts a stops) k ∧ first? ⟨a, stops.drop k⟩ = some m) ∨
      (search a stops = none ∧ ∀ k, k ∉ starts a stops) := by
  induction stops with
  | nil => exact .inr ⟨rfl, not_mem_starts_nil⟩
  | cons stop stops ih =>
      rw [search]
      cases hfirst : first? ⟨a, stop :: stops⟩ with
      | some m =>
          have hzero : 0 ∈ starts a (stop :: stops) := zero_mem_starts.mpr (by rw [hfirst]; rfl)
          exact .inl ⟨0, m, rfl, ⟨hzero, fun k _ => Nat.zero_le k⟩, hfirst⟩
      | none =>
          have hzero : 0 ∉ starts a (stop :: stops) := by
            rw [zero_mem_starts, hfirst]
            exact Bool.false_ne_true
          rcases ih with ⟨k, m, hsearch, ⟨hmem, hle⟩, hm⟩ | ⟨hsearch, hnone⟩
          · refine .inl ⟨k + 1, m, hsearch, ⟨hmem, fun j hj => ?_⟩, hm⟩
            cases j with
            | zero => exact absurd hj hzero
            | succ j => exact Nat.succ_le_succ (hle hj)
          · refine .inr ⟨hsearch, fun k hk => ?_⟩
            cases k with
            | zero => exact hzero hk
            | succ k => exact hnone k hk

/-- **The last match start.** Of the first places the last one that has a match is found. -/
theorem lastIn_cases (a : Automaton) (bound : Nat) (stops : List Stop) :
    (∃ n, lastIn a bound stops = some n ∧ IsGreatest {k | k < bound ∧ k ∈ starts a stops} n) ∨
      (lastIn a bound stops = none ∧ ∀ k < bound, k ∉ starts a stops) := by
  induction bound generalizing stops with
  | zero => exact .inr ⟨by rw [lastIn], fun k hk => absurd hk (Nat.not_lt_zero k)⟩
  | succ bound ih =>
      cases stops with
      | nil => exact .inr ⟨by rw [lastIn]; simp, fun k _ => not_mem_starts_nil k⟩
      | cons stop stops =>
          rw [lastIn]
          rcases ih stops with ⟨n, hlast, ⟨hlt, hmem⟩, hge⟩ | ⟨hlast, hnone⟩
          · refine .inl ⟨n + 1, by rw [hlast], ⟨Nat.succ_lt_succ hlt, hmem⟩, fun k hk => ?_⟩
            cases k with
            | zero => exact Nat.zero_le _
            | succ k => exact Nat.succ_le_succ (hge ⟨Nat.lt_of_succ_lt_succ hk.1, hk.2⟩)
          · -- behind the first place nothing matches
            have honly : ∀ k < bound + 1, k ∈ starts a (stop :: stops) → k = 0 := by
              intro k hk hmem
              cases k with
              | zero => rfl
              | succ k => exact absurd hmem (hnone k (Nat.lt_of_succ_lt_succ hk))
            by_cases hfirst : (first? ⟨a, stop :: stops⟩).isSome = true
            · refine .inl ⟨0, by rw [hlast]; exact if_pos hfirst, ⟨Nat.succ_pos _, hfirst⟩, fun k hk => ?_⟩
              exact (honly k hk.1 hk.2).le
            · refine .inr ⟨by rw [hlast]; exact if_neg hfirst, fun k hk hmem => hfirst ?_⟩
              obtain rfl := honly k hk hmem
              exact hmem

end Scan

/-! ### Completing a match -/

namespace Automaton

variable {a : Automaton} {live : Nodes} {numbers : List Nat}

/-- Nodes mark no borders but those of groups with some numbers. -/
def OnlyMarks (numbers : List Nat) (nodes : Array Node) : Prop :=
  ∀ node ∈ nodes, ∀ group closing next, node = .mark group closing next → group ∈ numbers

/-- A route passes no borders but those of groups with some numbers. -/
def Route.Passes (numbers : List Nat) (route : Route) : Prop := ∀ border ∈ route.borders, border.group ∈ numbers

/-- The borders on a route are those that nodes mark. -/
theorem follow_passes (ha : OnlyMarks numbers a.nodes) {place : Place} {n : Nat} {passed : Nodes}
    {routes : List Route} {route : Route} (hroutes : ∀ r ∈ routes, r.Passes numbers)
    (h : a.follow place live n passed routes = some route) : route.Passes numbers := by
  fun_induction follow a place live n passed routes with
  | case1 => cases h
  | case2 => cases h
  | case3 n passed first routes hskip ih => exact ih (List.forall_mem_cons.mp hroutes).2 h
  | case4 n passed first routes hnew now hnode ih => exact ih (List.forall_mem_cons.mp hroutes).2 h
  | case5 n passed first routes hnew hnode => exact Option.some.inj h ▸ hroutes first List.mem_cons_self
  | case6 n passed first routes hnew set next hnode => exact Option.some.inj h ▸ hroutes first List.mem_cons_self
  | case7 n passed first routes hnew now left right hnode ih =>
      obtain ⟨hfirst, hmore⟩ := List.forall_mem_cons.mp hroutes
      refine ih (List.forall_mem_cons.mpr ⟨?_, List.forall_mem_cons.mpr ⟨?_, hmore⟩⟩) h
      · exact hfirst
      · exact hfirst
  | case8 n passed first routes hnew now group closing next hnode ih =>
      obtain ⟨hfirst, hmore⟩ := List.forall_mem_cons.mp hroutes
      have hgroup := ha _ (Array.mem_of_getElem? hnode) group closing next rfl
      refine ih (List.forall_mem_cons.mpr ⟨?_, hmore⟩) h
      exact List.forall_mem_cons.mpr ⟨hgroup, hfirst⟩
  | case9 n passed first routes hnew now condition next hnode ih =>
      obtain ⟨hfirst, hmore⟩ := List.forall_mem_cons.mp hroutes
      refine ih ?_ h
      split
      · exact List.forall_mem_cons.mpr ⟨hfirst, hmore⟩
      · exact hmore

/-- **Completing a match** keeps what passing a border keeps at each of the places, and ends at one of them. -/
theorem finish_induction (ha : OnlyMarks numbers a.nodes) (holds : Groups → Prop) {stops : List Stop}
    (hpass : ∀ stop ∈ stops, ∀ border : Border, border.group ∈ numbers → ∀ groups, holds groups →
      holds (groups.pass stop.place.index border))
    {node stopIndex : Nat} {groups groups' : Groups} (hgroups : holds groups)
    (h : a.finish node groups stops = some (stopIndex, groups')) :
    holds groups' ∧ ∃ stop ∈ stops, stop.place.index = stopIndex := by
  induction stops generalizing node groups with
  | nil => cases h
  | cons stop stops ih =>
      obtain ⟨hhere, hbehind⟩ := List.forall_mem_cons.mp hpass
      rw [finish] at h
      cases hroute : a.route? stop.place stop.live node with
      | none =>
          rw [hroute] at h
          cases h
      | some route =>
          simp only [hroute] at h
          have hborders : route.Passes numbers := follow_passes ha (by simp [Route.Passes]) hroute
          have hkept : holds (route.borders.foldr (Groups.pass stop.place.index) groups) :=
            List.foldrRecOn _ _ hgroups fun groups hgroups border hmem =>
              hhere border (hborders border hmem) groups hgroups
          split at h
          · obtain ⟨hend, stop', hmem, hindex⟩ := ih hbehind hkept h
            exact ⟨hend, stop', List.mem_cons_of_mem _ hmem, hindex⟩
          · obtain ⟨rfl, rfl⟩ := Prod.mk.inj (Option.some.inj h)
            exact ⟨hkept, stop, List.mem_cons_self, rfl⟩

/-- The groups of a match on its way begin at places between two others. -/
structure Groups.Within (low high : Nat) (groups : Groups) : Prop where
  opened : ∀ entry ∈ groups.opened, low ≤ entry.2 ∧ entry.2 ≤ high
  closed : ∀ entry ∈ groups.closed, low ≤ entry.2.start ∧ entry.2.start ≤ high

theorem Groups.within_start (low high : Nat) : Groups.Within low high {} where
  opened := fun _ h => absurd h List.not_mem_nil
  closed := fun _ h => absurd h List.not_mem_nil

theorem Groups.Within.pass {low high index : Nat} {groups : Groups} (h : groups.Within low high) (hlow : low ≤ index)
    (hhigh : index ≤ high) (border : Border) : (groups.pass index border).Within low high := by
  rw [Groups.pass]
  split
  · refine ⟨h.opened, List.forall_mem_cons.mpr ⟨?_, h.closed⟩⟩
    dsimp only
    cases hlookup : groups.opened.lookup border.group with
    | none => exact ⟨hlow, hhigh⟩
    | some start => exact h.opened _ (mem_of_lookup_eq_some hlookup)
  · exact ⟨List.forall_mem_cons.mpr ⟨⟨hlow, hhigh⟩, h.opened⟩, h.closed⟩

theorem Groups.closed_pass {groups : Groups} (h : ∀ entry ∈ groups.closed, entry.1 ∈ numbers) {border : Border}
    (hborder : border.group ∈ numbers) (index : Nat) : ∀ entry ∈ (groups.pass index border).closed, entry.1 ∈ numbers := by
  rw [Groups.pass]
  split
  · exact List.forall_mem_cons.mpr ⟨hborder, h⟩
  · exact h

end Automaton

/-! ### The groups of a pattern -/

namespace Pattern

/-- The numbers of the groups that a pattern has. -/
def numbers : Pattern → List Nat
  | empty => []
  | one _ => []
  | anchor _ => []
  | seq p q => p.numbers ++ q.numbers
  | alt p q => p.numbers ++ q.numbers
  | group number p => number :: p.numbers
  | many p _ _ _ => p.numbers

end Pattern

namespace Automaton

open Pattern

variable {numbers : List Nat}

/-- A layout marks no borders but those of groups with some numbers. -/
def KeepsMarks (numbers : List Nat) {α : Type} (layout : StateM (Array Node) α) : Prop :=
  ∀ nodes, OnlyMarks numbers nodes → OnlyMarks numbers (layout nodes).2

theorem OnlyMarks.push {nodes : Array Node} (h : OnlyMarks numbers nodes) {node : Node}
    (hnode : ∀ group closing next, node = .mark group closing next → group ∈ numbers) :
    OnlyMarks numbers (nodes.push node) := by
  intro other hmem
  rcases Array.mem_push.mp hmem with hmem | rfl
  · exact h other hmem
  · exact hnode

theorem OnlyMarks.setBranch {nodes : Array Node} (h : OnlyMarks numbers nodes) (i first second : Nat) :
    OnlyMarks numbers (nodes.setIfInBounds i (.branch first second)) := by
  intro other hmem
  rcases Array.mem_or_eq_of_mem_setIfInBounds hmem with hmem | rfl
  · exact h other hmem
  · exact fun _ _ _ h => by cases h

theorem keepsMarks_pure {α : Type} (value : α) : KeepsMarks numbers (pure value : StateM (Array Node) α) := fun _ h => h

theorem KeepsMarks.bind {α β : Type} {layout : StateM (Array Node) α} {more : α → StateM (Array Node) β}
    (h : KeepsMarks numbers layout) (hmore : ∀ value, KeepsMarks numbers (more value)) :
    KeepsMarks numbers (layout >>= more) := fun nodes hnodes => hmore _ _ (h nodes hnodes)

theorem keepsMarks_add {node : Node} (h : ∀ group closing next, node = .mark group closing next → group ∈ numbers) :
    KeepsMarks numbers (add node) := fun _ hnodes => hnodes.push h

theorem keepsMarks_addBranch (greedy : Bool) (into around : Nat) : KeepsMarks numbers (addBranch greedy into around) := by
  refine keepsMarks_add fun group closing next h => ?_
  cases greedy <;> cases h

section parts

variable {part : Nat → Layout} (h : ∀ next, KeepsMarks numbers (part next))

include h

theorem keepsMarks_copies : ∀ n next, KeepsMarks numbers (copies part n next)
  | 0, next => keepsMarks_pure next
  | n + 1, next => (keepsMarks_copies n next).bind h

theorem keepsMarks_upTo (greedy : Bool) (next : Nat) : ∀ n, KeepsMarks numbers (upTo part greedy next n)
  | 0 => keepsMarks_pure next
  | n + 1 => (keepsMarks_upTo greedy next n).bind fun _ => (h _).bind fun _ => keepsMarks_addBranch greedy _ _

theorem keepsMarks_loop (greedy : Bool) (next : Nat) : KeepsMarks numbers (loop part greedy next) := by
  have hback : KeepsMarks numbers (add (.branch next next)) := keepsMarks_add fun _ _ _ h => by cases h
  refine hback.bind fun back => (h back).bind fun first => ?_
  refine KeepsMarks.bind (fun nodes hnodes => ?_) fun _ => keepsMarks_pure _
  show OnlyMarks numbers (nodes.setIfInBounds back (if greedy then .branch first next else .branch next first))
  cases greedy with
  | true => exact hnodes.setBranch back first next
  | false => exact hnodes.setBranch back next first

theorem keepsMarks_atLeast (nullable greedy : Bool) (next : Nat) :
    ∀ n, KeepsMarks numbers (atLeast part nullable greedy next n)
  | 0 => by
      refine (keepsMarks_loop h greedy next).bind fun (first, back) => ?_
      cases nullable with
      | true => exact keepsMarks_addBranch greedy first next
      | false => exact keepsMarks_pure back
  | n + 1 => (keepsMarks_loop h greedy next).bind fun _ => keepsMarks_copies h n _

end parts

/-- The nodes of a pattern mark the borders of its groups. -/
theorem keepsMarks_layOut {p : Pattern} (hp : p.numbers ⊆ numbers) : ∀ next, KeepsMarks numbers (layOut p next) := by
  induction p with
  | empty => exact keepsMarks_pure
  | one set => exact fun next => keepsMarks_add fun _ _ _ h => by cases h
  | anchor condition => exact fun next => keepsMarks_add fun _ _ _ h => by cases h
  | seq p q ihp ihq =>
      obtain ⟨hp, hq⟩ := List.append_subset.mp hp
      exact fun next => (ihq hq next).bind (ihp hp)
  | alt p q ihp ihq =>
      obtain ⟨hp, hq⟩ := List.append_subset.mp hp
      exact fun next => (ihq hq next).bind fun _ => (ihp hp next).bind fun _ => keepsMarks_add fun _ _ _ h => by cases h
  | group number p ih =>
      obtain ⟨hnumber, hp⟩ := List.cons_subset.mp hp
      have hmark : ∀ closing next, KeepsMarks numbers (add (.mark number closing next)) := fun closing next =>
        keepsMarks_add fun _ _ _ h => by cases h; exact hnumber
      exact fun next => (hmark true next).bind fun _ => (ih hp _).bind fun _ => hmark false _
  | many p least most greedy ih =>
      intro next
      rw [layOut]
      split
      · exact keepsMarks_atLeast (ih hp) _ _ _ _
      · exact (keepsMarks_upTo (ih hp) _ _ _).bind fun _ => keepsMarks_copies (ih hp) _ _

theorem onlyMarks_ofPattern (p : Pattern) : OnlyMarks p.numbers (ofPattern p).nodes := by
  refine keepsMarks_layOut (List.Subset.refl _) 0 _ fun node hmem => ?_
  obtain rfl : node = .stop := by simpa using hmem
  exact fun _ _ _ h => by cases h

/-! ### The places of a scan -/

theorem placesFrom_map_index (index : Nat) (before : Option Char) (text : List Char) :
    (placesFrom index before text).map Place.index = List.range' index (text.length + 1) := by
  induction text generalizing index before with
  | nil => rfl
  | cons c rest ih => rw [placesFrom_cons, List.map_cons, ih]; rfl

theorem map_index_stops_scan (a : Automaton) (text : List Char) :
    (a.scan text).stops.map (fun stop => stop.place.index) = List.range' 0 (text.length + 1) := by
  have hplaces : ∀ places : List Place, (places.foldr
      (fun place stops => ⟨place, a.liveAt place (stops.head?.elim ∅ Stop.live)⟩ :: stops) []).map Stop.place = places := by
    intro places
    induction places with
    | nil => rfl
    | cons place places ih => rw [List.foldr_cons, List.map_cons, ih]
  rw [← placesFrom_map_index 0 none text, ← hplaces (placesFrom 0 none text), List.map_map]
  rfl

end Automaton

namespace Pattern

open Automaton

variable {p : Pattern} {text : List Char} {k : Nat} {m : Match}

/-! ### Matches -/

/-- The preferred match at a place, with how it is completed. -/
theorem exists_finish_of_matchAt (h : p.matchAt text k = some m) :
    m.piece.start = k ∧ ∃ stops groups,
      (∀ stop ∈ stops, k ≤ stop.place.index ∧ stop.place.index ≤ text.length) ∧
      (ofPattern p).finish (ofPattern p).start {} stops = some (m.piece.stop, groups) ∧ m.groups = groups.closed := by
  have hindexes := congrArg (List.drop k) (map_index_stops_scan (ofPattern p) text)
  rw [← List.map_drop, List.drop_range'] at hindexes
  rw [matchAt, Pattern.scan, Scan.drop] at h
  generalize hstops : ((ofPattern p).scan text).stops.drop k = stops at h hindexes
  cases stops with
  | nil => cases h
  | cons stop stops =>
      have hbounds : ∀ other ∈ stop :: stops, k ≤ other.place.index ∧ other.place.index ≤ text.length := by
        intro other hmem
        have hindex := List.mem_map_of_mem (f := fun stop : Stop => stop.place.index) hmem
        rw [hindexes, List.mem_range'] at hindex
        obtain ⟨i, hi, heq⟩ := hindex
        omega
      obtain ⟨⟨stopIndex, groups⟩, hfinish, rfl⟩ := Option.map_eq_some_iff.mp h
      have hstart : stop.place.index = k := by
        have hhead := congrArg List.head? hindexes
        rw [List.map_cons, List.head?_cons] at hhead
        have hpos : 0 < text.length + 1 - k := by
          have := congrArg List.length hindexes
          rw [List.length_map, List.length_cons, List.length_range'] at this
          omega
        rw [List.head?_range', if_neg hpos.ne'] at hhead
        have := Option.some.inj hhead
        omega
      exact ⟨hstart, stop :: stops, groups, hbounds, hfinish, rfl⟩

/-- **A match starts at its place**, ends behind it and within the text, and so do its groups. -/
theorem bounds_of_matchAt (h : p.matchAt text k = some m) :
    m.piece.start = k ∧ k ≤ m.piece.stop ∧ m.piece.stop ≤ text.length ∧
      ∀ entry ∈ m.groups, k ≤ entry.2.start ∧ entry.2.start ≤ text.length := by
  obtain ⟨hstart, stops, groups, hstops, hfinish, hgroups⟩ := exists_finish_of_matchAt h
  obtain ⟨hwithin, stop, hmem, hindex⟩ := finish_induction (onlyMarks_ofPattern p) (Groups.Within k text.length)
    (fun stop hmem border _ groups h => h.pass (hstops stop hmem).1 (hstops stop hmem).2 border)
    (Groups.within_start k text.length) hfinish
  obtain ⟨hlow, hhigh⟩ := hstops stop hmem
  rw [hindex] at hlow hhigh
  exact ⟨hstart, hlow, hhigh, hgroups ▸ hwithin.closed⟩

/-- Only groups of the pattern take part in a match. -/
theorem mem_numbers_of_matchAt (h : p.matchAt text k = some m) : ∀ entry ∈ m.groups, entry.1 ∈ p.numbers := by
  obtain ⟨-, stops, groups, -, hfinish, hgroups⟩ := exists_finish_of_matchAt h
  rw [hgroups]
  exact (finish_induction (onlyMarks_ofPattern p) (fun groups => ∀ entry ∈ groups.closed, entry.1 ∈ p.numbers)
    (fun stop _ border hborder groups h => Groups.closed_pass h hborder stop.place.index)
    (fun _ hmem => absurd hmem List.not_mem_nil) hfinish).1

/-- The match of a steady pattern at a place is its preferred way. -/
theorem matchAt_eq (hp : p.isSteady = true) (hk : k ≤ text.length) :
    p.matchAt text k = (p.ways ((startOf text).skip k)).head?.map (matchTo ((startOf text).skip k)) :=
  first?_of_noted hp ((noted_scan_startOf hp text).drop hk) (Spot.groups_skip k _)

theorem start_lt_stop_of_matchAt (hp : p.isSteady = true) (hnullable : p.isNullable = false)
    (h : p.matchAt text k = some m) : m.piece.start < m.piece.stop := by
  obtain ⟨-, hle, hstop, -⟩ := bounds_of_matchAt h
  rw [matchAt_eq hp (hle.trans hstop)] at h
  obtain ⟨o, ho, rfl⟩ := Option.map_eq_some_iff.mp h
  exact index_lt_of_mem_ways hnullable (List.mem_of_head? ho)

/-- The end of a text is matched there and nowhere else. -/
theorem matchAt_textEnd (hk : k ≤ text.length) :
    (anchor .textEnd).matchAt text k = if k = text.length then some ⟨⟨k, k⟩, []⟩ else none := by
  have hspot : (startOf text).rest = text := rfl
  have hafter : ((startOf text).skip k).place.after.isNone = decide (k = text.length) := by
    rw [Spot.place, Spot.rest_skip, hspot, List.head?_drop, Bool.eq_iff_iff, Option.isNone_iff_eq_none,
      List.getElem?_eq_none_iff, decide_eq_true_iff]
    omega
  rw [matchAt_eq rfl hk, ways, Anchor.holds, hafter]
  by_cases hend : k = text.length
  · rw [if_pos hend, decide_eq_true hend, if_pos rfl, List.head?_cons, Option.map_some, matchTo, Spot.groups_skip,
      Spot.index_skip hk]
    rw [startOf, Nat.zero_add]
  · rw [if_neg hend, decide_eq_false hend]
    rfl

/-! ### Searching -/

theorem mem_starts_drop_iff {first k : Nat} :
    k ∈ Scan.starts (ofPattern p) (((ofPattern p).scan text).stops.drop first) ↔
      (p.matchAt text (first + k)).isSome = true := by
  rw [Scan.mem_starts, List.drop_drop]
  rfl

/-- **A search** finds the match at the first place at or behind the one where it begins. -/
theorem leftmost_cases (p : Pattern) (text : List Char) (first : Nat) :
    (∃ k m, p.search text first = some m ∧ IsLeast {k | first ≤ k ∧ (p.matchAt text k).isSome} k ∧
        p.matchAt text k = some m) ∨
      (p.search text first = none ∧ ∀ k, first ≤ k → p.matchAt text k = none) := by
  rcases Scan.search_cases (ofPattern p) (((ofPattern p).scan text).stops.drop first) with
    ⟨k, m, hsearch, ⟨hmem, hle⟩, hm⟩ | ⟨hsearch, hnone⟩
  · refine .inl ⟨first + k, m, hsearch, ⟨⟨Nat.le_add_right first k, mem_starts_drop_iff.mp hmem⟩, ?_⟩, ?_⟩
    · rintro j ⟨hj, hmatch⟩
      obtain ⟨i, rfl⟩ := Nat.exists_eq_add_of_le hj
      exact Nat.add_le_add_left (hle (mem_starts_drop_iff.mpr hmatch)) first
    · rw [List.drop_drop] at hm
      exact hm
  · refine .inr ⟨hsearch, fun j hj => ?_⟩
    obtain ⟨i, rfl⟩ := Nat.exists_eq_add_of_le hj
    exact Option.not_isSome_iff_eq_none.mp fun hmatch => hnone i (mem_starts_drop_iff.mpr hmatch)

/-- **The last match start** before a bound is found. -/
theorem last_cases (p : Pattern) (text : List Char) (bound : Nat) :
    (∃ k, (p.scan text).lastStart? bound = some k ∧ IsGreatest {k | k < bound ∧ (p.matchAt text k).isSome} k) ∨
      ((p.scan text).lastStart? bound = none ∧ ∀ k < bound, p.matchAt text k = none) := by
  rcases Scan.lastIn_cases (ofPattern p) bound ((ofPattern p).scan text).stops with ⟨k, hlast, hgreatest⟩ | ⟨hlast, hnone⟩
  · exact .inl ⟨k, hlast, hgreatest⟩
  · exact .inr ⟨hlast, fun k hk => Option.not_isSome_iff_eq_none.mp (hnone k hk)⟩

end Pattern

end XmlDiagnostics
