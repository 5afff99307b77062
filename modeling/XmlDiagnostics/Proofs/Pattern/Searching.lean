import XmlDiagnostics.Proofs.Pattern.Routes

/-! # Matches are preferred ways

The match of a steady pattern at a spot ends where the first of its ways does, and the groups of the match are those of
this way (`first?_of_noted`). Nothing matches where the pattern has no way. So a search finds the leftmost spot
from which there is a way (`search_cases`, `find?_eq_some`, `find?_eq_none`), and looking for all matches goes on behind each of
them (`takeMatches_of_search_eq_some`). From here on nothing about automata is needed. -/

namespace XmlDiagnostics

namespace Automaton

variable {p : Pattern}

/-! ### Automata of patterns -/

theorem keeps_ofPattern (hp : p.isSteady = true) : Keeps #[.stop] (ofPattern p).nodes := (laysOut_layOut hp).keeps 0 _

theorem getElem?_ofPattern_zero (hp : p.isSteady = true) : (ofPattern p).nodes[0]? = some .stop :=
  (keeps_ofPattern hp).kept 0 (by simp)

theorem wellLaid_ofPattern (hp : p.isSteady = true) : (ofPattern p).WellLaid where
  sources_eq := rfl
  stop_iff := fun n => by
    constructor
    · intro h
      refine Nat.eq_zero_of_not_pos fun hn => ?_
      exact (keeps_ofPattern hp).noStop n (Nat.succ_le_of_lt hn) h
    · rintro rfl
      exact getElem?_ofPattern_zero hp

/-- A run from the start finds the end of the first way. -/
theorem runs_ofPattern (hp : p.isSteady = true) (s : Spot) :
    Runs (ofPattern p).nodes [((ofPattern p).start, s)] (p.ways s).head? := by
  have hfragment : Fragment (ofPattern p).nodes (ofPattern p).start 0 p.ways :=
    (laysOut_layOut hp).fragment 0 _ _ fun i _ _ => rfl
  refine hfragment s [] _ ?_
  cases hways : p.ways s with
  | nil => exact .nothing
  | cons o others => exact .stop (getElem?_ofPattern_zero hp)

/-! ### Scans -/

/-- The places of a text from a spot on. -/
def placesFrom (index : Nat) (before : Option Char) (text : List Char) : List Place :=
  List.zipWith (fun (before, index) after => ⟨index, before, after⟩) ((before :: text.map some).zipIdx index)
    (text.map some ++ [none])

theorem placesFrom_cons (index : Nat) (before : Option Char) (c : Char) (rest : List Char) :
    placesFrom index before (c :: rest) = ⟨index, before, some c⟩ :: placesFrom (index + 1) (some c) rest := rfl

/-- A scan notes the live nodes at each place. -/
theorem noted_scan (hp : p.isSteady = true) (index : Nat) (before : Option Char) (text : List Char) :
    Noted (ofPattern p) ⟨index, before, text, {}⟩ ((placesFrom index before text).foldr
      (fun place stops => ⟨place, (ofPattern p).liveAt place (stops.head?.elim ∅ Stop.live)⟩ :: stops) []) := by
  have ha := wellLaid_ofPattern hp
  induction text generalizing index before with
  | nil =>
      let s : Spot := ⟨index, before, [], {}⟩
      have hlive : ∀ n, n ∈ (ofPattern p).liveAt s.place ∅ ↔ Completes (ofPattern p).nodes n s :=
        ha.mem_liveAt_iff fun h => absurd rfl h
      exact .last rfl hlive
  | cons c rest ih =>
      let s : Spot := ⟨index, before, c :: rest, {}⟩
      have hnext := ih (index + 1) (some c)
      obtain ⟨live, stops, hstops, hafter, -⟩ := hnext.exists_cons
      rw [placesFrom_cons, List.foldr_cons, hstops]
      rw [hstops] at hnext
      have hlive : ∀ n, n ∈ (ofPattern p).liveAt s.place live ↔ Completes (ofPattern p).nodes n s :=
        ha.mem_liveAt_iff fun _ => hafter
      exact .more (List.cons_ne_nil _ _) hlive hnext

theorem Noted.drop {a : Automaton} : ∀ {n : Nat} {s : Spot} {stops : List Stop}, Noted a s stops → n ≤ s.rest.length →
    Noted a (s.skip n) (stops.drop n)
  | 0, s, stops, h, _ => h
  | n + 1, s, stops, h, hn => by
      obtain ⟨live, rest, rfl, -, hnext⟩ := h.exists_cons
      have hrest : s.rest ≠ [] := by
        intro hnil
        rw [hnil, List.length_nil] at hn
        omega
      rw [Nat.add_comm, Spot.skip_add, Nat.add_comm, List.drop_succ_cons]
      refine (hnext hrest).drop ?_
      rw [Spot.length_rest_skip]
      omega

/-- The spot at the beginning of a text. -/
def startOf (text : List Char) : Spot := ⟨0, none, text, {}⟩

theorem noted_scan_startOf (hp : p.isSteady = true) (text : List Char) :
    Noted (ofPattern p) (startOf text) ((ofPattern p).scan text).stops :=
  noted_scan hp 0 none text

end Automaton

namespace Pattern

open Automaton

variable {p : Pattern} {s o : Spot} {stops : List Stop}

/-- The match that ends at a spot. -/
def matchTo (s o : Spot) : Match := ⟨⟨s.index, o.index⟩, o.groups.closed⟩

/-! ### One match -/

/-- **Matches are preferred ways.** -/
theorem first?_of_noted (hp : p.isSteady = true) (hnoted : Noted (ofPattern p) s stops) (hgroups : s.groups = {}) :
    Scan.first? ⟨ofPattern p, stops⟩ = ((p.ways s).head?).map (matchTo s) := by
  obtain ⟨live, rest, rfl, -, -⟩ := hnoted.exists_cons
  have hself : s.withGroups {} = s := by rw [← hgroups, Spot.withGroups_self]
  rw [Scan.first?]
  rcases (runs_ofPattern hp s).result with ⟨o, hways, -, hprefers⟩ | ⟨hways, hdead⟩
  · rw [finish_of_prefers hnoted (hself.symm ▸ hprefers), hways]
    rfl
  · rw [finish_eq_none hnoted hdead, hways]
    rfl

/-! ### The leftmost match -/

/-- A search finds the first way from the first spot that has one, or there is none. -/
theorem search_cases (hp : p.isSteady = true) (hnoted : Noted (ofPattern p) s stops) (hgroups : s.groups = {}) :
    (∃ n o, n ≤ s.rest.length ∧ (∀ k < n, p.ways (s.skip k) = []) ∧ (p.ways (s.skip n)).head? = some o ∧
      Scan.search (ofPattern p) stops = some (matchTo (s.skip n) o)) ∨
    ((∀ n ≤ s.rest.length, p.ways (s.skip n) = []) ∧ Scan.search (ofPattern p) stops = none) := by
  induction stops generalizing s with
  | nil => cases hnoted
  | cons stop stops ih =>
      have hfirst := first?_of_noted hp hnoted hgroups
      obtain ⟨live, rest, hstops, -, hnext⟩ := hnoted.exists_cons
      obtain ⟨rfl, rfl⟩ := List.cons.inj hstops
      have hskip : ∀ k, (s.skip 1).skip k = s.skip (k + 1) := fun k => by rw [← Spot.skip_add, Nat.add_comm]
      rw [Scan.search, hfirst]
      cases hways : p.ways s with
      | cons o others => exact .inl ⟨0, o, Nat.zero_le _, fun k hk => absurd hk (Nat.not_lt_zero k), by simp [hways], rfl⟩
      | nil =>
          by_cases hrest : s.rest = []
          · refine .inr ⟨fun n hn => ?_, ?_⟩
            · rw [Spot.skip_nil hrest, hways]
            · cases hnoted with
              | last => rfl
              | more hmore => exact absurd hrest hmore
          · have hlength := Spot.length_rest_skip 1 s
            have hpos := List.length_pos_iff.mpr hrest
            have hbefore : ∀ n, (∀ k < n, p.ways ((s.skip 1).skip k) = []) → ∀ k < n + 1, p.ways (s.skip k) = [] := by
              intro n hdead k hk
              cases k with
              | zero => exact hways
              | succ k => exact hskip k ▸ hdead k (Nat.lt_of_succ_lt_succ hk)
            rcases ih (hnext hrest) ((Spot.groups_skip 1 s).trans hgroups) with ⟨n, o, hn, hdead, hhead, hfound⟩ | ⟨hdead, hnone⟩
            · exact .inl ⟨n + 1, o, by omega, hbefore n hdead, hskip n ▸ hhead, hskip n ▸ hfound⟩
            · exact .inr ⟨fun n hn => hbefore n (fun k hk => hdead k (by omega)) n (Nat.lt_succ_self n), hnone⟩

/-- **The leftmost way is found.** -/
theorem find?_eq_some (hp : p.isSteady = true) {text : List Char} {n : Nat} (hn : n ≤ text.length)
    (hbefore : ∀ k < n, p.ways ((startOf text).skip k) = [])
    (hfound : (p.ways ((startOf text).skip n)).head? = some o) :
    p.find? text = some (matchTo ((startOf text).skip n) o) := by
  rcases search_cases hp (noted_scan_startOf hp text) rfl with ⟨m, o', -, hbefore', hfound', hsearch⟩ | ⟨hnone, -⟩
  · have heq : m = n := by
      rcases Nat.lt_trichotomy m n with hlt | heq | hgt
      · rw [hbefore m hlt] at hfound'
        cases hfound'
      · exact heq
      · rw [hbefore' n hgt] at hfound
        cases hfound
    subst heq
    obtain rfl := Option.some.inj (hfound.symm.trans hfound')
    exact hsearch
  · rw [hnone n hn] at hfound
    cases hfound

/-- Without a way anywhere nothing is found. -/
theorem find?_eq_none (hp : p.isSteady = true) {text : List Char}
    (h : ∀ n ≤ text.length, p.ways ((startOf text).skip n) = []) : p.find? text = none := by
  rcases search_cases hp (noted_scan_startOf hp text) rfl with ⟨n, o, hn, -, hfound, -⟩ | ⟨-, hsearch⟩
  · rw [h n hn] at hfound
    cases hfound
  · exact hsearch

/-! ### All matches -/

/-- Without a match there are no matches. -/
theorem takeMatches_of_search_eq_none (hsearch : Scan.search (ofPattern p) stops = none) (n : Nat) :
    Scan.takeMatches ⟨ofPattern p, stops⟩ n = [] := by
  cases n with
  | zero => rfl
  | succ n =>
      have hnone : Scan.find? ⟨ofPattern p, stops⟩ = none := hsearch
      rw [Scan.takeMatches, hnone]

/-- Behind a match of some text the search for matches goes on. -/
theorem takeMatches_of_search_eq_some (hnoted : Noted (ofPattern p) s stops) {m : Match}
    (hsearch : Scan.search (ofPattern p) stops = some m) (hm : m.piece.stop ≠ m.piece.start) (n : Nat) :
    Scan.takeMatches ⟨ofPattern p, stops⟩ (n + 1) =
      m :: Scan.takeMatches ⟨ofPattern p, stops.drop (m.piece.stop - s.index)⟩ n := by
  obtain ⟨live, rest, rfl, -, -⟩ := hnoted.exists_cons
  have hsome : Scan.find? ⟨ofPattern p, ⟨s.place, live⟩ :: rest⟩ = some m := hsearch
  rw [Scan.takeMatches, hsome]
  simp only [if_neg hm]
  rfl

end Pattern

end XmlDiagnostics
