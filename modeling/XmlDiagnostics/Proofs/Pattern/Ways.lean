import XmlDiagnostics.Pattern.Search

/-! # What a pattern can match

A pattern can match in several ways from one spot of a text. `ways` lists where these ways end, the preferred one
first: a sequence goes on from each end of its first part, alternatives come one after the other, and a
repetition tries its part once more either before or after it ends. This says what a pattern means without an
automaton.

No way goes back in the text, and those of a pattern that is not nullable take a character
(`advances_ways`). A pattern is steady if it repeats no part that can match nothing; then the length of the
text bounds its repetitions. -/

namespace XmlDiagnostics

/-- A spot in a text, with what the groups of a pattern have taken on the way to it. -/
structure Spot where
  index : Nat
  before : Option Char
  rest : List Char
  groups : Automaton.Groups := {}

namespace Spot

/-- What stands around a spot. -/
def place (s : Spot) : Place := ⟨s.index, s.before, s.rest.head?⟩

/-- The spot behind the next character, if that is in a set. -/
def read? (set : CharSet) (s : Spot) : Option Spot :=
  match s.rest with
  | [] => none
  | c :: rest => if set.contains c then some { s with index := s.index + 1, before := some c, rest } else none

/-- The spot with other groups. -/
def withGroups (groups : Automaton.Groups) (s : Spot) : Spot := { s with groups }

/-- Pass the border of a group. -/
def pass (border : Automaton.Border) (s : Spot) : Spot := s.withGroups (s.groups.pass s.index border)

/-- The spot some characters further right, or at the end of the text. -/
def skip : Nat → Spot → Spot
  | 0, s => s
  | n + 1, s =>
    match s.rest with
    | [] => s
    | c :: rest => skip n { s with index := s.index + 1, before := some c, rest }

end Spot

namespace Pattern

/-! ### Ways -/

/-- A step made a number of times. -/
def times (step : Spot → List Spot) : Nat → Spot → List Spot
  | 0, s => [s]
  | n + 1, s => (step s).flatMap (times step n)

/-- A step made at most a number of times, as often as possible or as seldom. -/
def repeats (step : Spot → List Spot) (greedy : Bool) : Nat → Spot → List Spot
  | 0, s => [s]
  | n + 1, s =>
    if greedy then (step s).flatMap (repeats step greedy n) ++ [s] else s :: (step s).flatMap (repeats step greedy n)

/-- Where a pattern can end that starts at a spot, the preferred end first. -/
def ways : Pattern → Spot → List Spot
  | empty, s => [s]
  | one set, s => (s.read? set).toList
  | anchor condition, s => if condition.holds s.place then [s] else []
  | seq p q, s => (p.ways s).flatMap q.ways
  | alt p q, s => p.ways s ++ q.ways s
  | group number p, s => (p.ways (s.pass ⟨number, false⟩)).map (Spot.pass ⟨number, true⟩)
  | many p least most greedy, s =>
    (times p.ways least s).flatMap fun s => repeats p.ways greedy ((most.map (· - least)).getD s.rest.length) s

/-- Whether each repeated part of a pattern takes a character whenever it matches. -/
def isSteady : Pattern → Bool
  | empty => true
  | one _ => true
  | anchor _ => true
  | seq p q => p.isSteady && q.isSteady
  | alt p q => p.isSteady && q.isSteady
  | group _ p => p.isSteady
  | many p _ _ _ => p.isSteady && !p.isNullable && !p.isVoid

end Pattern

/-! ### Going on in a text -/

namespace Spot

variable {s o : Spot} {set : CharSet} {n m : Nat}

@[simp] theorem skip_zero (s : Spot) : s.skip 0 = s := rfl

theorem skip_nil (h : s.rest = []) (n : Nat) : s.skip n = s := by
  cases n with
  | zero => rfl
  | succ n => rw [skip, h]

theorem skip_cons {c : Char} {rest : List Char} (h : s.rest = c :: rest) (n : Nat) :
    s.skip (n + 1) = skip n { s with index := s.index + 1, before := some c, rest } := by
  rw [skip, h]

theorem skip_add (n m : Nat) : ∀ s : Spot, s.skip (n + m) = (s.skip n).skip m := by
  induction n with
  | zero =>
      intro s
      rw [Nat.zero_add, skip_zero]
  | succ n ih =>
      intro s
      cases hrest : s.rest with
      | nil => rw [skip_nil hrest, skip_nil hrest, skip_nil hrest]
      | cons c rest => rw [Nat.add_right_comm, skip_cons hrest, skip_cons hrest, ih]

@[simp] theorem rest_skip (n : Nat) : ∀ s : Spot, (s.skip n).rest = s.rest.drop n := by
  induction n with
  | zero => exact fun s => rfl
  | succ n ih =>
      intro s
      cases hrest : s.rest with
      | nil => rw [skip_nil hrest, hrest, List.drop_nil]
      | cons c rest => rw [skip_cons hrest, ih, List.drop_succ_cons]

@[simp] theorem groups_skip (n : Nat) : ∀ s : Spot, (s.skip n).groups = s.groups := by
  induction n with
  | zero => exact fun s => rfl
  | succ n ih =>
      intro s
      cases hrest : s.rest with
      | nil => rw [skip_nil hrest]
      | cons c rest => rw [skip_cons hrest, ih]

theorem index_skip : ∀ {n : Nat} {s : Spot}, n ≤ s.rest.length → (s.skip n).index = s.index + n
  | 0, s, _ => rfl
  | n + 1, s, h => by
      cases hrest : s.rest with
      | nil =>
          rw [hrest, List.length_nil] at h
          omega
      | cons c rest =>
          rw [hrest, List.length_cons] at h
          rw [skip_cons hrest, index_skip (by simpa using h)]
          simp only
          omega

theorem length_rest_skip (n : Nat) (s : Spot) : (s.skip n).rest.length = s.rest.length - n := by
  rw [rest_skip, List.length_drop]

/-- Behind a text that follows stands the rest. -/
theorem rest_skip_append {text rest : List Char} (h : s.rest = text ++ rest) : (s.skip text.length).rest = rest := by
  rw [rest_skip, h, List.drop_left]

theorem rest_skip_cons {c : Char} {rest : List Char} (h : s.rest = c :: rest) : (s.skip 1).rest = rest := by
  rw [rest_skip, h, List.drop_succ_cons, List.drop_zero]

theorem length_le_of_append {text rest : List Char} (h : s.rest = text ++ rest) : text.length ≤ s.rest.length := by
  rw [h]
  exact (List.prefix_append text rest).length_le

theorem index_skip_append {text rest : List Char} (h : s.rest = text ++ rest) :
    (s.skip text.length).index = s.index + text.length := index_skip (length_le_of_append h)

@[simp] theorem rest_withGroups (groups : Automaton.Groups) (s : Spot) : (s.withGroups groups).rest = s.rest := rfl

@[simp] theorem index_withGroups (groups : Automaton.Groups) (s : Spot) : (s.withGroups groups).index = s.index := rfl

@[simp] theorem place_withGroups (groups : Automaton.Groups) (s : Spot) : (s.withGroups groups).place = s.place := rfl

@[simp] theorem withGroups_self (s : Spot) : s.withGroups s.groups = s := rfl

@[simp] theorem withGroups_withGroups (groups groups' : Automaton.Groups) (s : Spot) :
    (s.withGroups groups).withGroups groups' = s.withGroups groups' := rfl

theorem skip_withGroups (groups : Automaton.Groups) (n : Nat) :
    ∀ s : Spot, (s.withGroups groups).skip n = (s.skip n).withGroups groups := by
  induction n with
  | zero => exact fun s => rfl
  | succ n ih =>
      intro s
      cases hrest : s.rest with
      | nil => rw [skip_nil hrest, skip_nil (s := s.withGroups groups) hrest]
      | cons c rest =>
          rw [skip_cons hrest, skip_cons (s := s.withGroups groups) hrest, ← ih]
          rfl

theorem skip_pass (border : Automaton.Border) (n : Nat) (s : Spot) :
    (s.pass border).skip n = (s.skip n).withGroups (s.pass border).groups := skip_withGroups _ n s

theorem read?_eq_some_iff : s.read? set = some o ↔ ∃ c, s.rest.head? = some c ∧ set.contains c = true ∧ o = s.skip 1 := by
  rw [read?]
  cases hrest : s.rest with
  | nil => simp
  | cons c rest =>
      rw [skip_cons hrest, skip_zero]
      cases h : set.contains c with
      | false => simp [h]
      | true =>
          simp only [if_true, List.head?_cons, Option.some.injEq, exists_eq_left', h, true_and]
          exact eq_comm

theorem read?_eq_none_iff : s.read? set = none ↔ ∀ c, s.rest.head? = some c → set.contains c = false := by
  rw [read?]
  cases hrest : s.rest with
  | nil => simp
  | cons c rest => simp

end Spot

namespace Pattern

variable {step : Spot → List Spot} {s o : Spot}

/-- A step goes on in the text by at least some characters, and changes nothing but the groups. -/
def Advances (least : Nat) (step : Spot → List Spot) : Prop :=
  ∀ s, ∀ o ∈ step s, ∃ n groups, least ≤ n ∧ n ≤ s.rest.length ∧ o = (s.skip n).withGroups groups

theorem Advances.mono {least least' : Nat} (h : Advances least step) (hle : least' ≤ least) : Advances least' step := by
  intro s o ho
  obtain ⟨n, groups, hleast, hn, hend⟩ := h s o ho
  exact ⟨n, groups, Nat.le_trans hle hleast, hn, hend⟩

theorem advances_singleton : Advances 0 fun s => [s] := by
  intro s o ho
  obtain rfl := List.mem_singleton.mp ho
  exact ⟨0, o.groups, Nat.le_refl _, Nat.zero_le _, rfl⟩

theorem Advances.flatMap {step' : Spot → List Spot} {least least' : Nat} (h : Advances least step)
    (h' : Advances least' step') : Advances (least + least') fun s => (step s).flatMap step' := by
  intro s o ho
  obtain ⟨mid, hmid, ho⟩ := List.mem_flatMap.mp ho
  obtain ⟨n, groups, hleast, hn, rfl⟩ := h s mid hmid
  obtain ⟨m, groups', hleast', hm, rfl⟩ := h' _ o ho
  rw [Spot.rest_withGroups, Spot.length_rest_skip] at hm
  refine ⟨n + m, groups', by omega, by omega, ?_⟩
  rw [Spot.skip_withGroups, Spot.withGroups_withGroups, ← Spot.skip_add]

theorem times_succ_right (step : Spot → List Spot) :
    ∀ n s, times step (n + 1) s = (times step n s).flatMap step
  | 0, s => by simp [times]
  | n + 1, s => by
      calc times step (n + 2) s = (step s).flatMap fun s => (times step n s).flatMap step := by
            rw [times, funext (times_succ_right step n)]
        _ = (times step (n + 1) s).flatMap step := by rw [times, List.flatMap_assoc]

theorem Advances.times {least : Nat} (h : Advances least step) : ∀ n, Advances (n * least) (times step n)
  | 0 => (Nat.zero_mul least).symm ▸ advances_singleton
  | n + 1 => by
      rw [Nat.succ_mul, Nat.add_comm]
      exact h.flatMap (h.times n)

theorem Advances.repeats (h : Advances 0 step) (greedy : Bool) : ∀ n, Advances 0 (repeats step greedy n)
  | 0 => advances_singleton
  | n + 1 => by
      have hmore := h.flatMap (h.repeats greedy n)
      intro s o ho
      rw [Pattern.repeats] at ho
      have hcases : o ∈ (step s).flatMap (Pattern.repeats step greedy n) ∨ o ∈ [s] := by
        split at ho
        · exact List.mem_append.mp ho
        · exact (List.mem_cons.mp ho).symm.imp_right List.mem_singleton.mpr
      rcases hcases with ho | ho
      · exact hmore s o ho
      · exact advances_singleton s o ho

/-- **Ways go on.** Each way of a pattern goes on in the text, and takes a character if the pattern is not
nullable. -/
theorem advances_ways (p : Pattern) : Advances (if p.isNullable then 0 else 1) p.ways := by
  induction p with
  | empty => exact advances_singleton
  | one set =>
      intro s o ho
      obtain ⟨c, hhead, -, rfl⟩ := Spot.read?_eq_some_iff.mp (Option.mem_toList.mp ho)
      have hlength : 0 < s.rest.length := by
        cases hrest : s.rest with
        | nil =>
            rw [hrest] at hhead
            cases hhead
        | cons c rest => exact Nat.succ_pos _
      exact ⟨1, s.groups, by simp [isNullable], hlength, by rw [← Spot.groups_skip 1 s, Spot.withGroups_self]⟩
  | anchor condition =>
      intro s o ho
      rw [ways] at ho
      split at ho
      · exact advances_singleton s o ho
      · cases ho
  | seq p q ihp ihq =>
      refine (ihp.flatMap ihq).mono ?_
      rw [isNullable]
      cases p.isNullable <;> cases q.isNullable <;> simp
  | alt p q ihp ihq =>
      intro s o ho
      rcases List.mem_append.mp ho with ho | ho
      · refine ihp.mono ?_ s o ho
        rw [isNullable]
        cases p.isNullable <;> cases q.isNullable <;> simp
      · refine ihq.mono ?_ s o ho
        rw [isNullable]
        cases p.isNullable <;> cases q.isNullable <;> simp
  | group number p ih =>
      intro s o ho
      obtain ⟨inner, hinner, rfl⟩ := List.mem_map.mp ho
      obtain ⟨n, groups, hleast, hn, rfl⟩ := ih _ _ hinner
      refine ⟨n, (((s.skip n).withGroups groups).pass ⟨number, true⟩).groups, hleast, hn, ?_⟩
      rw [Spot.skip_pass, Spot.withGroups_withGroups]
      rfl
  | many p least most greedy ih =>
      have htimes := ih.times least
      have hrepeats := fun n => (ih.mono (Nat.zero_le _)).repeats greedy n
      intro s o ho
      obtain ⟨mid, hmid, ho⟩ := List.mem_flatMap.mp ho
      have hboth := htimes.flatMap (hrepeats ((most.map (· - least)).getD mid.rest.length))
      refine hboth.mono ?_ s o (List.mem_flatMap.mpr ⟨mid, hmid, ho⟩)
      rw [isNullable]
      rcases Nat.eq_zero_or_pos least with rfl | hpos
      · simp
      · have hzero : (decide (least = 0)) = false := decide_eq_false (by omega)
        rw [hzero, Bool.false_or, Nat.add_zero]
        cases p.isNullable
        · simpa using Nat.succ_le_of_lt hpos
        · simp

/-- Each way of a pattern that is not nullable leaves less of the text. -/
theorem length_lt_of_mem_ways {p : Pattern} (hp : p.isNullable = false) (h : o ∈ p.ways s) :
    o.rest.length < s.rest.length := by
  obtain ⟨n, groups, hleast, hn, rfl⟩ := advances_ways p s o h
  rw [if_neg (by rw [hp]; exact Bool.false_ne_true)] at hleast
  rw [Spot.rest_withGroups, Spot.length_rest_skip]
  omega

theorem index_lt_of_mem_ways {p : Pattern} (hp : p.isNullable = false) (h : o ∈ p.ways s) : s.index < o.index := by
  obtain ⟨n, groups, hleast, hn, rfl⟩ := advances_ways p s o h
  rw [if_neg (by rw [hp]; exact Bool.false_ne_true)] at hleast
  rw [Spot.index_withGroups, Spot.index_skip hn]
  omega

end Pattern

end XmlDiagnostics
