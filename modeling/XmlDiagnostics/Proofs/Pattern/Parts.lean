import Mathlib.Data.List.TakeWhile
import XmlDiagnostics.Proofs.Pattern.Searching

/-! # Ways of the parts of patterns

What the small patterns take of which others are put together: characters of a set and runs of them, literals,
sequences, options and groups. Where a run is followed by something that does not begin with a character of the run,
only the whole run counts (`ways_anyOf_seq`). -/

namespace XmlDiagnostics

namespace CharSet

@[simp] theorem contains_single {c d : Char} : (single c).contains d = true ↔ d = c := by
  rw [single, contains, Bool.and_eq_true, decide_eq_true_iff, decide_eq_true_iff]
  constructor
  · rintro ⟨h, h'⟩
    exact Char.le_antisymm h' h
  · rintro rfl
    exact ⟨Char.le_refl _, Char.le_refl _⟩

@[simp] theorem contains_ofList {cs : List Char} {c : Char} : (ofList cs).contains c = true ↔ c ∈ cs := by
  induction cs with
  | nil => simp [ofList, contains]
  | cons d cs ih =>
      rw [ofList, List.foldr_cons, ← ofList, contains, Bool.or_eq_true, contains_single, ih, List.mem_cons]

@[simp] theorem contains_all (c : Char) : all.contains c = true := rfl

end CharSet

namespace Spot

/-- How many characters of a set follow. -/
def run (set : CharSet) (s : Spot) : Nat := (s.rest.takeWhile set.contains).length

/-- A run ends with the characters of the set. -/
theorem run_of_append {set : CharSet} {s : Spot} {a rest : List Char} (hrest : s.rest = a ++ rest)
    (ha : ∀ c ∈ a, set.contains c = true) (hend : ∀ c, rest.head? = some c → set.contains c = false) :
    s.run set = a.length := by
  rw [run, hrest, List.takeWhile_append_of_pos ha]
  cases rest with
  | nil => rw [List.takeWhile_nil, List.append_nil]
  | cons c rest => rw [List.takeWhile_cons_of_neg (by rw [hend c rfl]; exact Bool.false_ne_true), List.append_nil]

/-- A run goes at least over characters of its set. -/
theorem length_le_run_of_append {set : CharSet} {s : Spot} {a rest : List Char} (hrest : s.rest = a ++ rest)
    (ha : ∀ c ∈ a, set.contains c = true) : a.length ≤ s.run set := by
  rw [run, hrest, List.takeWhile_append_of_pos ha, List.length_append]
  exact Nat.le_add_right _ _

/-- Before the end of a run, the next character is in it. -/
theorem contains_of_lt_run {set : CharSet} {s : Spot} {n : Nat} (h : n < s.run set) :
    ∃ c, (s.skip n).rest.head? = some c ∧ set.contains c = true := by
  have hget : s.rest.head? = s.rest[0]? := List.head?_eq_getElem?
  have hlt : n < (s.rest.takeWhile set.contains).length := h
  have hmem := List.getElem_mem hlt
  refine ⟨(s.rest.takeWhile set.contains)[n], ?_, List.mem_takeWhile_imp hmem⟩
  rw [rest_skip, List.head?_drop]
  exact (List.prefix_iff_getElem?.mp (List.takeWhile_prefix _) n hlt)

end Spot

namespace Pattern

variable {p q : Pattern} {s o m : Spot} {set : CharSet}

/-! ### Characters and literals -/

theorem ways_one_of_contains {c : Char} (hhead : s.rest.head? = some c) (h : set.contains c = true) :
    (one set).ways s = [s.skip 1] := by
  rw [ways, Spot.read?_eq_some_iff.mpr ⟨c, hhead, h, rfl⟩]
  rfl

theorem ways_one_eq_nil (h : ∀ c, s.rest.head? = some c → set.contains c = false) : (one set).ways s = [] := by
  rw [ways, Spot.read?_eq_none_iff.mpr h]
  rfl

theorem ways_char_of_head? {c : Char} (h : s.rest.head? = some c) : (char c).ways s = [s.skip 1] :=
  ways_one_of_contains h (CharSet.contains_single.mpr rfl)

theorem ways_char_eq_nil {c : Char} (h : s.rest.head? ≠ some c) : (char c).ways s = [] := by
  refine ways_one_eq_nil fun d hd => ?_
  rw [← Bool.not_eq_true, CharSet.contains_single]
  rintro rfl
  exact h hd

theorem ways_seq (p q : Pattern) (s : Spot) : (seq p q).ways s = (p.ways s).flatMap q.ways := rfl

theorem isSteady_literal (text : List Char) : (literal text).isSteady = true := by
  induction text with
  | nil => rfl
  | cons c text ih => exact ih

/-- A literal takes its text. -/
theorem ways_literal_append {text rest : List Char} (h : s.rest = text ++ rest) :
    (literal text).ways s = [s.skip text.length] := by
  induction text generalizing s with
  | nil => rfl
  | cons c text ih =>
      have hhead : s.rest.head? = some c := by rw [h, List.cons_append, List.head?_cons]
      have hrest : (s.skip 1).rest = text ++ rest := Spot.rest_skip_cons h
      calc (literal (c :: text)).ways s = ((char c).ways s).flatMap (literal text).ways := rfl
        _ = [(s.skip 1).skip text.length] := by
          rw [ways_char_of_head? hhead, List.flatMap_singleton, ih hrest]
        _ = [s.skip (c :: text).length] := by rw [← Spot.skip_add, Nat.add_comm, List.length_cons]

theorem ways_literal_eq_nil {text : List Char} (h : ¬text <+: s.rest) : (literal text).ways s = [] := by
  induction text generalizing s with
  | nil => exact absurd List.nil_prefix h
  | cons c text ih =>
      have hstep : (literal (c :: text)).ways s = ((char c).ways s).flatMap (literal text).ways := rfl
      by_cases hhead : s.rest.head? = some c
      · obtain ⟨rest, hrest⟩ := List.head?_eq_some_iff.mp hhead
        have hnext := Spot.rest_skip_cons hrest
        rw [hstep, ways_char_of_head? hhead, List.flatMap_singleton, ih]
        rw [hnext]
        exact fun hprefix => h (hrest ▸ (List.prefix_cons_inj c).mpr hprefix)
      · rw [hstep, ways_char_eq_nil hhead]
        rfl

/-! ### Runs of characters -/

/-- A run that is as long as possible or as short as possible can end behind each of its characters. -/
theorem repeats_one (greedy : Bool) {n : Nat} (hn : s.rest.length ≤ n) :
    repeats (one set).ways greedy n s =
      (if greedy then (List.range (s.run set + 1)).reverse else List.range (s.run set + 1)).map fun k => s.skip k := by
  induction n generalizing s with
  | zero =>
      have hnil : s.rest = [] := List.length_eq_zero_iff.mp (Nat.le_zero.mp hn)
      rw [Spot.run, hnil]
      cases greedy <;> rfl
  | succ n ih =>
      rw [repeats]
      by_cases hnext : (one set).ways s = []
      · have hrun : s.run set = 0 := by
          cases hrest : s.rest with
          | nil => rw [Spot.run, hrest]; rfl
          | cons c rest =>
              have hc : set.contains c ≠ true := fun hc => by
                rw [ways_one_of_contains (by rw [hrest]; rfl) hc] at hnext
                cases hnext
              rw [Spot.run, hrest, List.takeWhile_cons_of_neg hc, List.length_nil]
        rw [hnext, hrun]
        cases greedy <;> rfl
      · obtain ⟨c, rest, hrest, hc⟩ : ∃ c rest, s.rest = c :: rest ∧ set.contains c = true := by
          cases hrest : s.rest with
          | nil => exact absurd (ways_one_eq_nil (by simp [hrest])) hnext
          | cons c rest =>
              refine ⟨c, rest, rfl, Classical.not_not.mp fun hc => hnext (ways_one_eq_nil ?_)⟩
              simpa [hrest] using hc
        have hbehind := Spot.rest_skip_cons hrest
        have hrun : s.run set = (s.skip 1).run set + 1 := by
          rw [Spot.run, Spot.run, hbehind, hrest, List.takeWhile_cons_of_pos hc, List.length_cons]
        have hlength : (s.skip 1).rest.length ≤ n := by
          rw [hbehind]
          rw [hrest, List.length_cons] at hn
          omega
        have hskip : ((fun k => s.skip k) ∘ Nat.succ) = fun k => (s.skip 1).skip k := by
          funext k
          show s.skip (k + 1) = _
          rw [← Spot.skip_add, Nat.add_comm]
        rw [ways_one_of_contains (by rw [hrest]; rfl) hc, List.flatMap_singleton, ih hlength, hrun,
          List.range_succ_eq_map (n := (s.skip 1).run set + 1)]
        cases greedy with
        | true =>
            rw [if_pos rfl, if_pos rfl, if_pos rfl, List.reverse_cons, List.map_append, ← List.map_reverse, List.map_map,
              hskip]
            rfl
        | false =>
            rw [if_neg Bool.false_ne_true, if_neg Bool.false_ne_true, if_neg Bool.false_ne_true, List.map_cons,
              List.map_map, hskip]
            rfl

/-- A run can end behind each of its characters, best behind the last one. -/
theorem ways_anyOf (set : CharSet) (s : Spot) :
    (anyOf set).ways s = ((List.range (s.run set + 1)).reverse).map fun k => s.skip k := by
  calc (anyOf set).ways s = repeats (one set).ways true s.rest.length s := by
        rw [anyOf, ways, times, List.flatMap_singleton]
        rfl
    _ = _ := by rw [repeats_one true (Nat.le_refl _), if_pos rfl]

/-- A run of at least one character is that character and a run. -/
theorem ways_someOf (set : CharSet) (s : Spot) :
    (someOf set).ways s = ((one set).ways s).flatMap (anyOf set).ways := by
  have hany : (anyOf set).ways = fun s => repeats (one set).ways true s.rest.length s := by
    funext s
    rw [anyOf, ways, times, List.flatMap_singleton]
    rfl
  have hone : times (one set).ways 1 s = (one set).ways s := by
    rw [times_succ_right (one set).ways 0, times, List.flatMap_singleton]
  rw [hany, ← hone]
  rfl

theorem head?_ways_anyOf (set : CharSet) (s : Spot) : ((anyOf set).ways s).head? = some (s.skip (s.run set)) := by
  rw [ways_anyOf, List.range_succ, List.reverse_append]
  rfl

/-- A run ends only where what follows can go on. -/
theorem ways_anyOf_seq (hq : ∀ t c, t.rest.head? = some c → set.contains c = true → q.ways t = []) (s : Spot) :
    (seq (anyOf set) q).ways s = q.ways (s.skip (s.run set)) := by
  have hdead : (((List.range (s.run set)).reverse).map fun k => s.skip k).flatMap q.ways = [] := by
    rw [List.flatMap_eq_nil_iff]
    intro t ht
    obtain ⟨k, hk, rfl⟩ := List.mem_map.mp ht
    obtain ⟨c, hhead, hc⟩ := Spot.contains_of_lt_run (List.mem_range.mp (List.mem_reverse.mp hk))
    exact hq _ c hhead hc
  rw [ways_seq, ways_anyOf, List.range_succ, List.reverse_append, List.map_append, List.flatMap_append, hdead,
    List.append_nil]
  exact List.flatMap_singleton _ _

/-- A run that is as short as possible ends at the first place from which one can go on. -/
theorem head?_flatMap_ways_lazy {next : Spot → List Spot} {n : Nat} (hn : n ≤ s.run set)
    (hbefore : ∀ k < n, next (s.skip k) = []) (ho : (next (s.skip n)).head? = some o) :
    (((many (one set) 0 none false).ways s).flatMap next).head? = some o := by
  have hways : (many (one set) 0 none false).ways s = (List.range (s.run set + 1)).map fun k => s.skip k := by
    rw [ways, times, List.flatMap_singleton]
    exact (repeats_one false (Nat.le_refl _)).trans (by rw [if_neg Bool.false_ne_true])
  obtain ⟨m, hm⟩ : ∃ m, s.run set + 1 = n + (m + 1) := ⟨s.run set - n, by omega⟩
  have hdead : ((List.range n).map fun k => s.skip k).flatMap next = [] := by
    rw [List.flatMap_eq_nil_iff]
    intro t ht
    obtain ⟨k, hk, rfl⟩ := List.mem_map.mp ht
    exact hbefore k (List.mem_range.mp hk)
  obtain ⟨others, hothers⟩ := List.head?_eq_some_iff.mp ho
  rw [hways, hm, List.range_add, List.map_append, List.flatMap_append, hdead, List.nil_append,
    List.range_succ_eq_map, List.map_cons, List.map_cons, List.flatMap_cons, Nat.add_zero, hothers]
  rfl

/-! ### First ways -/

theorem head?_flatMap {α β : Type} {l : List α} {f : α → List β} {x : α} {y : β} (hl : l.head? = some x)
    (hf : (f x).head? = some y) : (l.flatMap f).head? = some y := by
  obtain ⟨l, rfl⟩ := List.head?_eq_some_iff.mp hl
  obtain ⟨fs, hfs⟩ := List.head?_eq_some_iff.mp hf
  rw [List.flatMap_cons, hfs]
  rfl

/-- The first way of a sequence goes on from the first way of its first part, if it can. -/
theorem head?_ways_seq (hp : (p.ways s).head? = some m) (hq : (q.ways m).head? = some o) :
    ((seq p q).ways s).head? = some o := head?_flatMap hp hq

theorem head?_ways_group {number : Nat} (h : (p.ways (s.pass ⟨number, false⟩)).head? = some o) :
    ((group number p).ways s).head? = some (o.pass ⟨number, true⟩) := by
  rw [ways, List.head?_map, h]
  rfl

/-- An option is tried before it is left out. -/
theorem ways_optional (p : Pattern) (s : Spot) : (optional p).ways s = p.ways s ++ [s] := by
  rw [optional, ways, times, List.flatMap_singleton]
  show repeats p.ways true 1 s = _
  rw [repeats, if_pos rfl]
  refine congrArg (· ++ [s]) ?_
  exact List.flatMap_singleton' _

/-! ### Spots without ways -/

/-- There is no way from any of the next `n` spots. -/
def Dead (p : Pattern) (s : Spot) (n : Nat) : Prop := ∀ k < n, p.ways (s.skip k) = []

theorem dead_zero : Dead p s 0 := fun _ h => absurd h (Nat.not_lt_zero _)

theorem Dead.append {n k : Nat} (h : Dead p s n) (h' : Dead p (s.skip n) k) : Dead p s (n + k) := by
  intro i hi
  by_cases hin : i < n
  · exact h i hin
  · obtain ⟨j, rfl⟩ := Nat.exists_eq_add_of_le (Nat.not_lt.mp hin)
    rw [Spot.skip_add]
    exact h' j (by omega)

end Pattern

/-- The piece between two others. -/
theorem Piece.of_eq {text a b c : List Char} {start stop : Nat} (htext : text = a ++ b ++ c) (hstart : start = a.length)
    (hstop : stop = start + b.length) : (Piece.mk start stop).of text.toArray = b := by
  subst htext hstart hstop
  rw [Piece.of, List.extract_toArray, List.extract_eq_take_drop, List.append_assoc]
  simp

end XmlDiagnostics
