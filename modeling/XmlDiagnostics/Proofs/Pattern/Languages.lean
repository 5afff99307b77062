import XmlDiagnostics.Proofs.Pattern.Taking

/-! # Texts of a pattern

`Fits` tells which texts a pattern can take, whatever stands around them: the language of the pattern, by its
constructors, with nothing about preference or groups. Every way of a pattern takes a text of its language
(`exists_fits_of_mem_ways`). So where a pattern cannot match is told from its language alone (`dead_of_not_fits`), and what
it takes at a place is among all its matches if no text of its language reaches from an earlier place beyond this
one (`mem_findAll_of_takes`). -/

namespace XmlDiagnostics.Pattern

open Automaton

/-- A pattern can take a text. Of anchors only is said that they take nothing. -/
def Fits : Pattern → List Char → Prop
  | empty, text => text = []
  | one set, text => ∃ c, text = [c] ∧ set.contains c = true
  | anchor _, text => text = []
  | seq p q, text => ∃ a b, text = a ++ b ∧ p.Fits a ∧ q.Fits b
  | alt p q, text => p.Fits text ∨ q.Fits text
  | group _ p, text => p.Fits text
  | many p least most _, text =>
    ∃ parts : List (List Char), text = parts.flatten ∧ (∀ part ∈ parts, p.Fits part) ∧
      least ≤ parts.length ∧ ∀ bound ∈ most, parts.length ≤ max least bound

variable {step : Spot → List Spot} {fits : List Char → Prop} {p q : Pattern} {s o : Spot} {set : CharSet}

/-- Each step goes over a text of a kind. -/
def GoesOver (step : Spot → List Spot) (fits : List Char → Prop) : Prop :=
  ∀ s, ∀ o ∈ step s, ∃ text, s.rest = text ++ o.rest ∧ fits text

/-! ### Repetitions -/

theorem GoesOver.times (h : GoesOver step fits) (n : Nat) :
    GoesOver (Pattern.times step n) fun text =>
      ∃ parts : List (List Char), text = parts.flatten ∧ (∀ part ∈ parts, fits part) ∧ parts.length = n := by
  induction n with
  | zero =>
      intro s o ho
      obtain rfl := List.mem_singleton.mp ho
      exact ⟨[], rfl, [], rfl, fun _ hmem => absurd hmem List.not_mem_nil, rfl⟩
  | succ n ih =>
      intro s o ho
      obtain ⟨mid, hmid, ho⟩ := List.mem_flatMap.mp ho
      obtain ⟨part, hpart, hfits⟩ := h s mid hmid
      obtain ⟨_, hrest, parts, rfl, hparts, rfl⟩ := ih mid o ho
      refine ⟨part ++ parts.flatten, by rw [hpart, hrest, List.append_assoc], part :: parts, rfl, ?_, rfl⟩
      exact List.forall_mem_cons.mpr ⟨hfits, hparts⟩

theorem GoesOver.repeats (h : GoesOver step fits) (greedy : Bool) (n : Nat) :
    GoesOver (Pattern.repeats step greedy n) fun text =>
      ∃ parts : List (List Char), text = parts.flatten ∧ (∀ part ∈ parts, fits part) ∧ parts.length ≤ n := by
  induction n with
  | zero =>
      intro s o ho
      obtain rfl := List.mem_singleton.mp ho
      exact ⟨[], rfl, [], rfl, fun _ hmem => absurd hmem List.not_mem_nil, Nat.le_refl _⟩
  | succ n ih =>
      intro s o ho
      have hcases : o = s ∨ o ∈ (step s).flatMap (Pattern.repeats step greedy n) := by
        rw [Pattern.repeats] at ho
        split at ho
        · exact (List.mem_append.mp ho).symm.imp_left List.mem_singleton.mp
        · exact List.mem_cons.mp ho
      rcases hcases with rfl | ho
      · exact ⟨[], rfl, [], rfl, fun _ hmem => absurd hmem List.not_mem_nil, Nat.zero_le _⟩
      · obtain ⟨mid, hmid, ho⟩ := List.mem_flatMap.mp ho
        obtain ⟨part, hpart, hfits⟩ := h s mid hmid
        obtain ⟨_, hrest, parts, rfl, hparts, hlength⟩ := ih mid o ho
        refine ⟨part ++ parts.flatten, by rw [hpart, hrest, List.append_assoc], part :: parts, rfl, ?_, ?_⟩
        · exact List.forall_mem_cons.mpr ⟨hfits, hparts⟩
        · exact Nat.succ_le_succ hlength

/-! ### All patterns -/

theorem goesOver_ways (p : Pattern) : GoesOver p.ways p.Fits := by
  induction p with
  | empty =>
      intro s o ho
      obtain rfl := List.mem_singleton.mp ho
      exact ⟨[], rfl, rfl⟩
  | one set =>
      intro s o ho
      obtain ⟨c, hhead, hc, rfl⟩ := Spot.read?_eq_some_iff.mp (Option.mem_toList.mp ho)
      obtain ⟨rest, hrest⟩ := List.head?_eq_some_iff.mp hhead
      exact ⟨[c], by rw [Spot.rest_skip_cons hrest, hrest]; rfl, c, rfl, hc⟩
  | anchor condition =>
      intro s o ho
      rw [ways] at ho
      split at ho
      · obtain rfl := List.mem_singleton.mp ho
        exact ⟨[], rfl, rfl⟩
      · cases ho
  | seq p q ihp ihq =>
      intro s o ho
      obtain ⟨mid, hmid, ho⟩ := List.mem_flatMap.mp ho
      obtain ⟨a, ha, hfitsa⟩ := ihp s mid hmid
      obtain ⟨b, hb, hfitsb⟩ := ihq mid o ho
      exact ⟨a ++ b, by rw [ha, hb, List.append_assoc], a, b, rfl, hfitsa, hfitsb⟩
  | alt p q ihp ihq =>
      intro s o ho
      rcases List.mem_append.mp ho with ho | ho
      · obtain ⟨text, htext, hfits⟩ := ihp s o ho
        exact ⟨text, htext, .inl hfits⟩
      · obtain ⟨text, htext, hfits⟩ := ihq s o ho
        exact ⟨text, htext, .inr hfits⟩
  | group number p ih =>
      intro s o ho
      obtain ⟨inner, hinner, rfl⟩ := List.mem_map.mp ho
      exact ih (s.pass ⟨number, false⟩) inner hinner
  | many p least most greedy ih =>
      intro s o ho
      obtain ⟨mid, hmid, ho⟩ := List.mem_flatMap.mp ho
      obtain ⟨_, hfirst, parts, rfl, hparts, hlength⟩ := ih.times least s mid hmid
      obtain ⟨_, hmore, parts', rfl, hparts', hlength'⟩ := ih.repeats greedy _ mid o ho
      refine ⟨parts.flatten ++ parts'.flatten, by rw [hfirst, hmore, List.append_assoc], parts ++ parts', ?_, ?_, ?_, ?_⟩
      · rw [List.flatten_append]
      · exact List.forall_mem_append.mpr ⟨hparts, hparts'⟩
      · rw [List.length_append]
        omega
      · rintro bound rfl
        simp only [Option.map_some, Option.getD_some] at hlength'
        rw [List.length_append]
        omega

/-- **Ways take texts of the language.** -/
theorem exists_fits_of_mem_ways (h : o ∈ p.ways s) :
    ∃ text, s.rest = text ++ o.rest ∧ o.index = s.index + text.length ∧ p.Fits text := by
  obtain ⟨text, hrest, hfits⟩ := goesOver_ways p s o h
  obtain ⟨n, groups, -, hn, rfl⟩ := advances_ways p s o h
  refine ⟨text, hrest, ?_, hfits⟩
  have hlength := congrArg List.length hrest
  rw [Spot.rest_withGroups, Spot.rest_skip, List.length_append, List.length_drop] at hlength
  rw [Spot.index_withGroups, Spot.index_skip hn]
  omega

/-! ### The texts of small patterns -/

theorem fits_char_iff {c : Char} {text : List Char} : (char c).Fits text ↔ text = [c] := by
  rw [char, Fits]
  constructor
  · rintro ⟨d, rfl, hd⟩
    rw [CharSet.contains_single.mp hd]
  · rintro rfl
    exact ⟨c, rfl, CharSet.contains_single.mpr rfl⟩

theorem fits_seq_iff {text : List Char} :
    (seq p q).Fits text ↔ ∃ a b, text = a ++ b ∧ p.Fits a ∧ q.Fits b := Iff.rfl

theorem fits_literal_iff {literal text : List Char} : (Pattern.literal literal).Fits text ↔ text = literal := by
  induction literal generalizing text with
  | nil => exact Iff.rfl
  | cons c literal ih =>
      have hstep : Pattern.literal (c :: literal) = seq (char c) (Pattern.literal literal) := rfl
      rw [hstep, fits_seq_iff]
      constructor
      · rintro ⟨a, b, rfl, ha, hb⟩
        rw [fits_char_iff.mp ha, ih.mp hb]
        rfl
      · rintro rfl
        exact ⟨[c], literal, rfl, fits_char_iff.mpr rfl, ih.mpr rfl⟩

theorem all_contains_of_fits_many {least : Nat} {most : Option Nat} {greedy : Bool} {text : List Char}
    (h : (many (one set) least most greedy).Fits text) :
    (∀ c ∈ text, set.contains c = true) ∧ least ≤ text.length := by
  obtain ⟨parts, rfl, hparts, hleast, -⟩ := h
  induction parts generalizing least with
  | nil => exact ⟨fun _ hmem => absurd hmem List.not_mem_nil, hleast⟩
  | cons part parts ih =>
      obtain ⟨⟨c, rfl, hc⟩, hmore⟩ := List.forall_mem_cons.mp hparts
      rw [List.length_cons] at hleast
      have hleast' : least - 1 ≤ parts.length := by omega
      obtain ⟨hall, hlength⟩ := ih hmore hleast'
      rw [List.flatten_cons, List.singleton_append]
      refine ⟨List.forall_mem_cons.mpr ⟨hc, hall⟩, ?_⟩
      rw [List.length_cons]
      omega

theorem fits_optional_iff {text : List Char} : (optional p).Fits text ↔ text = [] ∨ p.Fits text := by
  constructor
  · rintro ⟨parts, rfl, hparts, -, hbound⟩
    have hlength := hbound 1 rfl
    cases parts with
    | nil => exact .inl rfl
    | cons part parts =>
        cases parts with
        | nil =>
            right
            rw [List.flatten_cons, List.flatten_nil, List.append_nil]
            exact hparts part List.mem_cons_self
        | cons part' parts =>
            rw [List.length_cons, List.length_cons] at hlength
            omega
  · rintro (rfl | h)
    · exact ⟨[], rfl, fun _ hmem => absurd hmem List.not_mem_nil, Nat.zero_le _, fun _ _ => Nat.zero_le _⟩
    · refine ⟨[text], by simp, fun part hmem => List.mem_singleton.mp hmem ▸ h, Nat.zero_le _, ?_⟩
      rintro bound ⟨⟩
      exact Nat.le_refl _

/-! ### Searching -/

/-- Where no text of the language follows there is no way. -/
theorem dead_of_not_fits {text : List Char} {n : Nat} (h : ∀ k < n, ∀ taken, taken <+: text.drop k → ¬p.Fits taken) :
    Dead p (startOf text) n := by
  intro k hk
  refine List.eq_nil_iff_forall_not_mem.mpr fun o ho => ?_
  obtain ⟨taken, hrest, -, hfits⟩ := exists_fits_of_mem_ways ho
  rw [Spot.rest_skip] at hrest
  exact h k hk taken ⟨o.rest, hrest.symm⟩ hfits

/-- What is preferred at a spot is among the matches if no way from an earlier spot goes beyond it. -/
theorem mem_takeMatches (hp : p.isSteady = true) (hnull : p.isNullable = false) {stops : List Stop} {d n : Nat}
    (hnoted : Noted (ofPattern p) s stops) (hgroups : s.groups = {}) (hd : d ≤ s.rest.length)
    (hbefore : ∀ k < d, ∀ o ∈ p.ways (s.skip k), o.index ≤ s.index + d)
    (ho : (p.ways (s.skip d)).head? = some o) (hn : d < n) :
    matchTo (s.skip d) o ∈ Scan.takeMatches ⟨ofPattern p, stops⟩ n := by
  induction n generalizing s stops d with
  | zero => omega
  | succ n ih =>
      rcases search_cases hp hnoted hgroups with ⟨k, o', hk, hdead, hfirst, hsearch⟩ | ⟨hdead, -⟩
      · have hmem : o' ∈ p.ways (s.skip k) := List.mem_of_head? hfirst
        have hlt := index_lt_of_mem_ways hnull hmem
        have hindex := Spot.index_skip hk
        have hne : (matchTo (s.skip k) o').piece.stop ≠ (matchTo (s.skip k) o').piece.start := hlt.ne'
        rw [takeMatches_of_search_eq_some hnoted hsearch hne]
        have hkd : k ≤ d := by
          by_contra hlate
          rw [hdead d (by omega)] at ho
          cases ho
        rcases Nat.lt_or_eq_of_le hkd with hearly | rfl
        · -- the match found ends at the spot or before, and the search goes on behind it
          have hend := hbefore k hearly o' hmem
          obtain ⟨e, he⟩ : ∃ e, (matchTo (s.skip k) o').piece.stop - s.index = e := ⟨_, rfl⟩
          have hstop : o'.index = s.index + e := by
            have : o'.index - s.index = e := he
            omega
          have hlength := Spot.length_rest_skip e s
          have hskip : (s.skip e).skip (d - e) = s.skip d := by
            rw [← Spot.skip_add, Nat.add_sub_cancel' (by omega)]
          have hnext : Noted (ofPattern p) (s.skip e) (stops.drop e) := hnoted.drop (by omega)
          have hlater : ∀ j < d - e, ∀ o ∈ p.ways ((s.skip e).skip j), o.index ≤ (s.skip e).index + (d - e) := by
            intro j hj o'' ho''
            rw [← Spot.skip_add] at ho''
            have := hbefore (e + j) (by omega) o'' ho''
            rw [Spot.index_skip (by omega)]
            omega
          have hmore := ih hnext ((Spot.groups_skip e s).trans hgroups) (by omega) hlater (hskip ▸ ho) (by omega)
          rw [hskip] at hmore
          rw [he]
          exact List.mem_cons_of_mem _ hmore
        · obtain rfl := Option.some.inj (hfirst.symm.trans ho)
          exact List.mem_cons_self
      · rw [hdead d hd] at ho
        cases ho

/-- **All matches.** What a pattern takes at a place is among its matches, if no text of its language that begins earlier
goes beyond this place. -/
theorem mem_findAll_of_takes (hp : p.isSteady = true) (hnull : p.isNullable = false) {before text rest : List Char}
    {pieces : Nat → List (Nat × Piece)}
    (hbefore : ∀ k < before.length, ∀ taken, taken <+: (before ++ text ++ rest).drop k → p.Fits taken →
      k + taken.length ≤ before.length)
    (h : Takes p text rest pieces) :
    ⟨⟨before.length, before.length + text.length⟩, pieces before.length⟩ ∈ p.findAll (before ++ text ++ rest) := by
  have hstart : (startOf (before ++ text ++ rest)).rest = before ++ (text ++ rest) := List.append_assoc before text rest
  have hlength := Spot.length_le_of_append hstart
  have hindex := (Spot.index_skip_append hstart).trans (Nat.zero_add _)
  obtain ⟨o, ho, -, hend, hclosed⟩ := h _ (Spot.rest_skip_append hstart)
  have hearlier : ∀ k < before.length, ∀ o ∈ p.ways ((startOf (before ++ text ++ rest)).skip k),
      o.index ≤ (startOf (before ++ text ++ rest)).index + before.length := by
    intro k hk o' ho'
    obtain ⟨taken, hrest, hend', hfits⟩ := exists_fits_of_mem_ways ho'
    rw [Spot.rest_skip] at hrest
    have hbound := hbefore k hk taken ⟨o'.rest, hrest.symm⟩ hfits
    have hk' : ((startOf (before ++ text ++ rest)).skip k).index = k :=
      (Spot.index_skip (by omega)).trans (Nat.zero_add k)
    have hzero : (startOf (before ++ text ++ rest)).index = 0 := rfl
    omega
  have hmem := mem_takeMatches hp hnull (noted_scan_startOf hp _) rfl hlength hearlier ho (Nat.lt_succ_of_le hlength)
  rw [matchTo, hend, hclosed, hindex, Spot.groups_skip] at hmem
  have hpieces : pieces before.length ++ (startOf (before ++ text ++ rest)).groups.closed = pieces before.length :=
    List.append_nil _
  rw [hpieces] at hmem
  exact hmem

end XmlDiagnostics.Pattern
