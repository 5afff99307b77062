import XmlDiagnostics.Proofs.Pattern.Parts

/-! # What patterns take

Most often the first way of a pattern is all that counts. `Skips` says that it takes just a given text, and `Takes` also
what the groups on it take. Both are put together along a pattern, and from what a pattern takes at one place a
search finds it (`find?_of_takes`). -/

namespace XmlDiagnostics.Pattern

open Automaton

/-- With `rest` behind the text, the first way of a pattern takes just the text, and nothing for a group. -/
def Skips (p : Pattern) (text rest : List Char) : Prop :=
  ∀ s : Spot, s.rest = text ++ rest → (p.ways s).head? = some (s.skip text.length)

/-- With `rest` behind the text, the first way of a pattern takes just the text; the groups that it closes, the last one
first, take pieces that depend on the index at which the text begins. -/
def Takes (p : Pattern) (text rest : List Char) (pieces : Nat → List (Nat × Piece)) : Prop :=
  ∀ s : Spot, s.rest = text ++ rest → ∃ o, (p.ways s).head? = some o ∧ o.rest = rest ∧
    o.index = s.index + text.length ∧ o.groups.closed = pieces s.index ++ s.groups.closed

/-- A pattern has no way into a text. -/
def Refuses (p : Pattern) (text : List Char) : Prop := ∀ s : Spot, s.rest = text → p.ways s = []

variable {p q : Pattern} {set : CharSet} {text more rest : List Char} {pieces pieces' : Nat → List (Nat × Piece)}

/-! ### Texts -/

theorem skips_empty (rest : List Char) : Skips empty [] rest := fun _ _ => rfl

theorem skips_one {c : Char} (h : set.contains c = true) (rest : List Char) : Skips (one set) [c] rest := by
  intro s hs
  rw [ways_one_of_contains (by rw [hs]; rfl) h]
  rfl

theorem skips_char (c : Char) (rest : List Char) : Skips (char c) [c] rest := skips_one (CharSet.contains_single.mpr rfl) rest

theorem skips_literal (text rest : List Char) : Skips (literal text) text rest := by
  intro s hs
  rw [ways_literal_append hs]
  rfl

/-- A run takes characters of its set up to the first other one. -/
theorem skips_anyOf (htext : ∀ c ∈ text, set.contains c = true)
    (hrest : ∀ c, rest.head? = some c → set.contains c = false) : Skips (anyOf set) text rest := by
  intro s hs
  rw [head?_ways_anyOf, Spot.run_of_append hs htext hrest]

theorem skips_someOf (hne : text ≠ []) (htext : ∀ c ∈ text, set.contains c = true)
    (hrest : ∀ c, rest.head? = some c → set.contains c = false) : Skips (someOf set) text rest := by
  obtain ⟨c, more, rfl⟩ := List.exists_cons_of_ne_nil hne
  obtain ⟨hc, hmore⟩ := List.forall_mem_cons.mp htext
  intro s hs
  have hone : ((one set).ways s).head? = some (s.skip 1) := skips_one hc (more ++ rest) s hs
  have hrun := skips_anyOf hmore hrest _ (Spot.rest_skip_cons hs)
  rw [ways_someOf, head?_flatMap hone hrun, ← Spot.skip_add, Nat.add_comm, List.length_cons]

theorem Skips.seq (h : Skips p text (more ++ rest)) (h' : Skips q more rest) : Skips (seq p q) (text ++ more) rest := by
  intro s hs
  rw [List.append_assoc] at hs
  rw [head?_ways_seq (h s hs) (h' _ (Spot.rest_skip_append hs)), ← Spot.skip_add, List.length_append]

/-- A run that is as short as possible ends at the first place where what follows can go on. -/
theorem Skips.lazy (h : Skips q more rest) (htext : ∀ c ∈ text, set.contains c = true)
    (hbefore : ∀ k < text.length, Refuses q (text.drop k ++ (more ++ rest))) :
    Skips (Pattern.seq (many (one set) 0 none false) q) (text ++ more) rest := by
  intro s hs
  rw [List.append_assoc] at hs
  have hdrop : ∀ k ≤ text.length, (s.skip k).rest = text.drop k ++ (more ++ rest) := fun k hk => by
    rw [Spot.rest_skip, hs, List.drop_append_of_le_length hk]
  have hend := h _ (Spot.rest_skip_append hs)
  rw [ways_seq, head?_flatMap_ways_lazy (Spot.length_le_run_of_append hs htext) (fun k hk => hbefore k hk _ (hdrop k hk.le)) hend,
    ← Spot.skip_add, List.length_append]

/-! ### Groups -/

theorem Skips.takes (h : Skips p text rest) : Takes p text rest fun _ => [] := by
  intro s hs
  exact ⟨_, h s hs, Spot.rest_skip_append hs, Spot.index_skip_append hs, by rw [Spot.groups_skip]; rfl⟩

theorem Takes.seq (h : Takes p text (more ++ rest) pieces) (h' : Takes q more rest pieces') :
    Takes (seq p q) (text ++ more) rest fun index => pieces' (index + text.length) ++ pieces index := by
  intro s hs
  rw [List.append_assoc] at hs
  obtain ⟨mid, hmid, hrest, hindex, hclosed⟩ := h s hs
  obtain ⟨o, ho, hrest', hindex', hclosed'⟩ := h' mid hrest
  refine ⟨o, head?_ways_seq hmid ho, hrest', ?_, ?_⟩
  · rw [hindex', hindex, List.length_append, Nat.add_assoc]
  · rw [hclosed', hclosed, hindex, List.append_assoc]

theorem Takes.congr (h : Takes p text rest pieces) (heq : ∀ index, pieces index = pieces' index) :
    Takes p text rest pieces' := funext heq ▸ h

/-- A group takes what its pattern takes. -/
theorem Skips.group (h : Skips p text rest) (number : Nat) :
    Takes (group number p) text rest fun index => [(number, ⟨index, index + text.length⟩)] := by
  intro s hs
  have hindex := Spot.index_skip_append hs
  have hinner := h (s.pass ⟨number, false⟩) hs
  refine ⟨_, head?_ways_group hinner, ?_, ?_, ?_⟩
  · exact Spot.rest_skip_append (s := s.pass ⟨number, false⟩) hs
  · rw [Spot.skip_pass]
    exact hindex
  · rw [Spot.skip_pass]
    simp [Spot.pass, Spot.withGroups, Groups.pass, hindex]

/-- The group of a run that is as short as possible takes what stands before the first place where what follows can go on. -/
theorem Skips.lazy_group (h : Skips q more rest) (htext : ∀ c ∈ text, set.contains c = true)
    (hbefore : ∀ k < text.length, Refuses q (text.drop k ++ (more ++ rest))) (number : Nat) :
    Takes (Pattern.seq (Pattern.group number (many (one set) 0 none false)) q) (text ++ more) rest fun index =>
      [(number, ⟨index, index + text.length⟩)] := by
  intro s hs
  rw [List.append_assoc] at hs
  obtain ⟨opened, hopened⟩ : ∃ opened, opened = s.pass ⟨number, false⟩ := ⟨_, rfl⟩
  have hrest : opened.rest = text ++ (more ++ rest) := by rw [hopened]; exact hs
  have hdrop : ∀ k ≤ text.length, ((opened.skip k).pass ⟨number, true⟩).rest = text.drop k ++ (more ++ rest) := by
    intro k hk
    show (opened.skip k).rest = _
    rw [Spot.rest_skip, hrest, List.drop_append_of_le_length hk]
  have hbehind : ((opened.skip text.length).pass ⟨number, true⟩).rest = more ++ rest := Spot.rest_skip_append hrest
  have hways : (Pattern.seq (Pattern.group number (many (one set) 0 none false)) q).ways s =
      ((many (one set) 0 none false).ways opened).flatMap fun t => q.ways (t.pass ⟨number, true⟩) := by
    rw [ways_seq, ways, ← hopened, List.flatMap_map]
  refine ⟨((opened.skip text.length).pass ⟨number, true⟩).skip more.length, ?_, Spot.rest_skip_append hbehind, ?_, ?_⟩
  · rw [hways]
    exact head?_flatMap_ways_lazy (Spot.length_le_run_of_append hrest htext) (fun k hk => hbefore k hk _ (hdrop k hk.le)) (h _ hbehind)
  · have hindex : ((opened.skip text.length).pass ⟨number, true⟩).index = s.index + text.length := by
      rw [hopened]
      exact Spot.index_skip_append hs
    rw [Spot.index_skip_append hbehind, hindex, List.length_append, Nat.add_assoc]
  · rw [Spot.groups_skip, hopened, Spot.skip_pass]
    have hindex := Spot.index_skip_append hs
    simp [Spot.pass, Spot.withGroups, Groups.pass, hindex]

theorem Takes.optional (h : Takes p text rest pieces) : Takes (optional p) text rest pieces := by
  intro s hs
  obtain ⟨o, ho, hend⟩ := h s hs
  exact ⟨o, by rw [ways_optional, List.head?_append, ho]; rfl, hend⟩

/-- What cannot be taken is left out. -/
theorem Refuses.optional (h : Refuses p rest) : Skips (optional p) [] rest := by
  intro s hs
  rw [ways_optional, h s hs]
  rfl

theorem refuses_char {c : Char} (h : rest.head? ≠ some c) (q : Pattern) : Refuses (Pattern.seq (char c) q) rest := by
  intro s hs
  rw [ways_seq, ways_char_eq_nil (hs ▸ h), List.flatMap_nil]

theorem refuses_literal {literal : List Char} (h : ¬literal <+: rest) (q : Pattern) :
    Refuses (Pattern.seq (Pattern.literal literal) q) rest := by
  intro s hs
  rw [ways_seq, ways_literal_eq_nil (hs ▸ h), List.flatMap_nil]

/-! ### Searching -/

/-- What a pattern takes at the leftmost spot that has a way is found. -/
theorem find?_of_takes (hp : p.isSteady = true) {before : List Char}
    (hbefore : Dead p (startOf (before ++ text ++ rest)) before.length) (h : Takes p text rest pieces) :
    p.find? (before ++ text ++ rest) =
      some ⟨⟨before.length, before.length + text.length⟩, pieces before.length⟩ := by
  have hstart : (startOf (before ++ text ++ rest)).rest = before ++ (text ++ rest) := List.append_assoc before text rest
  have hindex := (Spot.index_skip_append hstart).trans (Nat.zero_add _)
  have hlength : before.length ≤ (before ++ text ++ rest).length := Spot.length_le_of_append hstart
  obtain ⟨o, ho, -, hend, hclosed⟩ := h _ (Spot.rest_skip_append hstart)
  rw [find?_eq_some hp hlength hbefore ho, matchTo, hend, hclosed, hindex, Spot.groups_skip]
  exact congrArg some (congrArg _ (List.append_nil _))

end XmlDiagnostics.Pattern
