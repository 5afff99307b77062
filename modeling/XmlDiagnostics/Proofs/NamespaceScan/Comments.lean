import XmlDiagnostics.NamespaceScan
import XmlDiagnostics.Proofs.Pattern.Taking

/-! # Texts without comments

Before a text is searched for its first element, its comments are taken out. What is taken out begins with `<!--` and
reaches to the next `-->` (`skips_commentPattern`); the rest stays as it is. So where the beginning of a text
consists of comments and of pieces in which no comment begins, the comments go and the pieces stay
(`exists_withoutComments_append`). -/

namespace XmlDiagnostics.NamespaceScan

open Pattern Automaton

/-! ### Pieces of a text -/

/-- Whether a property holds for what follows each character of a kind. -/
def behind (kind : Char → Bool) (p : List Char → Bool) : List Char → Bool
  | [] => true
  | c :: rest => (!kind c || p rest) && behind kind p rest

/-- Whether a character opens markup. -/
def opensMarkup (c : Char) : Bool := c = '<'

/-- Whether what follows an opening angle bracket is enough to tell that no comment begins with it. -/
def opensNoComment : List Char → Bool
  | [] => false
  | '!' :: rest => rest.head?.any (· ≠ '-')
  | _ => true

/-- The signs at the beginning of a comment. -/
def commentStart : List Char := ['<', '!', '-', '-']

/-- The signs at the end of a comment. -/
def commentEnd : List Char := ['-', '-', '>']

/-- The beginning of a text, and what is left of it without comments. -/
inductive Peels : List Char → List Char → Prop
  | nil : Peels [] []
  | piece {piece before left} (hpiece : behind opensMarkup opensNoComment piece = true) (h : Peels before left) :
      Peels (piece ++ before) (piece ++ left)
  | comment {body before left} (hbody : ¬commentEnd <:+: body ++ ['-', '-']) (h : Peels before left) :
      Peels (commentStart ++ body ++ commentEnd ++ before) left

theorem behind_cons {kind : Char → Bool} {p : List Char → Bool} {c : Char} {rest : List Char} :
    behind kind p (c :: rest) = true ↔ (kind c = true → p rest = true) ∧ behind kind p rest = true := by
  rw [behind, Bool.and_eq_true, Bool.or_eq_true, Bool.not_eq_true', ← Bool.not_eq_true, ← Decidable.imp_iff_not_or]

theorem behind_of_forall_not {kind : Char → Bool} {p : List Char → Bool} {text : List Char}
    (h : ∀ c ∈ text, kind c = false) : behind kind p text = true := by
  induction text with
  | nil => rfl
  | cons c text ih =>
      obtain ⟨hc, htext⟩ := List.forall_mem_cons.mp h
      exact behind_cons.mpr ⟨fun hkind => absurd hkind (by rw [hc]; exact Bool.false_ne_true), ih htext⟩

theorem behind_append {kind : Char → Bool} {p : List Char → Bool} {a b : List Char}
    (hp : ∀ text more, p text = true → p (text ++ more) = true) (ha : behind kind p a = true)
    (hb : behind kind p b = true) : behind kind p (a ++ b) = true := by
  induction a with
  | nil => exact hb
  | cons c a ih =>
      obtain ⟨hc, ha⟩ := behind_cons.mp ha
      exact behind_cons.mpr ⟨fun hkind => hp a b (hc hkind), ih ha⟩

/-- The property holds behind a character of the kind, wherever that stands. -/
theorem exists_drop_of_behind {kind : Char → Bool} {p : List Char → Bool} {text : List Char}
    (h : behind kind p text = true) {k : Nat} (hk : k < text.length) :
    ∃ c rest, text.drop k = c :: rest ∧ (kind c = true → p rest = true) := by
  induction text generalizing k with
  | nil => cases hk
  | cons c text ih =>
      obtain ⟨hc, htext⟩ := behind_cons.mp h
      cases k with
      | zero => exact ⟨c, text, rfl, hc⟩
      | succ k => exact ih htext (Nat.lt_of_succ_lt_succ hk)

theorem opensNoComment_cons {c : Char} (h : c ≠ '!') (rest : List Char) : opensNoComment (c :: rest) = true := by
  unfold opensNoComment
  split
  · rename_i hnil
    cases hnil
  · rename_i heq
    exact absurd (List.cons.inj heq).1 h
  · rfl

theorem not_prefix_of_opensNoComment {piece : List Char} (h : opensNoComment piece = true) (rest : List Char) :
    ¬commentStart <+: '<' :: (piece ++ rest) := by
  unfold opensNoComment at h
  split at h
  · cases h
  · rename_i more
    cases more with
    | nil => cases h
    | cons c more =>
        have hc : c ≠ '-' := by simpa using h
        simp [commentStart, List.cons_prefix_cons, hc.symm]
  · rename_i hnil hbang
    cases piece with
    | nil => exact absurd rfl hnil
    | cons c more =>
        have hc : c ≠ '!' := fun hc => hbang more (hc ▸ rfl)
        simp [commentStart, List.cons_prefix_cons, hc.symm]

/-- No comment begins at a piece in which none does. -/
theorem not_prefix_of_behind {c : Char} {piece : List Char}
    (h : behind opensMarkup opensNoComment (c :: piece) = true) (rest : List Char) :
    ¬commentStart <+: c :: (piece ++ rest) := by
  by_cases hc : c = '<'
  · subst hc
    exact not_prefix_of_opensNoComment ((behind_cons.mp h).1 rfl) rest
  · simp [commentStart, List.cons_prefix_cons, Ne.symm hc]

/-! ### Comments -/

theorem isSteady_commentPattern : commentPattern.isSteady = true := rfl

theorem commentPattern_eq : commentPattern = seq (literal commentStart)
    (seq (many (one .all) 0 none false) (seq (literal commentEnd) empty)) := rfl

theorem refuses_commentPattern {text : List Char} (h : ¬commentStart <+: text) : Refuses commentPattern text :=
  refuses_literal h _

/-- A comment is matched up to the first place where it can end. -/
theorem skips_commentPattern {body : List Char} (hbody : ¬commentEnd <:+: body ++ ['-', '-']) (rest : List Char) :
    Skips commentPattern (commentStart ++ body ++ commentEnd) rest := by
  have hbefore : ∀ k < body.length,
      Refuses (seq (literal commentEnd) empty) (body.drop k ++ (commentEnd ++ [] ++ rest)) := by
    refine fun k hk => refuses_literal (fun hprefix => ?_) empty
    have hsplit : body.drop k ++ (commentEnd ++ [] ++ rest) = (body ++ ['-', '-']).drop k ++ '>' :: rest := by
      rw [List.drop_append_of_le_length hk.le]
      simp [commentEnd]
    have hlength : commentEnd.length ≤ ((body ++ ['-', '-']).drop k).length := by
      rw [List.length_drop, List.length_append]
      exact Nat.le_sub_of_add_le (by rw [Nat.add_comm]; exact Nat.add_le_add_right hk 2)
    rw [hsplit] at hprefix
    have hwithin := List.prefix_of_prefix_length_le hprefix (List.prefix_append _ _) hlength
    exact hbody (hwithin.isInfix.trans (List.drop_suffix _ _).isInfix)
  have hend : Skips (seq (literal commentEnd) empty) (commentEnd ++ []) rest := (skips_literal _ _).seq (skips_empty _)
  rw [commentPattern_eq, List.append_assoc]
  exact (skips_literal _ _).seq (List.append_nil commentEnd ▸ hend.lazy (fun c _ => CharSet.contains_all c) hbefore)

/-! ### What is left of a text -/

/-- What is left of the text from a spot on when at most `n` comments are taken out. -/
def strippedFrom (s : Spot) (stops : List Stop) (n : Nat) : List Char :=
  withoutPieces s.index s.rest (Scan.takeMatches ⟨ofPattern commentPattern, stops⟩ n)

variable {s : Spot} {stops : List Stop}

/-- A search from a spot finds a comment that begins there or further right and takes a character. -/
theorem exists_of_search_eq_some (hnoted : Noted (ofPattern commentPattern) s stops) (hgroups : s.groups = {}) {m : Match}
    (hsearch : Scan.search (ofPattern commentPattern) stops = some m) :
    s.index ≤ m.piece.start ∧ m.piece.start < m.piece.stop := by
  rcases search_cases isSteady_commentPattern hnoted hgroups with ⟨k, o, hk, -, hhead, hfound⟩ | ⟨-, hnone⟩
  · obtain rfl := Option.some.inj (hsearch.symm.trans hfound)
    obtain ⟨others, hways⟩ := List.head?_eq_some_iff.mp hhead
    have hlt := index_lt_of_mem_ways (p := commentPattern) rfl (hways ▸ List.mem_cons_self : o ∈ commentPattern.ways (s.skip k))
    exact ⟨by rw [matchTo, Spot.index_skip hk]; exact Nat.le_add_right _ _, hlt⟩
  · rw [hnone] at hsearch
    cases hsearch

/-- A character at which no comment begins stays. -/
theorem strippedFrom_of_ways_eq_nil (hnoted : Noted (ofPattern commentPattern) s stops) (hgroups : s.groups = {}) {c : Char}
    {rest : List Char} (hrest : s.rest = c :: rest) (hways : commentPattern.ways s = []) (n : Nat) :
    strippedFrom s stops n = c :: strippedFrom (s.skip 1) (stops.drop 1) n := by
  have hlength : 1 ≤ s.rest.length := by rw [hrest]; exact Nat.succ_pos _
  have hbehind := Spot.rest_skip_cons hrest
  have hnext := hnoted.drop hlength
  have hindex := Spot.index_skip hlength
  have hsearch : Scan.search (ofPattern commentPattern) stops = Scan.search (ofPattern commentPattern) (stops.drop 1) := by
    have hfirst := first?_of_noted isSteady_commentPattern hnoted hgroups
    obtain ⟨live, more, rfl, -, -⟩ := hnoted.exists_cons
    rw [Scan.search, hfirst, hways]
    rfl
  cases n with
  | zero => rw [strippedFrom, strippedFrom, hrest, hbehind]; rfl
  | succ n =>
      cases hfound : Scan.search (ofPattern commentPattern) (stops.drop 1) with
      | none =>
          rw [strippedFrom, strippedFrom, takeMatches_of_search_eq_none hfound, takeMatches_of_search_eq_none (hsearch.trans hfound),
            hrest, hbehind]
          rfl
      | some m =>
          obtain ⟨hstart, hstop⟩ := exists_of_search_eq_some hnext ((Spot.groups_skip 1 s).trans hgroups) hfound
          rw [hindex] at hstart
          have hdrop : (stops.drop 1).drop (m.piece.stop - (s.skip 1).index) = stops.drop (m.piece.stop - s.index) := by
            rw [List.drop_drop, hindex]
            congr 1
            omega
          rw [strippedFrom, strippedFrom, takeMatches_of_search_eq_some hnoted (hsearch.trans hfound) (Nat.ne_of_gt hstop),
            takeMatches_of_search_eq_some hnext hfound (Nat.ne_of_gt hstop), hdrop, hrest, hbehind, withoutPieces, withoutPieces,
            hindex]
          have htake : m.piece.start - s.index = m.piece.start - (s.index + 1) + 1 := by omega
          have htail : m.piece.stop - s.index = m.piece.stop - (s.index + 1) + 1 := by omega
          rw [htake, htail, List.take_succ_cons, List.drop_succ_cons, List.cons_append]

/-- A comment goes. -/
theorem strippedFrom_of_head?_ways (hnoted : Noted (ofPattern commentPattern) s stops) (hgroups : s.groups = {}) {k : Nat}
    (hk : k ≤ s.rest.length) (hpos : 0 < k) (hways : (commentPattern.ways s).head? = some (s.skip k)) (n : Nat) :
    strippedFrom s stops (n + 1) = strippedFrom (s.skip k) (stops.drop k) n := by
  have hindex := Spot.index_skip hk
  have hsearch : Scan.search (ofPattern commentPattern) stops = some (matchTo s (s.skip k)) := by
    have hfirst := first?_of_noted isSteady_commentPattern hnoted hgroups
    obtain ⟨live, more, rfl, -, -⟩ := hnoted.exists_cons
    rw [Scan.search, hfirst, hways]
    rfl
  have hne : (matchTo s (s.skip k)).piece.stop ≠ (matchTo s (s.skip k)).piece.start := by
    show (s.skip k).index ≠ s.index
    omega
  rw [strippedFrom, strippedFrom, takeMatches_of_search_eq_some hnoted hsearch hne, withoutPieces]
  have hstart : (matchTo s (s.skip k)).piece.start - s.index = 0 := Nat.sub_self _
  have hstop : (matchTo s (s.skip k)).piece.stop - s.index = k := by
    show (s.skip k).index - s.index = k
    omega
  rw [hstart, hstop, List.take_zero, List.nil_append, Spot.rest_skip]
  rfl

/-- A piece in which no comment begins stays. -/
theorem strippedFrom_piece (hnoted : Noted (ofPattern commentPattern) s stops) (hgroups : s.groups = {}) {piece rest : List Char}
    (hrest : s.rest = piece ++ rest) (hpiece : behind opensMarkup opensNoComment piece = true) (n : Nat) :
    strippedFrom s stops n = piece ++ strippedFrom (s.skip piece.length) (stops.drop piece.length) n := by
  induction piece generalizing s stops with
  | nil => rfl
  | cons c piece ih =>
      have hlength : 1 ≤ s.rest.length := by rw [hrest]; exact Nat.succ_pos _
      have hways : commentPattern.ways s = [] :=
        refuses_commentPattern (not_prefix_of_behind hpiece rest) s hrest
      rw [strippedFrom_of_ways_eq_nil hnoted hgroups hrest hways,
        ih (hnoted.drop hlength) ((Spot.groups_skip 1 s).trans hgroups) (Spot.rest_skip_cons hrest) (behind_cons.mp hpiece).2,
        ← Spot.skip_add, List.drop_drop, List.length_cons, Nat.add_comm 1]
      rfl

theorem exists_strippedFrom_append {before left : List Char} (h : Peels before left) {rest : List Char} {n : Nat}
    (hnoted : Noted (ofPattern commentPattern) s stops) (hgroups : s.groups = {}) (hrest : s.rest = before ++ rest)
    (hn : before.length ≤ n) : ∃ more, strippedFrom s stops n = left ++ more := by
  induction h generalizing s stops n with
  | nil => exact ⟨_, rfl⟩
  | @piece piece before left hpiece h ih =>
      rw [List.append_assoc] at hrest
      rw [List.length_append] at hn
      obtain ⟨more, hmore⟩ := ih (n := n) (hnoted.drop (Spot.length_le_of_append hrest))
        ((Spot.groups_skip _ s).trans hgroups) (Spot.rest_skip_append hrest) (by omega)
      exact ⟨more, by rw [strippedFrom_piece hnoted hgroups hrest hpiece, hmore, List.append_assoc]⟩
  | @comment body before left hbody h ih =>
      rw [List.append_assoc] at hrest
      rw [List.length_append] at hn
      have hpos : 0 < (commentStart ++ body ++ commentEnd).length := by
        rw [List.length_append, List.length_append]
        exact Nat.add_pos_right _ (Nat.succ_pos _)
      have hle := Spot.length_le_of_append hrest
      obtain ⟨n, rfl⟩ : ∃ m, n = m + 1 := Nat.exists_eq_add_one.mpr (by omega)
      obtain ⟨more, hmore⟩ := ih (n := n) (hnoted.drop hle) ((Spot.groups_skip _ s).trans hgroups)
        (Spot.rest_skip_append hrest) (by omega)
      exact ⟨more, by rw [strippedFrom_of_head?_ways hnoted hgroups hle hpos (skips_commentPattern hbody _ s hrest), hmore]⟩

/-- **What is left of a text**: its beginning without the comments in it comes first. -/
theorem exists_withoutComments_append {before left : List Char} (h : Peels before left) (rest : List Char) :
    ∃ more, withoutComments (before ++ rest) = left ++ more :=
  exists_strippedFrom_append h (noted_scan_startOf isSteady_commentPattern (before ++ rest)) rfl rfl
    (by rw [List.length_append]; omega)

end XmlDiagnostics.NamespaceScan
