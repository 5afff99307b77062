import XmlDiagnostics.Proofs.NamespaceScan.Prolog

/-! # The first start tag

The pattern of a start tag takes the first bracket with a letter or low line behind it. Where the name in the tag is
plain, one group takes all of it, or one the part before its colon and another the part behind it; a last group takes
what stands between the name and the next closing bracket (`exists_find?_startTagPattern`). -/

namespace XmlDiagnostics.NamespaceScan

open Pattern Automaton

/-! ### Names -/

/-- Whether a text is a name without a colon that the pattern of a start tag takes as a whole. -/
def isPlainName : List Char → Bool
  | [] => false
  | c :: rest => nameStart.contains c && rest.all nameRest.contains

/-- A name as it is written, with the part before its colon if it has one. -/
def writtenName (space : Option (List Char)) (localName : List Char) : List Char :=
  match space with
  | none => localName
  | some space => space ++ ':' :: localName

theorem namePattern_eq : namePattern = seq (one nameStart) (anyOf nameRest) := rfl

theorem startTagPattern_eq : startTagPattern = seq (char '<') (seq (group 1 namePattern)
    (seq (optional (seq (char ':') (group 2 namePattern))) (seq (group 3 (anyOf (.complement (.single '>'))))
      (seq (char '>') empty)))) := rfl

theorem isSteady_startTagPattern : startTagPattern.isSteady = true := rfl

variable {s : Spot} {name more rest : List Char}

/-- A plain name is taken up to the first character that cannot belong to it. -/
theorem skips_namePattern (hname : isPlainName name = true) (hrest : ∀ c, rest.head? = some c → nameRest.contains c = false) :
    Skips namePattern name rest := by
  cases name with
  | nil => cases hname
  | cons c name =>
      obtain ⟨hc, hall⟩ := Bool.and_eq_true_iff.mp hname
      exact (skips_one hc _).seq (skips_anyOf (List.all_eq_true.mp hall) hrest)

/-! ### Tags -/

/-- Without a bracket, or without the beginning of a name behind it, there is no start tag. -/
theorem refuses_startTagPattern {text : List Char} (h : ∀ rest, text = '<' :: rest → opensNoTag rest = true) :
    Refuses startTagPattern text := by
  rw [startTagPattern_eq]
  by_cases hhead : text.head? = some '<'
  · obtain ⟨rest, rfl⟩ := List.head?_eq_some_iff.mp hhead
    have hopens := h rest rfl
    intro s hs
    have hnext := Spot.rest_skip_cons hs
    have hname : namePattern.ways ((s.skip 1).pass ⟨1, false⟩) = [] := by
      rw [namePattern_eq, ways_seq, ways_one_eq_nil, List.flatMap_nil]
      intro c hc
      obtain ⟨more, rfl⟩ := List.head?_eq_some_iff.mp (hnext ▸ hc)
      simpa [opensNoTag] using hopens
    rw [ways_seq, ways_char_of_head? (by rw [hs]; rfl), List.flatMap_singleton, ways_seq, ways, hname]
    rfl
  · exact refuses_char hhead _

/-- A calm text has nothing that looks like a start tag, whatever stands behind it. -/
theorem dead_startTagPattern {before : List Char} (hcalm : behind opensMarkup opensNoTag before = true)
    (hrest : s.rest = before ++ rest) : Dead startTagPattern s before.length := by
  intro k hk
  obtain ⟨c, more, hdrop, hkind⟩ := exists_drop_of_behind hcalm hk
  have htext : (s.skip k).rest = c :: (more ++ rest) := by
    rw [Spot.rest_skip, hrest, List.drop_append_of_le_length hk.le, hdrop, List.cons_append]
  refine refuses_startTagPattern (fun rest' heq => ?_) _ htext
  obtain ⟨rfl, rfl⟩ := List.cons.inj heq
  have hmore := hkind rfl
  cases more with
  | nil => cases hmore
  | cons d more => exact hmore

/-- From behind its name a tag reaches to the next closing bracket. -/
theorem takes_tagRest (hmore : '>' ∉ more) (rest : List Char) :
    Takes (seq (group 3 (anyOf (.complement (.single '>')))) (seq (char '>') empty)) (more ++ ['>']) rest
      fun index => [(3, ⟨index, index + more.length⟩)] := by
  have hrun : Skips (anyOf (.complement (.single '>'))) more ('>' :: rest) := by
    refine skips_anyOf (fun c hc => ?_) fun c hc => ?_
    · rw [CharSet.contains, Bool.not_eq_true', ← Bool.not_eq_true, CharSet.contains_single]
      exact fun heq => hmore (heq ▸ hc)
    · obtain rfl := Option.some.inj hc
      rfl
  exact (hrun.group 3).seq ((skips_char '>' _).seq (skips_empty _)).takes

/-- What stands behind a name can end it, and is no colon. -/
def EndsName (more : List Char) : Prop := ∀ c, more.head? = some c → c ≠ ':' ∧ nameRest.contains c = false

theorem EndsName.append_close (h : EndsName more) (rest : List Char) : EndsName (more ++ '>' :: rest) := by
  cases more with
  | nil =>
      intro c hc
      obtain rfl := Option.some.inj hc
      exact ⟨by decide, by decide +kernel⟩
  | cons d more => exact h

/-- The pieces that the groups take in a start tag whose name begins at an index. -/
def tagPieces (localName more : List Char) (index : Nat) : Option (List Char) → List (Nat × Piece)
  | none =>
    let stop := index + localName.length
    [(3, ⟨stop, stop + more.length⟩), (1, ⟨index, stop⟩)]
  | some space =>
    let colon := index + space.length
    let stop := colon + 1 + localName.length
    [(3, ⟨stop, stop + more.length⟩), (2, ⟨colon + 1, stop⟩), (1, ⟨index, colon⟩)]

/-- A start tag is taken up to its first closing bracket, with the parts of its name in groups. -/
theorem takes_startTagPattern {space : Option (List Char)} {localName : List Char}
    (hspace : ∀ name, space = some name → isPlainName name = true) (hlocal : isPlainName localName = true)
    (hend : EndsName more) (hmore : '>' ∉ more) (rest : List Char) :
    Takes startTagPattern ('<' :: (writtenName space localName ++ (more ++ ['>']))) rest
      fun index => tagPieces localName more (index + 1) space := by
  rw [startTagPattern_eq]
  have hbehind : EndsName (more ++ ['>'] ++ rest) := by
    rw [List.append_assoc]
    exact hend.append_close rest
  have hname : ∀ number, Takes (group number namePattern) localName (more ++ ['>'] ++ rest) _ :=
    (skips_namePattern hlocal fun c hc => (hbehind c hc).2).group
  have hrest := takes_tagRest hmore rest
  have hopen := fun text : List Char => (skips_char '<' text).takes
  cases space with
  | none =>
      have hoption : Skips (optional (seq (char ':') (group 2 namePattern))) [] (more ++ ['>'] ++ rest) :=
        (refuses_char (fun hc => (hbehind ':' hc).1 rfl) _).optional
      exact (hopen _).seq ((hname 1).seq (hoption.takes.seq hrest))
  | some space =>
      have hcolon : Takes (seq (char ':') (group 2 namePattern)) (':' :: localName) (more ++ ['>'] ++ rest) _ :=
        (skips_char ':' _).takes.seq (hname 2)
      have hspace : Skips namePattern space (':' :: localName ++ (more ++ ['>']) ++ rest) := by
        refine skips_namePattern (hspace space rfl) fun c hc => ?_
        obtain rfl := Option.some.inj hc
        decide +kernel
      rw [writtenName, List.append_assoc]
      refine ((hopen _).seq ((hspace.group 1).seq (hcolon.optional.seq hrest))).congr fun index => ?_
      have hstop : index + 1 + space.length + (':' :: localName).length = index + 1 + space.length + 1 + localName.length :=
        Nat.add_right_comm _ localName.length 1
      rw [List.length_singleton, hstop]
      rfl

/-! ### The first tag -/

/-- The pieces that the groups of a start tag take are the parts of its name, and what stands behind its name. -/
theorem groupText?_of_tagPieces {m : Match} {text before : List Char} {space : Option (List Char)} {localName : List Char}
    (htext : text = before ++ '<' :: (writtenName space localName ++ (more ++ ['>'])) ++ rest)
    (hgroups : m.groups = tagPieces localName more (before.length + 1) space) :
    m.groupText? text.toArray 1 = some (space.getD localName) ∧
      m.groupText? text.toArray 2 = space.map (fun _ => localName) ∧ m.groupText? text.toArray 3 = some more := by
  simp only [Match.groupText?, Match.group?, hgroups]
  cases space with
  | none =>
      refine ⟨congrArg some ?_, rfl, congrArg some ?_⟩
      · exact Piece.of_eq (a := before ++ ['<']) (c := more ++ '>' :: rest) (by simp [htext, writtenName]) (by simp) rfl
      · refine Piece.of_eq (a := before ++ '<' :: localName) (c := '>' :: rest) (by simp [htext, writtenName]) ?_ rfl
        simp
        omega
  | some space =>
      refine ⟨congrArg some ?_, congrArg some ?_, congrArg some ?_⟩
      · exact Piece.of_eq (a := before ++ ['<']) (c := ':' :: localName ++ more ++ '>' :: rest) (by simp [htext, writtenName]) (by simp) rfl
      · refine Piece.of_eq (a := before ++ '<' :: (space ++ [':'])) (c := more ++ '>' :: rest) (by simp [htext, writtenName]) ?_ rfl
        simp
        omega
      · refine Piece.of_eq (a := before ++ '<' :: (space ++ ':' :: localName)) (c := '>' :: rest) (by simp [htext, writtenName]) ?_ rfl
        simp
        omega

/-- **The first start tag.** The text before it is calm, so it is what a search finds, and its groups are known. -/
theorem exists_find?_startTagPattern {before : List Char} {space : Option (List Char)} {localName : List Char}
    (hcalm : behind opensMarkup opensNoTag before = true)
    (hspace : ∀ name, space = some name → isPlainName name = true) (hlocal : isPlainName localName = true)
    (hend : EndsName more) (hmore : '>' ∉ more) {text : List Char}
    (htext : text = before ++ '<' :: (writtenName space localName ++ (more ++ ['>'])) ++ rest) :
    ∃ m, startTagPattern.find? text = some m ∧ m.groupText? text.toArray 1 = some (space.getD localName) ∧
      m.groupText? text.toArray 2 = space.map (fun _ => localName) ∧ m.groupText? text.toArray 3 = some more := by
  have hdead := dead_startTagPattern (s := startOf text) hcalm (by rw [htext, List.append_assoc]; rfl)
  have htakes := takes_startTagPattern hspace hlocal hend hmore rest
  exact ⟨_, htext ▸ find?_of_takes isSteady_startTagPattern (htext ▸ hdead) htakes, groupText?_of_tagPieces htext rfl⟩

end XmlDiagnostics.NamespaceScan
