import XmlDiagnostics.Proofs.NamespaceScan.Assigned
import XmlDiagnostics.Proofs.NamespaceScan.PlainTag

/-! # The declaration in a tag

In what stands behind the name of a plain tag, the pattern of a declaration has no way but at the last blank before the key
that declares the namespace of the tag's name (`undeclared_print`). So it finds that declaration, with the value as it is
written, and nothing if there is none (`find?_scopePattern`). -/

namespace XmlDiagnostics.NamespaceScan

open Pattern Automaton Markup Text

/-! ### The pattern -/

/-- The key that declares the namespace for a name, or the default one. -/
def declarationKey : Option (List Char) → List Char
  | some name => "xmlns:".toList ++ name
  | none => "xmlns".toList

theorem declarationKey_none : declarationKey none = "xmlns".toList := rfl

theorem declarationKey_some (name : List Char) : declarationKey (some name) = "xmlns:".toList ++ name := rfl

/-- A declaration without the blank before it. -/
def keyedPattern (space : Option (List Char)) : Pattern :=
  seq (literal (declarationKey space)) (seq (valuePattern 1) empty)

variable {space : Option (List Char)} {s : Spot} {text rest : List Char}

theorem scopePattern_eq (space : Option (List Char)) :
    scopePattern space = seq (alt (anchor .textStart) (one .blank)) (keyedPattern space) := by
  cases space <;> rfl

theorem isSteady_scopePattern (space : Option (List Char)) : (scopePattern space).isSteady = true := by
  have hvalue : (seq (valuePattern 1) empty).isSteady = true := rfl
  rw [scopePattern_eq, keyedPattern, isSteady, isSteady, isSteady_literal, hvalue]
  rfl

theorem prefix_declarationKey (space : Option (List Char)) : "xmlns".toList <+: declarationKey space := by
  cases space with
  | none => exact List.prefix_rfl
  | some name => exact ⟨':' :: name, rfl⟩

/-- The beginning of a text is no place for a declaration. -/
def Inside (s : Spot) : Prop := s.before ≠ none ∨ ¬"xmlns".toList <+: s.rest

theorem Inside.skip (h : Inside s) (n : Nat) : Inside (s.skip n) := by
  induction n generalizing s with
  | zero => exact h
  | succ n ih =>
      cases hrest : s.rest with
      | nil => rwa [Spot.skip_nil hrest]
      | cons c rest =>
          rw [Spot.skip_cons hrest]
          exact ih (.inl (Option.some_ne_none c))

/-- Inside of a text a declaration has a blank before it. -/
theorem ways_scopePattern (h : Inside s) :
    (scopePattern space).ways s = ((one .blank).ways s).flatMap (keyedPattern space).ways := by
  have hstart : ((anchor .textStart).ways s).flatMap (keyedPattern space).ways = [] := by
    rw [ways]
    split
    · rename_i hnone
      have hbefore : ¬s.before ≠ none := fun hne => hne (Option.isNone_iff_eq_none.mp hnone)
      have hno := h.resolve_left hbefore
      rw [List.flatMap_singleton, keyedPattern, ways_seq, ways_literal_eq_nil, List.flatMap_nil]
      exact fun hprefix => hno ((prefix_declarationKey space).trans hprefix)
    · rfl
  have hways : (alt (anchor .textStart) (one .blank)).ways s = (anchor .textStart).ways s ++ (one .blank).ways s := rfl
  rw [scopePattern_eq, ways_seq, hways, List.flatMap_append, hstart, List.nil_append]

theorem refuses_keyedPattern (h : ¬declarationKey space <+: text) : Refuses (keyedPattern space) text :=
  refuses_literal h _

/-- Where no blank has a declaration behind it there is no way. -/
theorem ways_scopePattern_eq_nil (h : Inside s)
    (hrefuses : ∀ c rest, s.rest = c :: rest → isBlank c = true → Refuses (keyedPattern space) rest) :
    (scopePattern space).ways s = [] := by
  rw [ways_scopePattern h]
  by_cases hblank : ∃ c, s.rest.head? = some c ∧ isBlank c = true
  · obtain ⟨c, hhead, hc⟩ := hblank
    obtain ⟨rest, hrest⟩ := List.head?_eq_some_iff.mp hhead
    have hone : (one .blank).ways s = [s.skip 1] := ways_one_of_contains hhead hc
    rw [hone, List.flatMap_singleton]
    exact hrefuses c rest hrest hc _ (Spot.rest_skip_cons hrest)
  · rw [ways_one_eq_nil, List.flatMap_nil]
    intro c hhead
    rw [← Bool.not_eq_true]
    exact fun hc => hblank ⟨c, hhead, hc⟩

/-! ### Pieces without declarations -/

/-- In a text with `rest` behind it no declaration begins. -/
def Undeclared (space : Option (List Char)) (text rest : List Char) : Prop :=
  ∀ s, Inside s → s.rest = text ++ rest → Dead (scopePattern space) s text.length

theorem undeclared_nil : Undeclared space [] rest := fun _ _ _ => dead_zero

theorem Undeclared.append {more : List Char} (h : Undeclared space text (more ++ rest)) (h' : Undeclared space more rest) :
    Undeclared space (text ++ more) rest := by
  intro s hs hrest
  rw [List.append_assoc] at hrest
  rw [List.length_append]
  exact (h s hs hrest).append (h' _ (hs.skip _) (Spot.rest_skip_append hrest))

/-- A blank is no place for a declaration if none can follow. -/
theorem undeclared_singleton (h : Refuses (keyedPattern space) rest) (c : Char) : Undeclared space [c] rest := by
  intro s hs hrest k hk
  obtain rfl : k = 0 := Nat.lt_one_iff.mp hk
  refine ways_scopePattern_eq_nil hs fun c' more hmore _ => ?_
  obtain ⟨-, rfl⟩ := List.cons.inj (hrest.symm.trans hmore)
  exact h

theorem undeclared_of_not_isBlank (htext : ∀ c ∈ text, isBlank c = false) : Undeclared space text rest := by
  intro s hs hrest k hk
  refine ways_scopePattern_eq_nil (hs.skip k) fun c more hmore hc => ?_
  rw [Spot.rest_skip, hrest, List.drop_append_of_le_length hk.le, List.drop_eq_getElem_cons hk] at hmore
  obtain ⟨rfl, -⟩ := List.cons.inj hmore
  rw [htext _ (List.getElem_mem hk)] at hc
  cases hc

/-- Between separators no declaration begins. -/
theorem undeclared_of_all_isSeparator (htext : text.all isSeparator = true) (hhead : ∀ c, rest.head? = some c → c ≠ 'x') :
    Undeclared space text rest := by
  intro s hs hrest k hk
  refine ways_scopePattern_eq_nil (hs.skip k) fun c more hmore hc => refuses_keyedPattern fun hprefix => ?_
  obtain ⟨name, hname⟩ := (prefix_declarationKey space).trans hprefix
  rw [Spot.rest_skip, hrest, List.drop_append_of_le_length hk.le, List.drop_eq_getElem_cons hk] at hmore
  obtain ⟨-, rfl⟩ := List.cons.inj hmore
  cases hdrop : text.drop (k + 1) with
  | nil =>
      rw [hdrop] at hname
      exact hhead 'x' (congrArg List.head? hname.symm) rfl
  | cons d more =>
      rw [hdrop] at hname
      obtain rfl : 'x' = d := (List.cons.inj hname).1
      have hmem : 'x' ∈ text := List.mem_of_mem_drop (hdrop ▸ List.mem_cons_self)
      cases List.all_eq_true.mp htext 'x' hmem

/-- In a value without anything that looks like a declaration none begins, nor across the mark behind it. -/
theorem undeclared_of_behind {quote : Char} (htext : behind isBlank opensNoDeclaration text = true)
    (hquote : quote ∉ "xmlns".toList) : Undeclared space text (quote :: rest) := by
  intro s hs hrest k hk
  obtain ⟨c, more, hdrop, hkind⟩ := exists_drop_of_behind htext hk
  refine ways_scopePattern_eq_nil (hs.skip k) fun c' more' hmore hc => refuses_keyedPattern fun hprefix => ?_
  rw [Spot.rest_skip, hrest, List.drop_append_of_le_length hk.le, hdrop, List.cons_append] at hmore
  obtain ⟨rfl, rfl⟩ := List.cons.inj hmore
  have hno := hkind hc
  rw [opensNoDeclaration, Bool.not_eq_true', ← Bool.not_eq_true, List.isPrefixOf_iff_prefix] at hno
  have hmark : more ++ [quote] <+: more ++ quote :: rest := ⟨rest, by simp⟩
  rcases List.prefix_or_prefix_of_prefix ((prefix_declarationKey space).trans hprefix) hmark with hshort | hlong
  · rcases List.prefix_concat_iff.mp hshort with heq | hmore
    · exact hquote (heq ▸ List.mem_append_right _ List.mem_cons_self)
    · exact hno hmore
  · exact hquote (hlong.subset (List.mem_append_right _ List.mem_cons_self))

/-! ### Attributes -/

theorem isMark_char (quote : Quote) : isMark quote.char = true := by cases quote <;> rfl

/-- Behind its key an attribute is an assignment. -/
def PlainAttribute.assignment (a : PlainAttribute) : Assignment where
  beforeSign := a.beforeSign
  afterSign := a.afterSign
  opening := a.quote.char
  value := a.raw
  closing := a.quote.char
  all_isBlank_beforeSign := all_isBlank_of_all_isSeparator a.all_isSeparator_beforeSign
  all_isBlank_afterSign := all_isBlank_of_all_isSeparator a.all_isSeparator_afterSign
  isMark_opening := isMark_char a.quote
  isMark_closing := isMark_char a.quote
  not_isMark_value := by
    intro c hc
    rw [← Bool.not_eq_true, isMark_iff]
    exact fun hmem => a.not_mem_raw (List.mem_append_right ['<', '>'] hmem) hc

theorem PlainAttribute.print_assignment (a : PlainAttribute) : a.assignment.print = a.afterKey := by
  simp [Assignment.print, Assignment.head, assignment, afterKey]

theorem PlainAttribute.length_head_assignment (a : PlainAttribute) :
    a.assignment.head.length = a.beforeSign.length + 1 + a.afterSign.length + 1 := by
  simp only [Assignment.head, assignment, List.length_append, List.length_cons, List.length_nil]
  omega

/-- What is behind the key is taken with its value as the group. -/
theorem takes_afterKey (a : PlainAttribute) (rest : List Char) :
    Takes (valuePattern 1) a.afterKey rest fun index =>
      [(1, ⟨index + a.beforeSign.length + 1 + a.afterSign.length + 1,
        index + a.beforeSign.length + 1 + a.afterSign.length + 1 + a.raw.length⟩)] := by
  have htakes := takes_valuePattern a.assignment rest
  rw [a.print_assignment] at htakes
  refine htakes.congr fun index => ?_
  rw [a.length_head_assignment]
  simp only [← Nat.add_assoc, PlainAttribute.assignment]

/-- A declaration is taken with the blank before it. -/
theorem takes_scopePattern {blank : Char} (hblank : isSeparator blank = true) (a : PlainAttribute)
    (hkey : a.key = declarationKey space) (rest : List Char) :
    Takes (scopePattern space) (blank :: (a.key ++ a.afterKey)) rest fun index =>
      let start := index + 1 + a.key.length + a.beforeSign.length + 1 + a.afterSign.length + 1
      [(1, ⟨start, start + a.raw.length⟩)] := by
  have hliteral : Skips (literal (declarationKey space)) a.key (a.afterKey ++ [] ++ rest) := hkey ▸ skips_literal a.key _
  have hkeyed := hliteral.takes.seq ((takes_afterKey a _).seq (skips_empty rest).takes)
  rw [List.append_nil] at hkeyed
  intro s hs
  have hinside : Inside s := by
    right
    rw [hs]
    rintro ⟨more, hmore⟩
    obtain rfl : 'x' = blank := (List.cons.inj hmore).1
    cases hblank
  have hone : (one .blank).ways s = [s.skip 1] :=
    ways_one_of_contains (by rw [hs]; rfl) (isBlank_of_isSeparator hblank)
  have hindex : (s.skip 1).index = s.index + 1 := Spot.index_skip (by rw [hs]; exact Nat.succ_pos _)
  obtain ⟨o, ho, hrest, hend, hclosed⟩ := hkeyed _ (Spot.rest_skip_cons hs)
  rw [hindex] at hend hclosed
  rw [Spot.groups_skip] at hclosed
  rw [ways_scopePattern hinside, hone, List.flatMap_singleton]
  exact ⟨o, ho, hrest, by rw [hend, List.length_cons]; omega, hclosed⟩

/-- A value begins with a blank or an equals sign. -/
theorem refuses_valuePattern (h : ∀ c, text.head? = some c → isBlank c = false ∧ c ≠ '=') :
    Refuses (valuePattern 1) text := by
  intro s hs
  have hvalue : valuePattern 1 = seq (anyOf .blank) (seq (char '=') (sequence [anyOf .blank, Pattern.quote,
    group 1 (anyOf (.complement (.ofList ['"', '\'']))), Pattern.quote])) := rfl
  rw [hvalue, ways_anyOf_seq]
  · have hrun : s.run .blank = 0 := Spot.run_of_append (a := []) hs (fun c hc => by cases hc) fun c hc => (h c hc).1
    rw [hrun, Spot.skip_zero]
    exact refuses_char (fun hc => (h '=' hc).2 rfl) _ s hs
  · intro t c hc hblank
    refine refuses_char (fun heq => ?_) _ t rfl
    obtain rfl := Option.some.inj (hc.symm.trans heq)
    cases hblank

/-- No separator and no equals sign is in the key of a declaration for a plain name. -/
theorem not_mem_declarationKey (hspace : ∀ name, space = some name → isPlainName name = true) {sign : Char}
    (hsign : sign ∈ [' ', '\t', '\r', '\n', '=']) : sign ∉ declarationKey space := by
  have hfixed : sign ∉ "xmlns:".toList ∧ sign ∉ "xmlns".toList ∧ sign ∈ signs := by
    simp only [List.mem_cons, List.not_mem_nil, or_false] at hsign
    rcases hsign with rfl | rfl | rfl | rfl | rfl <;> decide
  obtain ⟨hmark, hdefault, hsigns⟩ := hfixed
  cases space with
  | none => exact hdefault
  | some name =>
      intro hmem
      rcases List.mem_append.mp hmem with hmem | hmem
      · exact hmark hmem
      · exact not_mem_of_isPlainName (hspace name rfl) hsigns hmem

/-- Behind its key an attribute goes on with a separator or an equals sign. -/
theorem exists_afterKey_eq_cons (a : PlainAttribute) :
    ∃ c more, a.afterKey = c :: more ∧ c ∈ [' ', '\t', '\r', '\n', '='] := by
  unfold PlainAttribute.afterKey
  cases hbefore : a.beforeSign with
  | nil => exact ⟨'=', _, rfl, by decide⟩
  | cons c before =>
      have hc : isSeparator c = true := List.all_eq_true.mp a.all_isSeparator_beforeSign c (hbefore ▸ List.mem_cons_self)
      refine ⟨c, _, rfl, ?_⟩
      simp only [isSeparator, Bool.or_eq_true, decide_eq_true_eq] at hc
      rcases hc with ((rfl | rfl) | rfl) | rfl <;> decide

/-- An attribute with another key is no declaration. -/
theorem refuses_otherKey (hspace : ∀ name, space = some name → isPlainName name = true) (a : PlainAttribute)
    (hkey : a.key ≠ declarationKey space) (rest : List Char) :
    Refuses (keyedPattern space) (a.key ++ a.afterKey ++ rest) := by
  by_cases hprefix : declarationKey space <+: a.key ++ a.afterKey ++ rest
  · obtain ⟨c, more, hafter, hc⟩ := exists_afterKey_eq_cons a
    have hstart : a.key ++ [c] <+: a.key ++ a.afterKey ++ rest := ⟨more ++ rest, by rw [hafter]; simp⟩
    have hwithin : declarationKey space <+: a.key := by
      rcases List.prefix_or_prefix_of_prefix hprefix hstart with hshort | hlong
      · rcases List.prefix_concat_iff.mp hshort with heq | hwithin
        · exact absurd (heq ▸ List.mem_append_right _ List.mem_cons_self) (not_mem_declarationKey hspace hc)
        · exact hwithin
      · exact absurd (hlong.subset (List.mem_append_right _ List.mem_cons_self)) (not_mem_declarationKey hspace hc)
    obtain ⟨more, hmore⟩ := hwithin
    have hvalue : Refuses (valuePattern 1) (more ++ (a.afterKey ++ rest)) := by
      refine refuses_valuePattern fun d hd => ?_
      cases more with
      | nil => exact absurd (by rw [← hmore, List.append_nil]) hkey
      | cons e more =>
          obtain rfl := Option.some.inj hd
          have hmem : e ∈ a.key := hmore ▸ List.mem_append_right _ List.mem_cons_self
          have hplain := isPlainKeyChar_iff.mp (List.all_eq_true.mp a.all_isPlainKeyChar e hmem)
          exact ⟨hplain.1, fun heq => hplain.2 (by rw [heq]; decide)⟩
    intro s hs
    have hrest : s.rest = declarationKey space ++ (more ++ (a.afterKey ++ rest)) := by
      rw [hs, ← hmore]
      simp
    rw [keyedPattern, ways_seq, ways_literal_append hrest, List.flatMap_singleton, ways_seq,
      hvalue _ (Spot.rest_skip_append hrest), List.flatMap_nil]
  · exact refuses_keyedPattern hprefix

/-- Behind the blanks before an attribute no declaration begins in it. -/
theorem undeclared_keyed (a : PlainAttribute) (rest : List Char) : Undeclared space (a.key ++ a.afterKey) rest := by
  have hquote : isBlank a.quote.char = false ∧ a.quote.char ≠ 'x' ∧ a.quote.char ∉ "xmlns".toList := by
    cases a.quote <;> decide
  have hmark : ∀ rest, Undeclared space [a.quote.char] rest := fun rest =>
    undeclared_of_not_isBlank fun c hc => List.mem_singleton.mp hc ▸ hquote.1
  have hsign : ∀ rest, Undeclared space ['='] rest := fun rest =>
    undeclared_of_not_isBlank fun c hc => List.mem_singleton.mp hc ▸ rfl
  have hkey : ∀ rest, Undeclared space a.key rest := fun rest => undeclared_of_not_isBlank fun c hc =>
    (isPlainKeyChar_iff.mp (List.all_eq_true.mp a.all_isPlainKeyChar c hc)).1
  have hvalue : Undeclared space a.raw ([a.quote.char] ++ rest) := undeclared_of_behind a.declaresNothing hquote.2.2
  have hafter : ∀ more, Undeclared space a.afterSign ([a.quote.char] ++ more ++ rest) := fun more =>
    undeclared_of_all_isSeparator a.all_isSeparator_afterSign fun c hc => Option.some.inj hc ▸ hquote.2.1
  have hbefore : ∀ more, Undeclared space a.beforeSign (['='] ++ more ++ rest) := fun more =>
    undeclared_of_all_isSeparator a.all_isSeparator_beforeSign fun c hc => Option.some.inj hc ▸ by decide
  have hquoted := (hmark _).append (hvalue.append (hmark rest))
  exact (hkey _).append ((hbefore _).append ((hsign _).append ((hafter _).append hquoted)))

/-- The blanks before an attribute but the last one, and the last one. -/
theorem exists_blanks_concat (a : PlainAttribute) : ∃ blanks blank, a.blanks = blanks ++ [blank] ∧
    blanks.all isSeparator = true ∧ isSeparator blank = true ∧ blank ≠ 'x' := by
  obtain ⟨blanks, blank, hblanks, hall, hblank⟩ := exists_concat_of_all a.blanks_ne_nil a.all_isSeparator_blanks
  refine ⟨blanks, blank, hblanks, hall, hblank, ?_⟩
  rintro rfl
  cases hblank

/-- An attribute with another key has no declaration in it. -/
theorem undeclared_print (hspace : ∀ name, space = some name → isPlainName name = true) (a : PlainAttribute)
    (hkey : a.key ≠ declarationKey space) (rest : List Char) : Undeclared space a.print rest := by
  obtain ⟨blanks, blank, hblanks, hall, -, hx⟩ := exists_blanks_concat a
  have hlast : Undeclared space [blank] (a.key ++ a.afterKey ++ rest) :=
    undeclared_singleton (refuses_otherKey hspace a hkey rest) blank
  have hfirst : Undeclared space blanks ([blank] ++ (a.key ++ a.afterKey) ++ rest) :=
    undeclared_of_all_isSeparator hall fun c hc => Option.some.inj hc ▸ hx
  rw [PlainAttribute.print, hblanks, List.append_assoc]
  exact hfirst.append (hlast.append (undeclared_keyed a rest))

theorem undeclared_flatMap (hspace : ∀ name, space = some name → isPlainName name = true) {attributes : List PlainAttribute}
    (hkeys : ∀ a ∈ attributes, a.key ≠ declarationKey space) (rest : List Char) :
    Undeclared space (attributes.flatMap PlainAttribute.print) rest := by
  induction attributes with
  | nil => exact undeclared_nil
  | cons a attributes ih =>
      obtain ⟨hkey, hkeys⟩ := List.forall_mem_cons.mp hkeys
      exact (undeclared_print hspace a hkey _).append (ih hkeys)

/-! ### Tags -/

variable (tag : PlainTag) {slash : List Char}

/-- What stands behind the name of a tag does not begin with a declaration. -/
theorem inside_startOf_afterName (hslash : slash = [] ∨ slash = ['/']) : Inside (startOf (tag.afterName ++ slash)) := by
  right
  rintro ⟨more, hmore⟩
  have hhead : (tag.afterName ++ slash).head? = some 'x' := congrArg List.head? hmore.symm
  rw [List.head?_append] at hhead
  rcases Option.or_eq_some_iff.mp hhead with hafter | ⟨-, hafter⟩
  · cases tag.isSeparator_of_head?_afterName hafter
  · rcases hslash with rfl | rfl <;> cases hafter

/-- Nothing in a tag declares a namespace for its name. -/
theorem find?_scopePattern_eq_none (hslash : slash = [] ∨ slash = ['/'])
    (hkeys : ∀ a ∈ tag.attributes, a.key ≠ declarationKey tag.space) :
    (scopePattern tag.space).find? (tag.afterName ++ slash) = none := by
  have hending : Undeclared tag.space tag.ending (slash ++ []) := by
    refine undeclared_of_all_isSeparator tag.all_isSeparator_ending fun c hc => ?_
    rcases hslash with rfl | rfl
    · cases hc
    · exact Option.some.inj hc ▸ by decide
  have hclose : Undeclared tag.space slash [] := by
    refine undeclared_of_not_isBlank fun c hc => ?_
    rcases hslash with rfl | rfl
    · cases hc
    · exact List.mem_singleton.mp hc ▸ rfl
  have hall := ((undeclared_flatMap tag.isPlainName_space hkeys _).append hending).append hclose
  have hinside := inside_startOf_afterName tag hslash
  have hdead := hall _ hinside (List.append_nil _).symm
  refine find?_eq_none (isSteady_scopePattern tag.space) fun n hn => ?_
  rcases Nat.lt_or_eq_of_le hn with hlt | rfl
  · exact hdead n hlt
  · refine ways_scopePattern_eq_nil (hinside.skip _) fun c rest hrest => ?_
    rw [Spot.rest_skip] at hrest
    cases (List.drop_length).symm.trans hrest

/-- The first attribute with the key is found. -/
theorem groupText?_scopePattern {before after : List PlainAttribute} {a : PlainAttribute}
    (hattributes : tag.attributes = before ++ a :: after) (hbefore : ∀ b ∈ before, b.key ≠ declarationKey tag.space)
    (hkey : a.key = declarationKey tag.space) (hslash : slash = [] ∨ slash = ['/']) :
    ∃ m, (scopePattern tag.space).find? (tag.afterName ++ slash) = some m ∧
      m.groupText? (tag.afterName ++ slash).toArray 1 = some a.raw := by
  obtain ⟨blanks, blank, hblanks, hall, hblank, hx⟩ := exists_blanks_concat a
  obtain ⟨skipped, hskipped⟩ : ∃ skipped, skipped = before.flatMap PlainAttribute.print ++ blanks := ⟨_, rfl⟩
  obtain ⟨rest, hrest⟩ : ∃ rest, rest = after.flatMap PlainAttribute.print ++ tag.ending ++ slash := ⟨_, rfl⟩
  have htext : tag.afterName ++ slash = skipped ++ (blank :: (a.key ++ a.afterKey)) ++ rest := by
    simp [PlainTag.afterName, hattributes, PlainAttribute.print, hblanks, hskipped, hrest]
  have hdead : Undeclared tag.space skipped (blank :: (a.key ++ a.afterKey) ++ rest) := by
    rw [hskipped]
    refine (undeclared_flatMap tag.isPlainName_space hbefore _).append (undeclared_of_all_isSeparator hall fun c hc => ?_)
    exact Option.some.inj hc ▸ hx
  have hfound := find?_of_takes (isSteady_scopePattern tag.space)
    (hdead _ (htext ▸ inside_startOf_afterName tag hslash) (List.append_assoc _ _ _)) (takes_scopePattern hblank a hkey rest)
  refine ⟨_, htext ▸ hfound, ?_⟩
  simp only [Match.groupText?, Match.group?]
  refine congrArg some (Piece.of_eq (a := skipped ++ blank :: (a.key ++ (a.beforeSign ++ '=' ::
    (a.afterSign ++ [a.quote.char])))) (c := a.quote.char :: rest) ?_ ?_ rfl)
  · rw [htext, PlainAttribute.afterKey]
    simp
  · simp
    omega

/-- **The declaration in a tag.** The pattern of a declaration finds the attribute that declares the namespace for the name
of a plain tag, and nothing if there is none. -/
theorem find?_scopePattern (hslash : slash = [] ∨ slash = ['/']) :
    (((scopePattern tag.space).find? (tag.afterName ++ slash)).bind fun m =>
      m.groupText? (tag.afterName ++ slash).toArray 1) =
      (tag.attributes.find? fun a => a.key = declarationKey tag.space).map PlainAttribute.raw := by
  cases hfind : tag.attributes.find? fun a => decide (a.key = declarationKey tag.space) with
  | none =>
      rw [find?_scopePattern_eq_none tag hslash (by simpa using hfind)]
      rfl
  | some a =>
      obtain ⟨hkey, before, after, hattributes, hbefore⟩ := List.find?_eq_some_iff_append.mp hfind
      obtain ⟨m, hm, hgroup⟩ := groupText?_scopePattern tag hattributes (by simpa using hbefore) (by simpa using hkey) hslash
      rw [hm]
      exact hgroup

end XmlDiagnostics.NamespaceScan
