import Mathlib.Data.List.TakeWhile
import XmlDiagnostics.Markup.Token

/-! # What cutting a text gives

`cut` reads one token after the other. The main statements are about all of them together:

* **The tokens cover the text** (`cover_cut`): they stand one after the other from the beginning of the
  text on, each written as `Written` says, between the octets that it remembers.
* **End tags match** (`matched_cut`): an end tag is a token only where a tag is open, and it has the name of the
  innermost one.
* **A flaw is noticed behind the tokens** (`endOf_le_flaw_cut`).

Each follows from one lemma about a single piece of markup, `readMarkup_eq_read`. -/

namespace XmlDiagnostics.Markup

open Text

/-- How a token is written, with `rest` after it. Only end tags and instructions can lack their closing bracket,
and only at the end of the text. -/
inductive Written : Token → List Char → List Char → Prop
  | text {content rest} : Written (.text content) content rest
  | startTag {tag : Tag} {rest} : Written (.startTag tag) ('<' :: tag.content ++ ['>']) rest
  | emptyTag {tag : Tag} {rest} : Written (.emptyTag tag) ('<' :: tag.content ++ ['/', '>']) rest
  | endTag {name blanks close rest} : blanks.all isSeparator → '>' ∉ name ++ blanks →
      (close = ['>'] ∨ close = [] ∧ rest = []) →
      Written (.endTag name) ('<' :: '/' :: name ++ blanks ++ close) rest
  | comment {content rest} : Written (.comment content) ('<' :: content ++ ['>']) rest
  | characterData {content rest} : Written (.characterData content) ('<' :: content ++ ['>']) rest
  | documentType {content rest} : Written (.documentType content) ('<' :: content ++ ['>']) rest
  | instruction {content close rest} : (close = ['>'] ∨ close = [] ∧ rest = []) →
      Written (.instruction content) ('<' :: content ++ close) rest

/-- The tokens stand one after the other at the beginning of a text with `offset` octets before it. -/
def Cover (offset : Nat) : List PlacedToken → List Char → Prop
  | [], _ => True
  | token :: tokens, text => ∃ written rest, text = written ++ rest ∧ Written token.token written rest ∧
      token.start = offset ∧ token.stop = offset + byteLength written ∧ Cover token.stop tokens rest

/-- Every end tag names the innermost open tag, given the names of those that are open before the tokens. -/
def Matched (opened : List (List Char)) : List PlacedToken → Prop
  | [] => True
  | token :: tokens => (∀ name, token.token = .endTag name → opened.head? = some name) ∧
      Matched (openedAfter opened token.token) tokens

/-- The octet at which the last token stops, or `offset` without tokens. -/
def endOf (offset : Nat) : List PlacedToken → Nat
  | [] => offset
  | token :: tokens => endOf token.stop tokens

/-- No token begins before the end of the one before it, or ends before its own beginning. -/
def InOrder (offset : Nat) : List PlacedToken → Prop
  | [] => True
  | token :: tokens => offset ≤ token.start ∧ token.start ≤ token.stop ∧ InOrder token.stop tokens

/-! ### Splitting -/

theorem splitAtClose_eq_some {ends : List Char → Bool} {before text content rest : List Char}
    (h : splitAtClose ends before text = some (content, rest)) : before.reverse ++ text = content ++ '>' :: rest := by
  fun_induction splitAtClose ends before text with
  | case1 => cases h
  | case2 before c text hc =>
      obtain ⟨rfl, rfl⟩ := Prod.mk.inj (Option.some.inj h)
      obtain ⟨rfl, -⟩ : c = '>' ∧ ends before := by simpa using hc
      rfl
  | case3 before c text hc ih => simpa using ih h

theorem splitAtTagEnd_eq_some {quote : Option Char} {before text content rest : List Char}
    (h : splitAtTagEnd quote before text = some (content, rest)) : before.reverse ++ text = content ++ '>' :: rest := by
  fun_induction splitAtTagEnd quote before text with
  | case1 => cases h
  | case2 before c text q ih => simpa using ih h
  | case3 before text =>
      obtain ⟨rfl, rfl⟩ := Prod.mk.inj (Option.some.inj h)
      rfl
  | case4 before c text hc ih => simpa using ih h

theorem splitAtBalance_eq_some {opened : Nat} {before text content rest : List Char}
    (h : splitAtBalance opened before text = some (content, rest)) : before.reverse ++ text = content ++ '>' :: rest := by
  fun_induction splitAtBalance opened before text with
  | case1 => cases h
  | case2 before text =>
      obtain ⟨rfl, rfl⟩ := Prod.mk.inj (Option.some.inj h)
      rfl
  | case3 before text opened ih => simpa using ih h
  | case4 opened before c text hc ih => simpa using ih h

/-- Up to the first closing bracket, or up to the end of the text. -/
theorem splitAtCloseOrEnd_eq {text content rest : List Char} {bracket : Nat}
    (h : splitAtCloseOrEnd text = (content, bracket, rest)) :
    ∃ close, text = content ++ close ++ rest ∧ byteLength close = bracket ∧ '>' ∉ content ∧
      (close = ['>'] ∨ close = [] ∧ rest = []) := by
  have hcontent : '>' ∉ text.takeWhile (· ≠ '>') := fun hmem => by simpa using List.mem_takeWhile_imp hmem
  have htext := List.takeWhile_append_dropWhile (p := (· ≠ '>')) (l := text)
  unfold splitAtCloseOrEnd at h
  split at h
  · rename_i hdrop
    simp only [Prod.mk.injEq] at h
    obtain ⟨rfl, rfl, rfl⟩ := h
    rw [hdrop, List.append_nil] at htext
    rw [htext] at hcontent
    exact ⟨[], by simp, rfl, hcontent, .inr ⟨rfl, rfl⟩⟩
  · rename_i c text' hdrop
    simp only [Prod.mk.injEq] at h
    obtain ⟨rfl, rfl, rfl⟩ := h
    have hc : c = '>' := by
      have := List.head_dropWhile_not (· ≠ '>') (l := text) (by rw [hdrop]; simp)
      simp only [hdrop, List.head_cons] at this
      simpa using this
    subst hc
    rw [hdrop] at htext
    exact ⟨['>'], by simpa using htext.symm, rfl, hcontent, .inl rfl⟩

/-! ### One piece of markup -/

theorem readBang_eq_read {kind : Unfinished} {split : List Char → Option (List Char × List Char)}
    {check : List Char → Option Flaw} {make : List Char → Token} {text rest : List Char} {token : Token} {length : Nat}
    (h : readBang kind split check make text = .read token length rest) :
    ∃ content, split text = some (content, rest) ∧ token = make content ∧ length = byteLength content + 1 := by
  unfold readBang at h
  split at h
  · cases h
  · rename_i content rest' hsplit
    split at h
    · cases h
    · cases h
      exact ⟨content, hsplit, rfl, rfl⟩

/-- What an exclamation mark begins reaches to a closing bracket. -/
theorem written_of_readBang {kind : Unfinished} {split : List Char → Option (List Char × List Char)}
    {check : List Char → Option Flaw} {make : List Char → Token} {text rest : List Char} {token : Token} {length : Nat}
    (hsplit : ∀ content rest, split text = some (content, rest) → text = content ++ '>' :: rest)
    (hmake : ∀ content rest, Written (make content) ('<' :: content ++ ['>']) rest)
    (h : readBang kind split check make text = .read token length rest) :
    ∃ written content, '<' :: text = written ++ rest ∧ byteLength written = 1 + length ∧
      token = make content ∧ Written token written rest := by
  obtain ⟨content, hs, rfl, rfl⟩ := readBang_eq_read h
  refine ⟨'<' :: content ++ ['>'], content, ?_, ?_, rfl, hmake content rest⟩
  · rw [hsplit content rest hs]; simp
  · simp only [List.cons_append, byteLength, byteLength_append, show '<'.utf8Size = 1 from rfl,
      show '>'.utf8Size = 1 from rfl]

/-- The name of an end tag is what stands after the slash without the separators at its end. -/
theorem exists_blanks_of_raw (raw : List Char) :
    ∃ blanks, raw = (if raw.all isSeparator then raw else (raw.reverse.dropWhile isSeparator).reverse) ++ blanks ∧
      blanks.all isSeparator := by
  split
  · exact ⟨[], by simp, rfl⟩
  · refine ⟨(raw.reverse.takeWhile isSeparator).reverse, ?_, ?_⟩
    · rw [← List.reverse_append, List.takeWhile_append_dropWhile, List.reverse_reverse]
    · rw [List.all_reverse, List.all_takeWhile]

theorem readEndTag_eq_read {opened : List (List Char)} {text rest : List Char} {token : Token} {length : Nat}
    (h : readEndTag opened ('/' :: text) = .read token length rest) :
    ∃ written name, '<' :: '/' :: text = written ++ rest ∧ byteLength written = 1 + length ∧
      token = .endTag name ∧ Written token written rest ∧ opened.head? = some name := by
  obtain ⟨content, bracket, rest', hsplit⟩ : ∃ content bracket rest', splitAtCloseOrEnd ('/' :: text) =
      (content, bracket, rest') := ⟨_, _, _, rfl⟩
  obtain ⟨close, htext, hclose, hcontent, hend⟩ := splitAtCloseOrEnd_eq hsplit
  obtain ⟨raw, rfl⟩ : ∃ raw, content = '/' :: raw := by
    cases content with
    | nil =>
        rcases hend with rfl | ⟨rfl, rfl⟩
        · cases htext
        · cases htext
    | cons c raw =>
        obtain rfl : '/' = c := (List.cons.inj htext).1
        exact ⟨raw, rfl⟩
  obtain ⟨blanks, hraw, hblanks⟩ := exists_blanks_of_raw raw
  unfold readEndTag at h
  simp only [hsplit, List.tail_cons] at h
  generalize (if raw.all isSeparator then raw else (raw.reverse.dropWhile isSeparator).reverse) = name at h hraw
  cases opened with
  | nil => cases h
  | cons expected opened =>
      dsimp only at h
      split at h
      · rename_i hname
        obtain ⟨rfl, rfl, rfl⟩ := Reading.read.inj h
        have hmem : '>' ∉ name ++ blanks := by
          rw [← hraw]
          exact fun hmem => hcontent (List.mem_cons_of_mem _ hmem)
        refine ⟨'<' :: '/' :: name ++ blanks ++ close, name, ?_, ?_, rfl, .endTag hblanks hmem hend, by rw [hname]; rfl⟩
        · rw [htext, hraw]; simp
        · rw [← hclose, hraw]
          simp only [List.cons_append, byteLength, byteLength_append, show '<'.utf8Size = 1 from rfl]
          omega
      · cases h

theorem readInstruction_eq_read {text rest : List Char} {token : Token} {length : Nat}
    (h : readInstruction text = .read token length rest) :
    ∃ written content, '<' :: text = written ++ rest ∧ byteLength written = 1 + length ∧
      token = .instruction content ∧ Written token written rest := by
  obtain ⟨content, bracket, rest', hsplit⟩ : ∃ content bracket rest', splitAtCloseOrEnd text =
      (content, bracket, rest') := ⟨_, _, _, rfl⟩
  obtain ⟨close, htext, hclose, hcontent, hend⟩ := splitAtCloseOrEnd_eq hsplit
  unfold readInstruction at h
  simp only [hsplit] at h
  split at h
  · obtain ⟨rfl, rfl, rfl⟩ := Reading.read.inj h
    refine ⟨'<' :: content ++ close, content, ?_, ?_, rfl, .instruction hend⟩
    · rw [htext]; simp
    · rw [← hclose]
      simp only [List.cons_append, byteLength, byteLength_append, show '<'.utf8Size = 1 from rfl]
  · cases h

theorem readTag_eq_read {text rest : List Char} {token : Token} {length : Nat}
    (h : readTag text = .read token length rest) :
    ∃ written tag, '<' :: text = written ++ rest ∧ byteLength written = 1 + length ∧
      (token = .startTag tag ∨ token = .emptyTag tag) ∧ Written token written rest := by
  unfold readTag at h
  split at h
  · cases h
  · rename_i content rest' hsplit
    have htext : text = content ++ '>' :: rest' := by simpa using splitAtTagEnd_eq_some hsplit
    have hlength : byteLength ('<' :: content ++ ['>']) = 1 + (byteLength content + 1) := by
      simp only [List.cons_append, byteLength, byteLength_append, show '<'.utf8Size = 1 from rfl,
        show '>'.utf8Size = 1 from rfl]
    split at h
    · rename_i hslash
      obtain ⟨rfl, rfl, rfl⟩ := Reading.read.inj h
      obtain ⟨content', rfl⟩ := List.getLast?_eq_some_iff.mp hslash
      rw [List.dropLast_concat] at *
      refine ⟨'<' :: content' ++ ['/', '>'], ⟨content'⟩, by rw [htext]; simp, ?_, .inr rfl, .emptyTag⟩
      simpa using hlength
    · obtain ⟨rfl, rfl, rfl⟩ := Reading.read.inj h
      exact ⟨'<' :: content ++ ['>'], ⟨content⟩, by rw [htext]; simp, hlength, .inl rfl, .startTag⟩

/-- What reading markup gives: the text that the token takes, how it is written, and the tag that an end tag
closes. -/
theorem readMarkup_eq_read {opened : List (List Char)} {text rest : List Char} {token : Token} {length : Nat}
    (h : readMarkup opened text = .read token length rest) :
    ∃ written, '<' :: text = written ++ rest ∧ byteLength written = 1 + length ∧ Written token written rest ∧
      ∀ name, token = .endTag name → opened.head? = some name := by
  have hbang {kind split check} {make : List Char → Token}
      (hsplit : ∀ content rest, split text = some (content, rest) → text = content ++ '>' :: rest)
      (hmake : ∀ content rest, Written (make content) ('<' :: content ++ ['>']) rest)
      (hend : ∀ content name, make content ≠ .endTag name)
      (h : readBang kind split check make text = .read token length rest) :
      ∃ written, '<' :: text = written ++ rest ∧ byteLength written = 1 + length ∧ Written token written rest ∧
        ∀ name, token = .endTag name → opened.head? = some name := by
    obtain ⟨written, content, htext, hlength, rfl, hwritten⟩ := written_of_readBang hsplit hmake h
    exact ⟨written, htext, hlength, hwritten, fun name hname => absurd hname (hend content name)⟩
  unfold readMarkup at h
  split at h
  · exact hbang (fun _ _ hs => by simpa using splitAtClose_eq_some hs) (fun _ _ => .comment) (by simp) h
  · exact hbang (fun _ _ hs => by simpa using splitAtClose_eq_some hs) (fun _ _ => .characterData) (by simp) h
  · exact hbang (fun _ _ hs => by simpa using splitAtBalance_eq_some hs) (fun _ _ => .documentType) (by simp) h
  · exact hbang (fun _ _ hs => by simpa using splitAtBalance_eq_some hs) (fun _ _ => .documentType) (by simp) h
  · cases h
  · cases h
  · obtain ⟨written, name, htext, hlength, rfl, hwritten, hopened⟩ := readEndTag_eq_read h
    refine ⟨written, htext, hlength, hwritten, fun name' hname => ?_⟩
    rw [hopened, Token.endTag.inj hname]
  · obtain ⟨written, content, htext, hlength, rfl, hwritten⟩ := readInstruction_eq_read h
    exact ⟨written, htext, hlength, hwritten, fun name hname => by cases hname⟩
  · obtain ⟨written, tag, htext, hlength, htoken, hwritten⟩ := readTag_eq_read h
    refine ⟨written, htext, hlength, hwritten, fun name hname => ?_⟩
    rcases htoken with rfl | rfl
    · cases hname
    · cases hname

/-! ### All tokens -/

/-- The tokens that a text is cut into stand one after the other from its beginning on. -/
theorem cover_cut (n offset : Nat) (opened : List (List Char)) (text : List Char) :
    Cover offset (cut n offset opened text).tokens text := by
  fun_induction cut n offset opened text with
  | case1 | case2 | case3 => trivial
  | case4 n offset opened text flaw skipped h => trivial
  | case5 n offset opened text hne token length rest h ih =>
      obtain ⟨written, htext, hlength, hwritten, -⟩ := readMarkup_eq_read h
      refine ⟨written, rest, htext, hwritten, rfl, ?_, ih⟩
      rw [hlength, Nat.add_assoc]
  | case6 n offset opened text h₁ h₂ h₃ content stop ih =>
      exact ⟨content, text.dropWhile (· ≠ '<'), List.takeWhile_append_dropWhile.symm, .text, rfl, rfl, ih⟩

/-- An end tag is a token only where it names the innermost open tag. -/
theorem matched_cut (n offset : Nat) (opened : List (List Char)) (text : List Char) :
    Matched opened (cut n offset opened text).tokens := by
  fun_induction cut n offset opened text with
  | case1 | case2 | case3 => trivial
  | case4 n offset opened text hne flaw skipped h => trivial
  | case5 n offset opened text hne token length rest h ih =>
      obtain ⟨_, _, _, _, hend⟩ := readMarkup_eq_read h
      exact ⟨hend, ih⟩
  | case6 n offset opened text h₁ h₂ h₃ content stop ih => exact ⟨fun name hname => (by cases hname), ih⟩

/-- Reading never goes back behind the bracket that begins broken markup. -/
theorem endOf_le_flaw_cut {n offset : Nat} {opened : List (List Char)} {text : List Char} {flaw : PlacedFlaw}
    (h : (cut n offset opened text).flaw = some flaw) :
    endOf offset (cut n offset opened text).tokens ≤ flaw.offset := by
  fun_induction cut n offset opened text with
  | case1 | case2 | case3 => cases h
  | case4 n offset opened text hne flaw' skipped h' =>
      obtain rfl := Option.some.inj h
      simp only [endOf]
      omega
  | case5 n offset opened text hne token length rest h' ih => exact ih h
  | case6 n offset opened text h₁ h₂ h₃ content stop ih => exact ih h

theorem endOf_append (offset : Nat) (tokens tokens' : List PlacedToken) :
    endOf offset (tokens ++ tokens') = endOf (endOf offset tokens) tokens' := by
  induction tokens generalizing offset with
  | nil => rfl
  | cons token tokens ih => exact ih token.stop

theorem inOrder_append {offset : Nat} {tokens tokens' : List PlacedToken} :
    InOrder offset (tokens ++ tokens') ↔ InOrder offset tokens ∧ InOrder (endOf offset tokens) tokens' := by
  induction tokens generalizing offset with
  | nil => simp [InOrder, endOf]
  | cons token tokens ih => simp [InOrder, endOf, ih, and_assoc]

theorem InOrder.le_endOf {offset : Nat} {tokens : List PlacedToken} (h : InOrder offset tokens) :
    offset ≤ endOf offset tokens := by
  induction tokens generalizing offset with
  | nil => exact Nat.le_refl _
  | cons token tokens ih => exact (h.1.trans h.2.1).trans (ih h.2.2)

theorem Cover.inOrder {offset : Nat} {tokens : List PlacedToken} {text : List Char} (h : Cover offset tokens text) :
    InOrder offset tokens := by
  induction tokens generalizing offset text with
  | nil => trivial
  | cons token tokens ih =>
      obtain ⟨written, rest, -, -, hstart, hstop, hrest⟩ := h
      exact ⟨hstart.ge, by omega, ih hrest⟩

theorem Cover.endOf_le {offset : Nat} {tokens : List PlacedToken} {text : List Char} (h : Cover offset tokens text) :
    endOf offset tokens ≤ offset + byteLength text := by
  induction tokens generalizing offset text with
  | nil => exact Nat.le_add_right _ _
  | cons token tokens ih =>
      obtain ⟨written, rest, rfl, -, -, hstop, hrest⟩ := h
      have := ih hrest
      rw [byteLength_append]
      simp only [endOf]
      omega

/-- Every token is a piece of the text between its octets. -/
theorem Cover.exists_written {offset : Nat} {tokens : List PlacedToken} {text : List Char}
    (h : Cover offset tokens text) {token : PlacedToken} (hmem : token ∈ tokens) :
    ∃ before written rest, text = before ++ written ++ rest ∧ Written token.token written rest ∧
      token.start = offset + byteLength before ∧ token.stop = offset + byteLength (before ++ written) := by
  induction tokens generalizing offset text with
  | nil => cases hmem
  | cons token' tokens ih =>
      obtain ⟨written, rest, rfl, hwritten, hstart, hstop, hrest⟩ := h
      rcases List.mem_cons.mp hmem with rfl | hmem
      · exact ⟨[], written, rest, rfl, hwritten, hstart, hstop⟩
      · obtain ⟨before, written', rest', rfl, hwritten', hstart', hstop'⟩ := ih hrest hmem
        refine ⟨written ++ before, written', rest', by simp, hwritten', ?_, ?_⟩
        · rw [hstart', hstop, byteLength_append]
          omega
        · rw [hstop', hstop]
          simp only [byteLength_append]
          omega

theorem InOrder.bounds_of_mem {offset : Nat} {tokens : List PlacedToken} (h : InOrder offset tokens)
    {token : PlacedToken} (hmem : token ∈ tokens) : offset ≤ token.start ∧ token.stop ≤ endOf offset tokens := by
  induction tokens generalizing offset with
  | nil => cases hmem
  | cons first tokens ih =>
      obtain ⟨hstart, hstop, hrest⟩ := h
      rcases List.mem_cons.mp hmem with rfl | hmem
      · exact ⟨hstart, hrest.le_endOf⟩
      · obtain ⟨hle, hend⟩ := ih hrest hmem
        exact ⟨by omega, hend⟩

/-- Every octet of the text that tokens cover is one of a token. -/
theorem Cover.exists_token {offset : Nat} {tokens : List PlacedToken} {text : List Char} (h : Cover offset tokens text)
    {o : Nat} (hstart : offset ≤ o) (hend : o < endOf offset tokens) :
    ∃ token ∈ tokens, token.start ≤ o ∧ o < token.stop := by
  induction tokens generalizing offset text with
  | nil =>
      rw [endOf] at hend
      omega
  | cons token tokens ih =>
      obtain ⟨written, rest, -, -, hfirst, -, hrest⟩ := h
      by_cases ho : o < token.stop
      · exact ⟨token, List.mem_cons_self .., by omega, ho⟩
      · obtain ⟨token', hmem, hoctet⟩ := ih hrest (by omega) hend
        exact ⟨token', List.mem_cons_of_mem _ hmem, hoctet⟩

/-- Without a flaw the tokens cover the text, but for an opening bracket at its very end. -/
theorem exists_covered_cut {n offset : Nat} {opened : List (List Char)} {text : List Char} (hn : text.length < n)
    (h : (cut n offset opened text).flaw = none) :
    ∃ covered last, text = covered ++ last ∧ (last = [] ∨ last = ['<']) ∧
      endOf offset (cut n offset opened text).tokens = offset + byteLength covered := by
  fun_induction cut n offset opened text with
  | case1 => omega
  | case2 => exact ⟨[], [], rfl, .inl rfl, rfl⟩
  | case3 => exact ⟨[], ['<'], rfl, .inr rfl, rfl⟩
  | case4 => cases h
  | case5 n offset opened text hne token length rest hread ih =>
      obtain ⟨written, htext, hlength, -, -⟩ := readMarkup_eq_read hread
      have hrest : rest.length < n := by
        have hpos : 0 < written.length := by
          apply List.length_pos_iff.mpr
          rintro rfl
          rw [byteLength] at hlength
          omega
        rw [htext, List.length_append] at hn
        omega
      obtain ⟨covered, last, rfl, hlast, hend⟩ := ih hrest h
      refine ⟨written ++ covered, last, by rw [htext, List.append_assoc], hlast, ?_⟩
      rw [byteLength_append, hlength]
      rw [Tokens.cons, endOf, hend]
      omega
  | case6 n offset opened text hnil hbracket hmarkup content stop ih =>
      have htext : text = content ++ text.dropWhile (· ≠ '<') := List.takeWhile_append_dropWhile.symm
      have hrest : (text.dropWhile (· ≠ '<')).length < n := by
        have hpos : 0 < content.length := by
          cases text with
          | nil => exact absurd rfl hnil
          | cons c text =>
              have hc : c ≠ '<' := fun hc => hmarkup text (hc ▸ rfl)
              simp [content, hc]
        have hlength := congrArg List.length htext
        rw [List.length_append] at hlength
        omega
      obtain ⟨covered, last, hcovered, hlast, hend⟩ := ih hrest h
      refine ⟨content ++ covered, last, by rw [List.append_assoc, ← hcovered, ← htext], hlast, ?_⟩
      rw [byteLength_append, Tokens.cons, endOf, hend]
      omega

end XmlDiagnostics.Markup
