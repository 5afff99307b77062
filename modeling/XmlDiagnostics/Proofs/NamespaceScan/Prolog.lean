import XmlDiagnostics.Proofs.Markup.Bracketing
import XmlDiagnostics.Proofs.Markup.Contents
import XmlDiagnostics.Proofs.NamespaceScan.Comments

/-! # What precedes the first element

Texts, comments, instructions and declarations can stand before the first tag of a document. They are calm if nothing in
them looks like a start tag once the comments have been taken out (`Calm`). Text and comments are calm
whatever they hold; so only instructions, sections of character data and document type declarations need looking at
(`exists_calm_of_cover`). -/

namespace XmlDiagnostics.NamespaceScan

open Markup

/-- The characters that begin a name in a start tag. -/
def nameStart : CharSet := .union (.range 'A' 'Z') (.union (.range 'a' 'z') (.single '_'))

/-- Whether what follows an opening angle bracket is enough to tell that it is no start tag. -/
def opensNoTag : List Char → Bool
  | [] => false
  | c :: _ => !nameStart.contains c

/-- Comments in a text are closed, and nothing outside of them looks like a start tag. -/
def Calm (text : List Char) : Prop := ∃ left, Peels text left ∧ behind opensMarkup opensNoTag left = true

theorem Peels.append {a b left more : List Char} (ha : Peels a left) (hb : Peels b more) : Peels (a ++ b) (left ++ more) := by
  induction ha with
  | nil => exact hb
  | piece hpiece _ ih => simpa using Peels.piece hpiece ih
  | comment hbody _ ih => simpa using Peels.comment hbody ih

theorem Peels.of_piece {piece : List Char} (h : behind opensMarkup opensNoComment piece = true) : Peels piece piece := by
  simpa using Peels.piece h .nil

theorem calm_nil : Calm [] := ⟨[], .nil, rfl⟩

theorem Calm.append {a b : List Char} (ha : Calm a) (hb : Calm b) : Calm (a ++ b) := by
  obtain ⟨left, hleft, hcalm⟩ := ha
  obtain ⟨more, hmore, hcalm'⟩ := hb
  refine ⟨left ++ more, hleft.append hmore, behind_append (fun text more h => ?_) hcalm hcalm'⟩
  cases text with
  | nil => cases h
  | cons c text => exact h

theorem calm_of_not_mem {text : List Char} (h : '<' ∉ text) : Calm text := by
  have hnot : ∀ c ∈ text, opensMarkup c = false := fun c hc => decide_eq_false fun heq => h (heq ▸ hc)
  exact ⟨text, .of_piece (behind_of_forall_not hnot), behind_of_forall_not hnot⟩

/-- A comment is calm whatever it holds. -/
theorem calm_comment {body : List Char} (h : ¬commentEnd <:+: body ++ ['-', '-']) :
    Calm (commentStart ++ body ++ commentEnd) :=
  ⟨[], by simpa using Peels.comment h .nil, rfl⟩

/-- What has to be known of a token before the first tag, for all of them to be calm. -/
def IsCalm : Token → Prop
  | .text _ => True
  | .comment _ => True
  | .instruction content => Calm ('<' :: content ++ ['>'])
  | .documentType content => Calm ('<' :: content ++ ['>'])
  | .characterData content => Calm ('<' :: content ++ ['>'])
  | _ => False

theorem isTag_eq_false_of_isCalm {token : Token} (h : IsCalm token) : token.isTag = false := by
  cases token with
  | startTag _ | emptyTag _ | endTag _ => exact h.elim
  | _ => rfl

/-- A calm token with something behind it is written calmly. -/
theorem calm_of_written {token : Token} {written rest : List Char} (hwritten : Written token written rest)
    (hrest : rest ≠ []) (hend : token.HasOwnEnd) (hcalm : IsCalm token) : Calm written := by
  cases hwritten with
  | text => exact calm_of_not_mem hend
  | comment =>
      obtain ⟨body, rfl, hbody⟩ := hend
      have hform : '<' :: ('!' :: '-' :: '-' :: (body ++ ['-', '-'])) ++ ['>'] = commentStart ++ body ++ commentEnd := by
        simp [commentStart, commentEnd]
      exact hform ▸ calm_comment hbody
  | characterData => exact hcalm
  | documentType => exact hcalm
  | instruction hclose =>
      rcases hclose with rfl | ⟨-, rfl⟩
      · exact hcalm
      · exact absurd rfl hrest
  | startTag => exact hcalm.elim
  | emptyTag => exact hcalm.elim
  | endTag _ _ _ => exact hcalm.elim

/-- **What precedes the first tag**: behind calm tokens a tag stands behind a calm text. -/
theorem exists_calm_of_cover {offset : Nat} {before after : List PlacedToken} {token : PlacedToken} {tag : Tag}
    {text : List Char} (hcover : Cover offset (before ++ token :: after) text)
    (hend : ∀ token ∈ before, token.token.HasOwnEnd) (hcalm : ∀ token ∈ before, IsCalm token.token)
    (htag : token.token.tag? = some tag) :
    ∃ prolog slash rest, Calm prolog ∧ (slash = [] ∨ slash = ['/']) ∧
      text = prolog ++ '<' :: (tag.content ++ slash ++ ['>']) ++ rest := by
  induction before generalizing offset text with
  | nil =>
      obtain ⟨written, rest, rfl, hwritten, -⟩ := hcover
      obtain ⟨slash, hslash, rfl⟩ := written_of_tag htag hwritten
      exact ⟨[], slash, rest, calm_nil, hslash, rfl⟩
  | cons first before ih =>
      obtain ⟨written, rest, rfl, hwritten, -, -, hcover⟩ := hcover
      obtain ⟨hend₁, hend⟩ := List.forall_mem_cons.mp hend
      obtain ⟨hcalm₁, hcalm⟩ := List.forall_mem_cons.mp hcalm
      obtain ⟨prolog, slash, rest, hprolog, hslash, rfl⟩ := ih hcover hend hcalm
      have hfirst := calm_of_written hwritten (by simp) hend₁ hcalm₁
      exact ⟨written ++ prolog, slash, rest, hfirst.append hprolog, hslash, by simp⟩

end XmlDiagnostics.NamespaceScan
