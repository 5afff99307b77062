import XmlDiagnostics.Handler.Basic
import XmlDiagnostics.NamespaceScan

/-! # Patterns that are too large

An automaton has a node for every octet of a literal. So a pattern with a literal of more octets than nodes find room is
too large, wherever the literal stands (`Shape.Has.not_fits`), and there is neither a pattern of an attribute nor one of
a prefix with such a name (`attributePattern?_eq_none`, `scopePattern?_eq_none`). -/

namespace XmlDiagnostics

open Text

/-! ### Shapes with literals -/

/-- Whether a shape has a literal with a text in it, other than in a choice or a repetition. -/
inductive Shape.Has (text : List Char) : Shape → Prop
  | literal {whole} : text <:+: whole → Has text (.literal whole)
  | group {number s} : Has text s → Has text (.group number s)
  | seq {shapes s} : s ∈ shapes → Has text s → Has text (.seq shapes)

namespace Shape

variable {text : List Char} {s : Shape} {shapes : List Shape}

theorem Has.parts (h : s.Has text) : ∃ part ∈ s.parts, part.Has text := by
  cases h with
  | literal hinside => exact ⟨_, List.mem_singleton_self _, .literal hinside⟩
  | group hs => exact ⟨_, List.mem_singleton_self _, .group hs⟩
  | seq hmem hs => exact ⟨_, hmem, hs⟩

/-- Joining literals keeps what they have in them. -/
theorem Has.before (h : ∃ part ∈ s :: shapes, part.Has text) : ∃ part ∈ s.before shapes, part.Has text := by
  obtain ⟨part, hmem, hpart⟩ := h
  unfold Shape.before
  split
  · rename_i a b rest
    rcases List.mem_cons.mp hmem with rfl | hmem
    · cases hpart with
      | literal hinside => exact ⟨_, List.mem_cons_self, .literal (hinside.trans (List.prefix_append a b).isInfix)⟩
    · rcases List.mem_cons.mp hmem with rfl | hmem
      · cases hpart with
        | literal hinside => exact ⟨_, List.mem_cons_self, .literal (hinside.trans (List.suffix_append a b).isInfix)⟩
      · exact ⟨part, List.mem_cons_of_mem _ hmem, hpart⟩
  · exact ⟨part, hmem, hpart⟩

theorem Has.joined (hmem : s ∈ shapes) (h : s.Has text) : ∃ part ∈ shapes.foldr Shape.before [], part.Has text := by
  induction shapes with
  | nil => cases hmem
  | cons first rest ih =>
      rw [List.foldr_cons]
      refine Has.before ?_
      rcases List.mem_cons.mp hmem with rfl | hmem
      · exact ⟨s, List.mem_cons_self, h⟩
      · obtain ⟨part, hpart, hhas⟩ := ih hmem
        exact ⟨part, List.mem_cons_of_mem _ hpart, hhas⟩

theorem Has.sequence (hmem : s ∈ shapes) (h : s.Has text) : (Shape.sequence shapes).Has text := by
  obtain ⟨part, hpart, hhas⟩ := h.parts
  obtain ⟨joined, hjoined, hhas⟩ := Has.joined (List.mem_flatMap.mpr ⟨s, hmem, hpart⟩) hhas
  unfold Shape.sequence
  split
  · rename_i hnil
    rw [hnil] at hjoined
    cases hjoined
  · rename_i hsingle
    rw [hsingle] at hjoined
    obtain rfl := List.mem_singleton.mp hjoined
    exact hhas
  · exact .seq hjoined hhas

end Shape

namespace Pattern

theorem ranges_single (c : Char) : (CharSet.single c).ranges = [(c.toNat, c.toNat)] := by
  have hvalid : c.toNat < 0xd800 ∨ 0xdfff < c.toNat ∧ c.toNat < 0x110000 := c.valid
  rw [CharSet.single, CharSet.ranges, if_pos (Std.le_refl c), charsOfRange]
  rcases hvalid with h | ⟨h, -⟩
  · rw [List.filter_cons_of_pos (by simp; omega), List.filter_cons_of_neg (by simp; omega), List.filter_nil,
      Nat.min_eq_left (by omega)]
  · rw [List.filter_cons_of_neg (by simp; omega), List.filter_cons_of_pos (by simp; omega), List.filter_nil,
      Nat.max_eq_left (by omega)]

theorem shape_char (c : Char) : (char c).shape = .literal [c] := by
  rw [char, shape, ranges_single, Shape.ofRanges, if_pos rfl, Char.ofNat_toNat]

/-- Characters one after the other are joined to one literal. -/
theorem shape_literal (c : Char) (rest : List Char) : (literal (c :: rest)).shape = .literal (c :: rest) := by
  induction rest generalizing c with
  | nil =>
      show Shape.sequence [(char c).shape, .nothing] = _
      rw [shape_char]
      rfl
  | cons d rest ih =>
      show Shape.sequence [(char c).shape, (literal (d :: rest)).shape] = _
      rw [shape_char, ih]
      rfl

/-- Whether a pattern has a literal with a text in it, other than in a choice or a repetition. -/
def Has (text : List Char) (p : Pattern) : Prop := p.shape.Has text

variable {text : List Char} {p : Pattern} {ps : List Pattern}

theorem has_literal (c : Char) (rest : List Char) : (literal (c :: rest)).Has (c :: rest) := by
  rw [Has, shape_literal]
  exact .literal (List.infix_refl _)

theorem Has.group (h : p.Has text) (number : Nat) : (Pattern.group number p).Has text := Shape.Has.group h

theorem Has.sequence (hmem : p ∈ ps) (h : p.Has text) : (Pattern.sequence ps).Has text := by
  induction ps with
  | nil => cases hmem
  | cons first rest ih =>
      rcases List.mem_cons.mp hmem with rfl | hmem
      · exact Shape.Has.sequence List.mem_cons_self h
      · exact Shape.Has.sequence (List.mem_cons_of_mem _ List.mem_cons_self) (ih hmem)

/-! ### Room -/

namespace Sizing

variable {α β : Type}

/-- Whether laying out a part becomes too large, whatever there is already. -/
def Exceeds (m : Sizing α) : Prop := ∀ room, m room = none

theorem Exceeds.bind {m : Sizing α} (h : Exceeds m) (f : α → Sizing β) : Exceeds (m >>= f) := by
  intro room
  show (m room).bind _ = none
  rw [h room]
  rfl

theorem Exceeds.after (m : Sizing α) {f : α → Sizing β} (h : ∀ a, Exceeds (f a)) : Exceeds (m >>= f) := by
  intro room
  show (m room).bind _ = none
  cases m room with
  | none => rfl
  | some done => exact h done.1 done.2

theorem exceeds_nodes {n : Nat} (h : mostRoom < 32 * n) (extra : Nat) : Exceeds (nodes n extra) := by
  intro room
  unfold nodes
  rw [if_neg (by simp only [Room.octets]; omega)]

end Sizing

open Sizing

theorem exceeds_layOutShapes {back : Bool} {s : Shape} (h : Exceeds (layOutShape back s)) {shapes : List Shape}
    (hmem : s ∈ shapes) : Exceeds (layOutShapes back shapes) := by
  induction shapes with
  | nil => cases hmem
  | cons first rest ih =>
      rw [layOutShapes]
      rcases List.mem_cons.mp hmem with rfl | hmem
      · cases back with
        | true => exact .after _ fun _ => h.bind _
        | false => exact h.bind _
      · cases back with
        | true => exact (ih hmem).bind _
        | false => exact .after _ fun _ => (ih hmem).bind _

/-- A literal with more octets than nodes find room is never laid out, wherever it stands. -/
theorem exceeds_layOutShape (h : mostRoom < 32 * byteLength text) (back : Bool) {s : Shape} (hs : s.Has text) :
    Exceeds (layOutShape back s) := by
  induction hs with
  | literal hinside =>
      obtain ⟨before, after, rfl⟩ := hinside
      rw [layOutShape]
      refine (exceeds_nodes ?_ 0).bind _
      rw [byteLength_append, byteLength_append]
      omega
  | group _ ih =>
      rw [layOutShape]
      cases back with
      | true => exact ih
      | false => exact .after _ fun _ => ih.bind _
  | seq hmem _ ih =>
      rw [layOutShape]
      exact (exceeds_layOutShapes ih hmem).bind _

theorem built?_eq_none_of_has (hp : p.Has text) (h : mostRoom < 32 * byteLength text) : p.built? = none := by
  have hgroup : Exceeds (layOutShape false (.group 0 p.shape)) := exceeds_layOutShape h false (.group hp)
  have hall : Exceeds (layOutAll false p.shape) := by
    simp only [layOutAll, Bool.false_eq_true, if_false]
    split
    · exact .after _ fun _ => hgroup.bind _
    · exact .after _ fun _ => hgroup.bind _
  rw [built?, fits, hall]
  rfl

end Pattern

/-- A name of more octets than nodes find room has no pattern of an attribute. -/
theorem attributePattern?_eq_none {key : String} (h : Pattern.mostRoom < 32 * byteLength key.toList) :
    attributePattern? key = none := by
  refine Pattern.built?_eq_none_of_has ?_ h
  cases hkey : key.toList with
  | nil =>
      rw [hkey] at h
      cases h
  | cons c rest =>
      rw [attributePattern, hkey]
      exact .sequence (List.mem_cons_of_mem _ List.mem_cons_self) ((Pattern.has_literal c rest).group 1)

namespace NamespaceScan

theorem scopePattern?_eq_none {name : List Char} (h : Pattern.mostRoom < 32 * byteLength name) :
    scopePattern? (some name) = none := by
  have hkey : (scopePattern (some name)).Has ("xmlns:".toList ++ name) :=
    .sequence (List.mem_cons_of_mem _ List.mem_cons_self) (Pattern.has_literal 'x' ("mlns:".toList ++ name))
  refine Pattern.built?_eq_none_of_has hkey ?_
  rw [byteLength_append]
  omega

end NamespaceScan

end XmlDiagnostics
