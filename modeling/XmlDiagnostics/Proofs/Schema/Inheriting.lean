import Mathlib.Logic.Relation
import XmlDiagnostics.Proofs.Schema.Order
import XmlDiagnostics.Proofs.Schema.Reaching
import XmlDiagnostics.Proofs.Schema.Resolving

/-! # What types inherit

The content of an element is what its type has itself (`Occurrence.Owns`) and what the types have that this one is
derived from (`Occurrence.DerivedFrom`): an element accepts the attributes that some type of the chain declares
(`Occurrence.mem_attributes_iff`). Nothing is ever taken back on the way. A type that prohibits an attribute keeps
its own declaration of it out, and that is all: the element accepts the attribute just if a type further up
declares it (`Grammar.prohibited_attribute_iff_inherited`). -/

namespace XmlDiagnostics

open Schema

variable {g : Grammar}

namespace Occurrence

/-! ### Types and what they are derived from -/

/-- Whether the content of a component goes on in another one that belongs to the same type: a part inside, or a group
that a component inside refers to. -/
def GoesOn (o p : Occurrence g) : Prop :=
  (p ∈ o.inside ∧ p.node.isTransparent) ∨
    ∃ r ∈ o.inside, ∃ sort reference, r.node.reference? = some (sort, reference) ∧ sort ≠ .type ∧
      g.Means sort r.number reference p

/-- Whether what stands inside a component belongs to a type or group itself, whatever this is derived from. -/
def Owns : Occurrence g → Occurrence g → Prop := Relation.ReflTransGen GoesOn

/-- Whether a type is derived from another one. -/
def DerivedFrom (o base : Occurrence g) : Prop :=
  ∃ p, o.Owns p ∧ ∃ r ∈ p.inside, ∃ reference, r.node.reference? = some (.type, reference) ∧
    g.Means .type r.number reference base

/-- Whether a type declares an attribute itself. -/
def Declares (o : Occurrence g) (name : String) : Prop := ∃ p, o.Owns p ∧ ∃ u ∈ p.inside, u.node.Allows name

/-- The types of an element: the one inside its declaration, and the one that it names. -/
def HasType (start type : Occurrence g) : Prop :=
  (type ∈ start.inside ∧ type.node.kind = .complexType) ∨
    ∃ name, start.node.attribute? "type" = some name ∧ g.Means .type start.number name type

variable {start o p type base : Occurrence g} {name : String}

/-! ### What elements accept -/

theorem HasType.opened (h : start.HasType type) : Opened start type := by
  rcases h with ⟨hinside, hkind⟩ | ⟨name, htype, hmeans⟩
  · exact .inner hinside hkind
  · exact .named htype hmeans

theorem Owns.opened (h : o.Owns p) (ho : Opened start o) : Opened start p := by
  induction h with
  | refl => exact ho
  | tail _ hstep ih =>
      rcases hstep with ⟨hinside, htransparent⟩ | ⟨r, hr, sort, reference, hreference, -, hmeans⟩
      · exact ih.part hinside htransparent
      · exact ih.referred hr hreference hmeans

theorem DerivedFrom.opened (h : type.DerivedFrom base) (htype : Opened start type) : Opened start base := by
  obtain ⟨p, howns, r, hr, reference, hreference, hmeans⟩ := h
  exact (howns.opened htype).referred hr hreference hmeans

/-- What an element declaration opens belongs to its type, or to one that this is derived from. -/
theorem opened_iff :
    Opened start p ↔
      ∃ type base, start.HasType type ∧ Relation.ReflTransGen DerivedFrom type base ∧ base.Owns p := by
  constructor
  · intro h
    induction h with
    | inner hinside hkind => exact ⟨_, _, .inl ⟨hinside, hkind⟩, .refl, .refl⟩
    | named htype hmeans => exact ⟨_, _, .inr ⟨_, htype, hmeans⟩, .refl, .refl⟩
    | part _ hinside htransparent ih =>
        obtain ⟨type, base, htype, hchain, howns⟩ := ih
        exact ⟨type, base, htype, hchain, howns.tail (.inl ⟨hinside, htransparent⟩)⟩
    | @referred o p sort reference q _ hinside hreference hmeans ih =>
        obtain ⟨type, base, htype, hchain, howns⟩ := ih
        by_cases hsort : sort = .type
        · obtain rfl := hsort
          exact ⟨type, q, htype, hchain.tail ⟨o, howns, p, hinside, reference, hreference, hmeans⟩, .refl⟩
        · have hstep : GoesOn o q := .inr ⟨p, hinside, sort, reference, hreference, hsort, hmeans⟩
          exact ⟨type, base, htype, hchain, howns.tail hstep⟩
  · rintro ⟨type, base, htype, hchain, howns⟩
    refine howns.opened ?_
    clear howns
    induction hchain with
    | refl => exact htype.opened
    | tail _ hderived ih => exact hderived.opened ih

/-- An element accepts the attributes that its type declares, or one that this is derived from. -/
theorem mem_attributes_iff :
    name ∈ (g.content start.definition).attributes ↔
      ∃ type base, start.HasType type ∧ Relation.ReflTransGen DerivedFrom type base ∧ base.Declares name := by
  obtain ⟨found, hfound⟩ := exists_gathers [] start.contentErrands
  have hmem : ∀ o, o ∈ found ↔ Reached start o ∧ o.node.isItem := fun o =>
    hfound.mem_iff.trans fetches_contentErrands_iff
  rw [hfound.content_eq, content, StringSet.mem_ofList, List.mem_filterMap]
  constructor
  · rintro ⟨o, ho, hallowed⟩
    obtain ⟨⟨p, hopened, hinside⟩, -⟩ := (hmem o).mp ho
    obtain ⟨type, base, htype, hchain, howns⟩ := opened_iff.mp hopened
    exact ⟨type, base, htype, hchain, p, howns, o, hinside, allowed?_eq_some.mp hallowed⟩
  · rintro ⟨type, base, htype, hchain, p, howns, o, hinside, hallows⟩
    have hreached : Reached start o := ⟨p, opened_iff.mpr ⟨type, base, htype, hchain, howns⟩, hinside⟩
    have hitem : o.node.isItem := by simp [Node.isItem, hallows.1]
    exact ⟨o, (hmem o).mpr ⟨hreached, hitem⟩, allowed?_eq_some.mpr hallows⟩

/-- A body inside a part of a type derives the type from what the base of the body means. -/
theorem derivedFrom_of_base {part body : Occurrence g} {reference : String} (hpart : part ∈ type.inside)
    (htransparent : part.node.isTransparent) (hbody : body ∈ part.inside)
    (hreference : body.node.reference? = some (.type, reference)) (hmeans : g.Means .type body.number reference base) :
    type.DerivedFrom base :=
  ⟨part, .single (.inl ⟨hpart, htransparent⟩), body, hbody, reference, hreference, hmeans⟩

/-- Where one component stands inside alone and refers to no group, nothing else belongs to the same type. -/
theorem GoesOn.eq_of_inside {child : Occurrence g} (hinside : o.inside = [child])
    (hgroup : child.node.reference?.all fun r => r.1 = .type) (h : o.GoesOn p) :
    p = child ∧ child.node.isTransparent := by
  rcases h with ⟨hp, htransparent⟩ | ⟨r, hr, sort, reference, hreference, hsort, -⟩
  · rw [hinside] at hp
    obtain rfl := List.mem_singleton.mp hp
    exact ⟨rfl, htransparent⟩
  · rw [hinside] at hr
    obtain rfl := List.mem_singleton.mp hr
    rw [hreference] at hgroup
    exact absurd (of_decide_eq_true hgroup) hsort

end Occurrence

/-! ### Elements in the tree -/

/-- Wherever an element declaration is expanded, and whatever refers to it, the element accepts the attributes of its
content. -/
theorem Grammar.exists_element_of_target? {start : Occurrence g} {d : Declaration} {global : Bool} {localName : String}
    (htarget : g.target? (g.definitions .element).length d = some ⟨start.definition, global⟩)
    (hname : start.node.attribute? "name" = some localName) (unused : List QName) :
    ∃ tree element, g.expand unused d = some tree ∧ tree.value? = some element ∧ element.name.localName = localName ∧
      element.attributes = (g.content start.definition).attributes := by
  obtain ⟨schema, hschema, -⟩ := Option.bind_eq_some_iff.mp start.node_eq
  obtain ⟨uri, hnameOf⟩ : ∃ uri, g.nameOf? ⟨start.definition, global⟩ = some ⟨uri, localName⟩ := by
    have hlocal : start.definition.node.attribute? "name" = some localName := hname
    have hnumber : g.schemas[start.definition.schema]? = some schema := hschema
    simp only [nameOf?, hlocal, hnumber]
    exact ⟨_, rfl⟩
  by_cases hmem : ⟨uri, localName⟩ ∈ unused
  · exact ⟨_, _, expand_of_unused htarget hnameOf hmem, rfl, rfl, rfl⟩
  · exact ⟨_, _, expand_of_used htarget hnameOf hmem, rfl, rfl, rfl⟩

/-! ### Prohibited attributes -/

/-- Whether a component prohibits an attribute: one that it names or refers to. -/
def Schema.Node.Prohibits (n : Node) (name : String) : Prop :=
  n.kind = .attributeUse ∧ n.attribute? "use" = some "prohibited" ∧
    (n.attribute? "name" = some name ∨
      n.attribute? "name" = none ∧ ∃ reference, n.attribute? "ref" = some reference ∧
        String.ofList (localPart reference.toList) = name)

/-- An element has one type, this is derived from another by a body that prohibits an attribute, and neither the body
nor a group that it refers to declares the attribute otherwise. -/
structure Prohibits (start type : Occurrence g) (name : String) : Prop where
  hasType_iff : ∀ other : Occurrence g, start.HasType other ↔ other = type
  prohibited : ∃ part ∈ type.inside, part.node.kind = .container ∧ ∃ body ∈ part.inside, body.node.kind = .derivation ∧
    ∃ u ∈ body.inside, u.node.Prohibits name
  not_declares : ¬ type.Declares name

/-- **Prohibited attributes.** An element whose type prohibits an attribute accepts it all the same just if one of the
types that its type is derived from declares it, wherever in the chain. -/
theorem Grammar.prohibited_attribute_iff_inherited {start type : Occurrence g} {name : String}
    (h : Prohibits start type name) {localName : String} (hname : start.node.attribute? "name" = some localName)
    {d : Declaration} {global : Bool}
    (htarget : g.target? (g.definitions .element).length d = some ⟨start.definition, global⟩) (unused : List QName) :
    ∃ tree element, g.expand unused d = some tree ∧ tree.value? = some element ∧ element.name.localName = localName ∧
      (name ∈ element.attributes ↔
        ∃ base, Relation.TransGen Occurrence.DerivedFrom type base ∧ base.Declares name) := by
  obtain ⟨tree, element, hexpand, hvalue, hlocal, hattributes⟩ := exists_element_of_target? htarget hname unused
  refine ⟨tree, element, hexpand, hvalue, hlocal, ?_⟩
  rw [hattributes, Occurrence.mem_attributes_iff]
  constructor
  · rintro ⟨other, base, hother, hchain, hdeclares⟩
    obtain rfl := (h.hasType_iff other).mp hother
    rcases Relation.reflTransGen_iff_eq_or_transGen.mp hchain with rfl | hchain
    · exact absurd hdeclares h.not_declares
    · exact ⟨base, hchain, hdeclares⟩
  · rintro ⟨base, hchain, hdeclares⟩
    exact ⟨type, base, (h.hasType_iff type).mpr rfl, hchain.to_reflTransGen, hdeclares⟩

/-- Parts have a color, and bolts are parts that prohibit it. -/
def coloredParts : Grammar :=
  ⟨[.ofRoot (.node .schema []
    [.node .element [("name", "bolt"), ("type", "Bolt")] [],
      .node .complexType [("name", "Part")] [.node .attributeUse [("name", "color")] []],
      .node .complexType [("name", "Bolt")] [.node .container []
        [.node .derivation [("base", "Part")]
          [.node .attributeUse [("name", "color"), ("use", "prohibited")] []]]]])]⟩

namespace ColoredParts

/-! The components of this grammar. -/

def element : Occurrence coloredParts := ⟨0, [0], _, rfl⟩
def part : Occurrence coloredParts := ⟨0, [1], _, rfl⟩
def partColor : Occurrence coloredParts := ⟨0, [1, 0], _, rfl⟩
def bolt : Occurrence coloredParts := ⟨0, [2], _, rfl⟩
def boltContent : Occurrence coloredParts := ⟨0, [2, 0], _, rfl⟩
def boltBody : Occurrence coloredParts := ⟨0, [2, 0, 0], _, rfl⟩
def boltColor : Occurrence coloredParts := ⟨0, [2, 0, 0, 0], _, rfl⟩

theorem means_part : coloredParts.Means .type 0 "Part" part where
  lookup_eq := Grammar.lookup_of_definition? rfl (by decide) rfl
  isGlobal := ⟨⟨⟨"", "Part"⟩, Grammar.mem_definitions_iff_definition?.mpr rfl⟩, 1, rfl, rfl⟩

theorem means_bolt : coloredParts.Means .type 0 "Bolt" bolt where
  lookup_eq := Grammar.lookup_of_definition? rfl (by decide) rfl
  isGlobal := ⟨⟨⟨"", "Bolt"⟩, Grammar.mem_definitions_iff_definition?.mpr rfl⟩, 2, rfl, rfl⟩

theorem hasType_iff (other : Occurrence coloredParts) : element.HasType other ↔ other = bolt := by
  constructor
  · rintro (⟨hinside, -⟩ | ⟨name, hname, hmeans⟩)
    · cases hinside
    · obtain rfl : "Bolt" = name := Option.some.inj hname
      exact hmeans.unique means_bolt
  · rintro rfl
    exact .inr ⟨"Bolt", rfl, means_bolt⟩

theorem derivedFrom : bolt.DerivedFrom part := by
  have hcontent : boltContent ∈ bolt.inside := Occurrence.mem_inside.mpr ⟨rfl, 0, rfl⟩
  have hbody : boltBody ∈ boltContent.inside := Occurrence.mem_inside.mpr ⟨rfl, 0, rfl⟩
  exact Occurrence.derivedFrom_of_base hcontent rfl hbody rfl means_part

theorem declares : part.Declares "color" :=
  ⟨part, .refl, partColor, Occurrence.mem_inside.mpr ⟨rfl, 0, rfl⟩, rfl, by decide, .inl rfl⟩

theorem owns_bolt {p : Occurrence coloredParts} (h : bolt.Owns p) : p = bolt ∨ p = boltContent ∨ p = boltBody := by
  induction h with
  | refl => exact .inl rfl
  | tail _ hstep ih =>
      rcases ih with rfl | rfl | rfl
      · exact .inr (.inl (hstep.eq_of_inside rfl rfl).1)
      · exact .inr (.inr (hstep.eq_of_inside rfl rfl).1)
      · have hcolor : boltBody.inside = [boltColor] := rfl
        cases (hstep.eq_of_inside hcolor rfl).2

theorem prohibits : Prohibits element bolt "color" where
  hasType_iff := hasType_iff
  prohibited := by
    refine ⟨boltContent, Occurrence.mem_inside.mpr ⟨rfl, 0, rfl⟩, rfl, boltBody, ?_⟩
    refine ⟨Occurrence.mem_inside.mpr ⟨rfl, 0, rfl⟩, rfl, boltColor, Occurrence.mem_inside.mpr ⟨rfl, 0, rfl⟩, ?_⟩
    exact ⟨rfl, rfl, .inl rfl⟩
  not_declares := by
    rintro ⟨p, howns, u, hu, hkind, huse, -⟩
    rcases owns_bolt howns with rfl | rfl | rfl
    · obtain rfl : u = boltContent := List.mem_singleton.mp hu
      cases hkind
    · obtain rfl : u = boltBody := List.mem_singleton.mp hu
      cases hkind
    · obtain rfl : u = boltColor := List.mem_singleton.mp hu
      exact huse rfl

open Grammar in
/-- Following the type of bolts, and the type that it is derived from, comes to the color of parts. -/
theorem content_element : coloredParts.content element.definition = ⟨.ofList ["color"], []⟩ := by
  let fresh := coloredParts.keys.erase (keyOf .type bolt.definition)
  have hbolt : keyOf .type bolt.definition ∈ coloredParts.keys := means_bolt.isGlobal.keyOf_mem_keys (by decide)
  have hpart : keyOf .type part.definition ∈ fresh :=
    (List.mem_erase_of_ne (by decide)).mpr (means_part.isGlobal.keyOf_mem_keys (by decide))
  calc coloredParts.content element.definition
    _ = coloredParts.gather coloredParts.keys [.follow .type 0 "Bolt"] := rfl
    _ = coloredParts.gather fresh [.visit boltContent.definition] := by
        rw [gather_follow_of_fresh means_bolt.lookup_eq hbolt]
        rfl
    _ = coloredParts.gather fresh [.visit boltBody.definition] := by
        rw [gather]
        rfl
    _ = coloredParts.gather fresh [.follow .type 0 "Part", .visit boltColor.definition] := by
        conv_lhs => rw [gather]
        rfl
    _ = coloredParts.gather (fresh.erase (keyOf .type part.definition))
          [.visit partColor.definition, .visit boltColor.definition] := by
        rw [gather_follow_of_fresh means_part.lookup_eq hpart]
        rfl
    _ = ⟨.ofList ["color"], []⟩ := by
        rw [gather, gather, gather]
        rfl

theorem tree_eq : coloredParts.tree = .node none [.leaf ⟨⟨"", "bolt"⟩, .ofList ["color"]⟩] := by
  have hname : coloredParts.nameOf? ⟨element.definition, true⟩ = some ⟨"", "bolt"⟩ := rfl
  have htarget : ∀ n, coloredParts.target? n ⟨element.definition, true⟩ = some ⟨element.definition, true⟩ :=
    Grammar.target?_of_no_reference rfl
  refine Grammar.tree_eq_of_expand (n := element.definition) rfl ?_
  rw [Grammar.expand_of_empty (htarget _) hname (congrArg Grammar.Content.particles content_element), content_element]

end ColoredParts

open ColoredParts in
/-- Bolts accept the color of parts. -/
theorem Grammar.prohibited_attribute_iff_inherited_bolt :
    let d : Declaration := ⟨element.definition, true⟩
    Prohibits element bolt "color" ∧ element.node.attribute? "name" = some "bolt" ∧
      coloredParts.target? (coloredParts.definitions .element).length d = some d ∧
      (∃ base, Relation.TransGen Occurrence.DerivedFrom bolt base ∧ base.Declares "color") ∧
      ∃ tree bolt', coloredParts.expand coloredParts.names d = some tree ∧ tree.value? = some bolt' ∧
        bolt'.name.localName = "bolt" ∧
        ("color" ∈ bolt'.attributes ↔
          ∃ base, Relation.TransGen Occurrence.DerivedFrom bolt base ∧ base.Declares "color") := by
  intro d
  have hname : element.node.attribute? "name" = some "bolt" := rfl
  have htarget := target?_of_no_reference (g := coloredParts) (d := d) rfl (coloredParts.definitions .element).length
  exact ⟨prohibits, hname, htarget, ⟨part, .single derivedFrom, declares⟩,
    prohibited_attribute_iff_inherited prohibits hname htarget coloredParts.names⟩

/-- The tree of the grammar has a bolt with a color, although the type of bolts prohibits it. -/
theorem Grammar.accepted_although_prohibited :
    Prohibits ColoredParts.element ColoredParts.bolt "color" ∧
      coloredParts.tree.values = [⟨⟨"", "bolt"⟩, .ofList ["color"]⟩] := by
  have hvalues : coloredParts.tree.values = [⟨⟨"", "bolt"⟩, .ofList ["color"]⟩] := by
    rw [ColoredParts.tree_eq]
    rfl
  exact ⟨ColoredParts.prohibits, hvalues⟩

end XmlDiagnostics
