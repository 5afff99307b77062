import XmlDiagnostics.Data.Codec
import XmlDiagnostics.Proofs.Attributes
import XmlDiagnostics.Proofs.Data.Variant

/-! # Serialized forms

Every type that is exchanged is read back from its written form and from the variants of this form
(`ofData?_of_variant`). Counts have to be natural numbers of 64 bits; nothing else limits what can be exchanged. -/

namespace XmlDiagnostics

open Data

variable {defaults : List (String × Data)} {d : Data}

/-! ### Values without fields -/

theorem asString?_of_variant {s : String} (h : Variant defaults (string s) d) : d.asString? = some s := by
  cases h
  rfl

theorem asBool?_of_variant {b : Bool} (h : Variant defaults (bool b) d) : d.asBool? = some b := by
  cases h
  rfl

theorem asCount?_of_variant {n : Nat} (hn : n ≤ 18446744073709551615) (h : Variant defaults (int n) d) :
    d.asCount? = some n := by
  cases h
  have hrange : (0 : Int) ≤ n ∧ (n : Int) ≤ 18446744073709551615 := by omega
  simp [asCount?, asIntIn?, hrange]

theorem asStrings?_of_variant {l : List String} (h : Variant defaults (ofStrings l) d) : d.asStrings? = some l := by
  obtain ⟨items, rfl, hitems⟩ := Variant.exists_list h
  exact mapM_of_forall₂ hitems fun _ _ _ => asString?_of_variant

/-- Among constants with different identifiers, the first with the identifier of a constant is this constant. -/
theorem find?_identifier {α : Type} {identifier : α → String} {all : List α} (hnodup : (all.map identifier).Nodup)
    {a : α} (h : a ∈ all) : (all.find? fun b => identifier b = identifier a) = some a := by
  obtain ⟨before, after, rfl⟩ := List.append_of_mem h
  rw [List.map_append, List.map_cons, List.nodup_middle, List.nodup_cons] at hnodup
  refine List.find?_eq_some_iff_append.mpr ⟨by simp, before, after, rfl, fun b hb => ?_⟩
  have hne : identifier b ≠ identifier a := fun heq =>
    hnodup.1 (List.mem_append_left _ (List.mem_map.mpr ⟨b, hb, heq⟩))
  simpa using hne

theorem MessageKey.ofIdentifier?_identifier (key : MessageKey) : ofIdentifier? key.identifier = some key :=
  find?_identifier (by decide +kernel) (by cases key <;> decide)

theorem ErrorKind.ofIdentifier?_identifier (kind : ErrorKind) : ofIdentifier? kind.identifier = some kind :=
  find?_identifier (by decide +kernel) (by cases kind <;> decide)

theorem MessageKey.ofData?_of_variant {key : MessageKey} (h : Variant defaults key.toData d) :
    MessageKey.ofData? d = some key := by
  cases h
  exact key.ofIdentifier?_identifier

theorem ErrorKind.ofData?_of_variant {kind : ErrorKind} (h : Variant defaults kind.toData d) :
    ErrorKind.ofData? d = some kind := by
  cases h
  exact kind.ofIdentifier?_identifier

theorem StringSet.ofData?_of_variant {set : StringSet} (h : Variant defaults set.toData d) :
    StringSet.ofData? d = some set := by
  rw [StringSet.ofData?, asStrings?_of_variant h, Option.map_some, StringSet.ofList_toList]

/-! ### Positions and names -/

theorem Position.coordinate?_of_variant {word : Int32} (h : Variant defaults (int word.toInt) d) :
    coordinate? d = some word := by
  cases h
  have hrange : -2147483648 ≤ word.toInt ∧ word.toInt ≤ 2147483647 := ⟨word.le_toInt, word.toInt_le⟩
  simp [coordinate?, asIntIn?, hrange]

theorem Position.ofData?_of_variant {p : Position} (h : Variant [] p.toData d) : Position.ofData? d = some p := by
  have hline : d.required? "line" coordinate? = some p.lineWord :=
    h.required? rfl rfl (by simp) fun _ => coordinate?_of_variant
  have hcolumn : d.required? "column" coordinate? = some p.columnWord :=
    h.required? rfl rfl (by simp) fun _ => coordinate?_of_variant
  rw [Position.ofData?, hline, hcolumn]
  rfl

theorem QName.ofData?_of_variant {name : QName} (h : Variant [] name.toData d) : QName.ofData? d = some name := by
  have huri : d.required? "namespace" asString? = some name.namespaceUri :=
    h.required? rfl rfl (by simp) fun _ => asString?_of_variant
  have hlocal : d.required? "local" asString? = some name.localName :=
    h.required? rfl rfl (by simp) fun _ => asString?_of_variant
  rw [QName.ofData?, huri, hlocal]
  rfl

/-! ### Elements -/

theorem mapM_eq_some_filterMap {α β : Type} {f : α → Option β} {l : List α} (h : ∀ a ∈ l, (f a).isSome) :
    l.mapM f = some (l.filterMap f) := by
  induction l with
  | nil => rfl
  | cons a l ih =>
      obtain ⟨b, hb⟩ := Option.isSome_iff_exists.mp (h a List.mem_cons_self)
      rw [List.mapM_cons, hb, ih fun a' ha' => h a' (List.mem_cons_of_mem _ ha'), List.filterMap_cons_some hb]
      rfl

/-- Entries of the written form in another order are the same map. -/
theorem Attributes.ofData?_of_perm {attributes : Attributes} {entries : List (String × Data)}
    (h : entries.Perm (attributes.toList.map fun (key, value) => (key, string value))) :
    ∃ read, Attributes.ofData? (object entries) = some read ∧ ∀ key, read.get? key = attributes.get? key := by
  have hread : entries.mapM stringField? = some (entries.filterMap stringField?) := by
    refine mapM_eq_some_filterMap fun entry hentry => ?_
    obtain ⟨pair, -, rfl⟩ := List.mem_map.mp (h.mem_iff.mp hentry)
    rfl
  have hpairs : (entries.filterMap stringField?).Perm attributes.toList := by
    have hwritten : (attributes.toList.map fun (key, value) => (key, string value)).filterMap stringField? =
        attributes.toList := by
      rw [List.filterMap_map]
      exact List.filterMap_some
    have hperm := h.filterMap stringField?
    rwa [hwritten] at hperm
  refine ⟨_, ?_, Attributes.get?_ofList_of_perm hpairs⟩
  rw [Attributes.ofData?, hread]
  rfl

/-- Two document elements have the same name, the same span, and attributes that are the same map. -/
def Element.Same (a b : Element) : Prop :=
  a.name = b.name ∧ a.start = b.start ∧ a.stop = b.stop ∧ ∀ key, a.attribute? key = b.attribute? key

theorem Element.ofData?_of_variant {element : Element} (h : Variant [] element.toData d) :
    ∃ read, Element.ofData? d = some read ∧ read.Same element := by
  have hname : d.required? "name" QName.ofData? = some element.name :=
    h.required? rfl rfl (by simp [QName.toData]) fun _ => QName.ofData?_of_variant
  obtain ⟨entries, hfield, hperm⟩ := h.mapField? "attributes" rfl rfl
  obtain ⟨attributes, hread, hsame⟩ := Attributes.ofData?_of_perm hperm
  have hattributes : d.required? "attributes" Attributes.ofData? = some attributes := by
    rw [required?, hfield]
    exact hread
  have hstart : d.required? "start" Position.ofData? = some element.start :=
    h.required? rfl rfl (by simp [Position.toData]) fun _ => Position.ofData?_of_variant
  have hstop : d.required? "end" Position.ofData? = some element.stop :=
    h.required? rfl rfl (by simp [Position.toData]) fun _ => Position.ofData?_of_variant
  refine ⟨⟨element.name, attributes, element.start, element.stop⟩, ?_, rfl, rfl, rfl, hsame⟩
  rw [Element.ofData?, hname, hattributes, hstart, hstop]
  rfl

theorem GrammarElement.ofData?_of_variant {element : GrammarElement} (h : Variant [] element.toData d) :
    GrammarElement.ofData? d = some element := by
  have hname : d.required? "name" QName.ofData? = some element.name :=
    h.required? rfl rfl (by simp [QName.toData]) fun _ => QName.ofData?_of_variant
  have hattributes : d.required? "attributes" StringSet.ofData? = some element.attributes :=
    h.required? rfl rfl (by simp [StringSet.toData, ofStrings]) fun _ => StringSet.ofData?_of_variant
  rw [GrammarElement.ofData?, hname, hattributes]
  rfl

/-! ### Messages and diagnoses -/

theorem Message.ofData?_of_variant {message : Message} (h : Variant [] message.toData d) :
    Message.ofData? d = some message := by
  have hkey : d.required? "key" MessageKey.ofData? = some message.key :=
    h.required? rfl rfl (by simp [MessageKey.toData]) fun _ => MessageKey.ofData?_of_variant
  have hargs : d.required? "args" asStrings? = some message.args :=
    h.required? rfl rfl (by simp [ofStrings]) fun _ => asStrings?_of_variant
  rw [Message.ofData?, hkey, hargs]
  rfl

theorem Message.listOfData?_of_variant {messages : List Message} (h : Variant [] (list (messages.map toData)) d) :
    Message.listOfData? d = some messages := by
  obtain ⟨items, rfl, hitems⟩ := Variant.exists_list h
  exact mapM_of_forall₂ hitems fun _ _ _ => Message.ofData?_of_variant

theorem Diagnosis.listToData_eq (diagnoses : List Diagnosis) : listToData diagnoses = diagnoses.map toData := by
  induction diagnoses with
  | nil => rfl
  | cons diagnosis diagnoses ih => rw [listToData, ih, List.map_cons]

theorem Diagnosis.listOfData?_eq (items : List Data) : listOfData? items = items.mapM ofData? := by
  induction items with
  | nil => rw [listOfData?]; rfl
  | cons item items ih => rw [listOfData?, ih, List.mapM_cons]

/-- A diagnosis is read if those inside it are. -/
theorem Diagnosis.ofData?_of_nested {diagnosis : Diagnosis}
    (hinner : ∀ inner ∈ diagnosis.nested, ∀ d, Variant [] inner.toData d → Diagnosis.ofData? d = some inner)
    (h : Variant [] diagnosis.toData d) : Diagnosis.ofData? d = some diagnosis := by
  obtain ⟨position, primary, secondary, nested, malformed⟩ := diagnosis
  have hposition : d.required? "position" Position.ofData? = some position :=
    h.required? rfl rfl (by simp [Position.toData]) fun _ => Position.ofData?_of_variant
  have hprimary : d.optional? "primary_message" Message.ofData? = some primary :=
    h.optional? rfl rfl (by simp [Message.toData]) fun _ _ => Message.ofData?_of_variant
  have hsecondary : d.required? "secondary_messages" Message.listOfData? = some secondary :=
    h.required? rfl rfl (by simp) fun _ => Message.listOfData?_of_variant
  have hmalformed : d.required? "possibly_malformed" asBool? = some malformed :=
    h.required? rfl rfl (by simp) fun _ => asBool?_of_variant
  have hnested : ∃ items, d.field? "secondary_results" = some (list items) ∧ listOfData? items = some nested := by
    rcases h.field? "secondary_results" rfl rfl with ⟨value, hvalue, hvariant⟩ | ⟨hmay, -⟩
    · rw [listToData_eq] at hvariant
      obtain ⟨items, rfl, hitems⟩ := Variant.exists_list hvariant
      refine ⟨items, hvalue, ?_⟩
      rw [listOfData?_eq]
      exact mapM_of_forall₂ hitems fun inner hmem d => hinner inner hmem d
    · simp at hmay
  obtain ⟨items, hfield, hitems⟩ := hnested
  rw [Diagnosis.ofData?]
  split
  · rename_i items' hfield'
    obtain rfl : items = items' := by simpa [hfield] using hfield'
    rw [hposition, hprimary, hsecondary, hitems, hmalformed]
    rfl
  · rename_i hnone
    exact absurd hfield (hnone items)

theorem Diagnosis.ofData?_of_variant {diagnosis : Diagnosis} (h : Variant [] diagnosis.toData d) :
    Diagnosis.ofData? d = some diagnosis := by
  have hall : ∀ diagnoses : List Diagnosis, ∀ inner ∈ diagnoses, ∀ d, Variant [] inner.toData d →
      Diagnosis.ofData? d = some inner := by
    intro diagnoses
    induction diagnoses using nested_induction with
    | nil => exact List.forall_mem_nil _
    | cons diagnosis rest ihNested ih =>
        exact List.forall_mem_cons.mpr ⟨fun _ => Diagnosis.ofData?_of_nested ihNested, ih⟩
  exact Diagnosis.ofData?_of_nested (hall diagnosis.nested) h

/-! ### Validation errors -/

theorem ValidationError.ofData?_of_variant {error : ValidationError} (h : Variant [] error.toData d) :
    ValidationError.ofData? d = some error := by
  have hkind : d.required? "error_type" ErrorKind.ofData? = some error.kind :=
    h.required? rfl rfl (by simp [ErrorKind.toData]) fun _ => ErrorKind.ofData?_of_variant
  have hmessage : d.required? "message" asString? = some error.message :=
    h.required? rfl rfl (by simp) fun _ => asString?_of_variant
  have hposition : d.required? "position" Position.ofData? = some error.position :=
    h.required? rfl rfl (by simp [Position.toData]) fun _ => Position.ofData?_of_variant
  have helement : d.optional? "element" QName.ofData? = some error.element :=
    h.optional? rfl rfl (by simp [QName.toData]) fun _ _ => QName.ofData?_of_variant
  have hattribute : d.optional? "attribute" QName.ofData? = some error.attributeName :=
    h.optional? rfl rfl (by simp [QName.toData]) fun _ _ => QName.ofData?_of_variant
  have hvalue : d.optional? "attribute_value" asString? = some error.attributeValue :=
    h.optional? rfl rfl (by simp) fun _ _ => asString?_of_variant
  have halternatives : d.required? "alternatives" StringSet.ofData? = some error.alternatives :=
    h.required? rfl rfl (by simp [StringSet.toData, ofStrings]) fun _ => StringSet.ofData?_of_variant
  have hfallback : d.optional? "fallback_message" asString? = some error.fallbackMessage :=
    h.optional? rfl rfl (by simp) fun _ _ => asString?_of_variant
  rw [ValidationError.ofData?, hkind, hmessage, hposition, helement, hattribute, hvalue, halternatives, hfallback]
  rfl

/-! ### Configuration -/

/-- The fields of the configuration and of its sections, with their defaults. -/
def Config.defaultFields : List (String × Data) := [
  ("encoding", EncodingConfig.toData {}), ("schema", SchemaConfig.toData {}),
  ("suggestions", SuggestionConfig.toData {}),
  ("detect_bom", bool true), ("detect_declaration", bool true), ("fallback", string "UTF-8"),
  ("filter_by_namespace", bool true), ("extension", string "xsd"),
  ("max_edit_distance", int 2), ("max_alternatives", int 10)]

/-- The counts are natural numbers of 64 bits. -/
def SuggestionConfig.Fits (config : SuggestionConfig) : Prop :=
  config.maxEditDistance ≤ 18446744073709551615 ∧ config.maxAlternatives ≤ 18446744073709551615

instance (config : SuggestionConfig) : Decidable config.Fits := inferInstanceAs (Decidable (_ ∧ _))

open Config (defaultFields)

theorem EncodingConfig.ofData?_of_variant {config : EncodingConfig} (h : Variant defaultFields config.toData d) :
    EncodingConfig.ofData? d = some config := by
  have hbom : d.defaulted? "detect_bom" true asBool? = some config.detectBom :=
    h.defaulted? rfl rfl (by simp) (by simp [defaultFields]) fun _ => asBool?_of_variant
  have hdeclaration : d.defaulted? "detect_declaration" true asBool? = some config.detectDeclaration :=
    h.defaulted? rfl rfl (by simp) (by simp [defaultFields]) fun _ => asBool?_of_variant
  have hfallback : d.defaulted? "fallback" "UTF-8" asString? = some config.fallback :=
    h.defaulted? rfl rfl (by simp) (by simp [defaultFields]) fun _ => asString?_of_variant
  rw [EncodingConfig.ofData?, h.isObject, hbom, hdeclaration, hfallback]
  rfl

theorem SchemaConfig.ofData?_of_variant {config : SchemaConfig} (h : Variant defaultFields config.toData d) :
    SchemaConfig.ofData? d = some config := by
  have hfilter : d.defaulted? "filter_by_namespace" true asBool? = some config.filterByNamespace :=
    h.defaulted? rfl rfl (by simp) (by simp [defaultFields]) fun _ => asBool?_of_variant
  have hextension : d.defaulted? "extension" "xsd" asString? = some config.extension :=
    h.defaulted? rfl rfl (by simp) (by simp [defaultFields]) fun _ => asString?_of_variant
  rw [SchemaConfig.ofData?, h.isObject, hfilter, hextension]
  rfl

theorem SuggestionConfig.ofData?_of_variant {config : SuggestionConfig} (hfits : config.Fits)
    (h : Variant defaultFields config.toData d) : SuggestionConfig.ofData? d = some config := by
  have hdistance : d.defaulted? "max_edit_distance" 2 asCount? = some config.maxEditDistance :=
    h.defaulted? rfl rfl (by simp) (by simp [defaultFields]; omega) fun _ => asCount?_of_variant hfits.1
  have halternatives : d.defaulted? "max_alternatives" 10 asCount? = some config.maxAlternatives :=
    h.defaulted? rfl rfl (by simp) (by simp [defaultFields]; omega) fun _ => asCount?_of_variant hfits.2
  rw [SuggestionConfig.ofData?, h.isObject, hdistance, halternatives]
  rfl

theorem EncodingConfig.toData_inj {a b : EncodingConfig} : a.toData = b.toData ↔ a = b := by
  cases a
  cases b
  simp [toData]

theorem SchemaConfig.toData_inj {a b : SchemaConfig} : a.toData = b.toData ↔ a = b := by
  cases a
  cases b
  simp [toData]

theorem SuggestionConfig.toData_inj {a b : SuggestionConfig} : a.toData = b.toData ↔ a = b := by
  cases a
  cases b
  grind [toData]

theorem Config.ofData?_of_variant {config : Config} (hfits : config.suggestions.Fits)
    (h : Variant defaultFields config.toData d) : Config.ofData? d = some config := by
  have hencoding : d.defaulted? "encoding" {} EncodingConfig.ofData? = some config.encoding :=
    h.defaulted? rfl rfl (by simp [EncodingConfig.toData]) (by simp [defaultFields, EncodingConfig.toData_inj])
      fun _ => EncodingConfig.ofData?_of_variant
  have hschema : d.defaulted? "schema" {} SchemaConfig.ofData? = some config.schema :=
    h.defaulted? rfl rfl (by simp [SchemaConfig.toData]) (by simp [defaultFields, SchemaConfig.toData_inj])
      fun _ => SchemaConfig.ofData?_of_variant
  have hsuggestions : d.defaulted? "suggestions" {} SuggestionConfig.ofData? = some config.suggestions :=
    h.defaulted? rfl rfl (by simp [SuggestionConfig.toData]) (by simp [defaultFields, SuggestionConfig.toData_inj])
      fun _ => SuggestionConfig.ofData?_of_variant hfits
  rw [Config.ofData?, h.isObject, hencoding, hschema, hsuggestions]
  rfl

/-! ### The exchanged types together -/

/-- **Nothing is lost in the exchange.** Every value is read back from every variant of its written form, and the
written form is one of them; the attributes of a document element come back as the same map. -/
theorem exchange_loses_nothing :
    (∀ diagnosis : Diagnosis, ∀ d, Variant [] diagnosis.toData d →
      Diagnosis.ofData? d = some diagnosis) ∧
    (∀ error : ValidationError, ∀ d, Variant [] error.toData d →
      ValidationError.ofData? d = some error) ∧
    (∀ element : Element, ∀ d, Variant [] element.toData d →
      ∃ read, Element.ofData? d = some read ∧ read.Same element) ∧
    (∀ element : GrammarElement, ∀ d, Variant [] element.toData d → GrammarElement.ofData? d = some element) ∧
    (∀ config : Config, config.suggestions.Fits → ∀ d, Variant defaultFields config.toData d →
      Config.ofData? d = some config) :=
  ⟨fun _ _ => Diagnosis.ofData?_of_variant, fun _ _ => ValidationError.ofData?_of_variant,
    fun _ _ => Element.ofData?_of_variant, fun _ _ => GrammarElement.ofData?_of_variant,
    fun _ hfits _ => Config.ofData?_of_variant hfits⟩

/-- A diagnosis inside another one, without its absent message and with a field more; an error with nothing but its
kind, message, place and names; an element whose attributes change places; and a configuration of one setting. -/
theorem exchange_loses_nothing_changed :
    Diagnosis.ofData? (object [("position", object [("column", int 4), ("line", int 2)]), ("primary_message", null),
      ("secondary_messages", list []), ("secondary_results", list [object [
        ("position", Position.toData ⟨1, 1⟩), ("note", int 7), ("secondary_messages", list []),
        ("secondary_results", list []), ("possibly_malformed", bool true)]]),
      ("possibly_malformed", bool false)]) = some ⟨⟨2, 4⟩, none, [], [⟨⟨1, 1⟩, none, [], [], true⟩], false⟩ ∧
    ValidationError.ofData? (object [("error_type", string "UnknownError"), ("message", string "m"),
      ("position", Position.toData ⟨-1, -1⟩), ("alternatives", list [string "a", string "b"])]) =
      some ⟨.unknownError, "m", ⟨-1, -1⟩, none, none, none, .ofList ["b", "a"], none⟩ ∧
    (∃ read, Element.ofData? (object [("name", QName.toData ⟨"", "a"⟩),
        ("attributes", object [("y", string "2"), ("x", string "1")]), ("start", Position.toData ⟨1, 1⟩),
        ("end", Position.toData ⟨1, 5⟩), ("depth", null)]) = some read ∧
      read.Same ⟨⟨"", "a"⟩, .ofList [("x", "1"), ("y", "2")], ⟨1, 1⟩, ⟨1, 5⟩⟩) ∧
    GrammarElement.ofData? (object [("attributes", list [string "x"]), ("name", QName.toData ⟨"", "a"⟩)]) =
      some ⟨⟨"", "a"⟩, .ofList ["x"]⟩ ∧
    Config.ofData? (object [("suggestions", object [("max_edit_distance", int 3)])]) =
      some { suggestions := { maxEditDistance := 3 } } := by
  have hinner : Variant [] (Diagnosis.toData ⟨⟨1, 1⟩, none, [], [], true⟩) (object [
      ("position", Position.toData ⟨1, 1⟩), ("note", int 7), ("secondary_messages", list []),
      ("secondary_results", list []), ("possibly_malformed", bool true)]) := by
    refine .object ?_
    simp only [List.forall_mem_cons]
    exact ⟨.kept rfl rfl .same, .omitted (.inl rfl) (by decide), .kept rfl rfl .same, .kept rfl rfl .same,
      .kept rfl rfl .same, List.forall_mem_nil _⟩
  have hposition : Variant [] (Position.toData ⟨2, 4⟩) (object [("column", int 4), ("line", int 2)]) := by
    refine .object ?_
    simp only [List.forall_mem_cons]
    exact ⟨.kept rfl rfl .same, .kept rfl rfl .same, List.forall_mem_nil _⟩
  have hsuggestions : Variant defaultFields (SuggestionConfig.toData { maxEditDistance := 3 })
      (object [("max_edit_distance", int 3)]) := by
    refine .object ?_
    simp only [List.forall_mem_cons]
    exact ⟨.kept rfl rfl .same, .omitted (.inr (by simp [defaultFields])) (by decide), List.forall_mem_nil _⟩
  refine ⟨exchange_loses_nothing.1 _ _ (.object ?_),
    exchange_loses_nothing.2.1 _ _ (.object ?_),
    exchange_loses_nothing.2.2.1 _ _ (.object ?_),
    exchange_loses_nothing.2.2.2.1 _ _ (.object ?_),
    exchange_loses_nothing.2.2.2.2 _ (by decide) _ (.object ?_)⟩
  all_goals simp only [List.forall_mem_cons]
  · exact ⟨.kept rfl rfl hposition, .kept rfl rfl .same, .kept rfl rfl .same,
      .kept rfl rfl (.list (.cons hinner .nil)), .kept rfl rfl .same, List.forall_mem_nil _⟩
  · exact ⟨.kept rfl rfl .same, .kept rfl rfl .same, .kept rfl rfl .same, .omitted (.inl rfl) (by decide),
      .omitted (.inl rfl) (by decide), .omitted (.inl rfl) (by decide), .kept rfl rfl .same,
      .omitted (.inl rfl) (by decide), List.forall_mem_nil _⟩
  · exact ⟨.kept rfl rfl .same, .map rfl rfl (.swap _ _ _), .kept rfl rfl .same, .kept rfl rfl .same,
      List.forall_mem_nil _⟩
  · exact ⟨.kept rfl rfl .same, .kept rfl rfl .same, List.forall_mem_nil _⟩
  · exact ⟨.omitted (.inr (by simp [defaultFields])) (by decide), .omitted (.inr (by simp [defaultFields])) (by decide),
      .kept rfl rfl hsuggestions, List.forall_mem_nil _⟩

end XmlDiagnostics
