import XmlDiagnostics.Proofs.Document.Scoping
import XmlDiagnostics.Proofs.Markup.Attributes
import XmlDiagnostics.Proofs.Schema.Outermost
import XmlDiagnostics.Schema.Grammar

/-! # Schemas and the order of their tables

The declarations of namespaces are collected in the order in which a table of attributes lists them, and a later one
replaces an earlier one of the same prefix. The keys of a table are distinct, but `xmlns` and `xmlns:` both declare the
empty prefix. With different values in both, the order decides what names without a prefix mean; in all other schemas it
makes no difference (`ofRoot_eq_ofRoot_iff`). -/

namespace XmlDiagnostics

open Schema

namespace Schema

open Document Markup

/-- Whether the empty prefix is declared by `xmlns` and by `xmlns:`, for different namespaces. -/
def Node.DeclaresTwice (n : Node) : Prop :=
  ∃ uri uri', ("xmlns", uri) ∈ n.attributes ∧ ("xmlns:", uri') ∈ n.attributes ∧ uri ≠ uri'

/-! ### Collecting declarations -/

/-- Whether an attribute declares a prefix. -/
def IsFor (space : List Char) (entry : String × String) : Bool := declaredName? entry.1.toList == some space

/-- A prefix stands for what the last of its declarations says. -/
theorem lookup_collect (attributes : List (String × String)) (space : List Char) :
    (Prefixes.collect attributes).lookup space = (attributes.reverse.find? (IsFor space)).map Prod.snd := by
  show (scopeOf _).lookup space = _
  rw [scopeOf, ← List.filterMap_reverse, ← List.map_reverse, List.filterMap_map]
  refine (lookup_filterMap (fun entry : String × String => declaredName? entry.1.toList)
    (fun entry => String.ofList entry.2.toList) space _).trans ?_
  simp only [String.ofList_toList]
  rfl

theorem Prefixes.ext {p q : Prefixes} (h : ∀ space, p.lookup space = q.lookup space) : p = q := by
  cases p
  cases q
  exact congrArg Prefixes.mk (funext h)

/-- Of declarations that agree, the order does not matter. -/
theorem collect_eq_of_perm {attributes attributes' : List (String × String)} (hperm : attributes.Perm attributes')
    (hagree : ∀ space, ∀ a ∈ attributes, ∀ b ∈ attributes, IsFor space a = true → IsFor space b = true → a.2 = b.2) :
    Prefixes.collect attributes = Prefixes.collect attributes' := by
  refine Prefixes.ext fun space => ?_
  rw [lookup_collect, lookup_collect]
  cases hfound : attributes.reverse.find? (IsFor space) with
  | none =>
      have hnone' : attributes'.reverse.find? (IsFor space) = none := by
        rw [List.find?_eq_none] at hfound ⊢
        exact fun a ha => hfound a (List.mem_reverse.mpr (hperm.mem_iff.mpr (List.mem_reverse.mp ha)))
      rw [hnone']
  | some a =>
      cases hfound' : attributes'.reverse.find? (IsFor space) with
      | none =>
          have hmem := hperm.mem_iff.mp (List.mem_reverse.mp (List.mem_of_find?_eq_some hfound))
          exact absurd (List.find?_some hfound) (List.find?_eq_none.mp hfound' a (List.mem_reverse.mpr hmem))
      | some b =>
          have ha := List.mem_reverse.mp (List.mem_of_find?_eq_some hfound)
          have hb := hperm.mem_iff.mpr (List.mem_reverse.mp (List.mem_of_find?_eq_some hfound'))
          exact congrArg some (hagree space a ha b hb (List.find?_some hfound) (List.find?_some hfound'))

/-! ### Keys that declare one prefix -/

/-- Different keys for one prefix are `xmlns` and `xmlns:`. -/
theorem eq_of_declaredName?_eq {space key key' : List Char} (h : declaredName? key = some space)
    (h' : declaredName? key' = some space) :
    key = key' ∨ space = [] ∧
      (key = "xmlns".toList ∧ key' = "xmlns:".toList ∨ key = "xmlns:".toList ∧ key' = "xmlns".toList) := by
  rcases declaredName?_eq_some_iff.mp h with rfl | ⟨rfl, rfl⟩
  · rcases declaredName?_eq_some_iff.mp h' with rfl | ⟨rfl, rfl⟩
    · exact .inl rfl
    · exact .inr ⟨rfl, .inr ⟨List.append_nil _, rfl⟩⟩
  · rcases declaredName?_eq_some_iff.mp h' with rfl | ⟨-, rfl⟩
    · exact .inr ⟨rfl, .inl ⟨rfl, List.append_nil _⟩⟩
    · exact .inl rfl

variable {n : Node}

theorem agree_of_not_declaresTwice (hkeys : (n.attributes.map Prod.fst).Nodup) (h : ¬ n.DeclaresTwice)
    (space : List Char) : ∀ a ∈ n.attributes, ∀ b ∈ n.attributes,
      IsFor space a = true → IsFor space b = true → a.2 = b.2 := by
  rintro ⟨key, uri⟩ ha ⟨key', uri'⟩ hb hfor hfor'
  rcases eq_of_declaredName?_eq (eq_of_beq hfor) (eq_of_beq hfor') with hsame | ⟨-, ⟨hkey, hkey'⟩ | ⟨hkey, hkey'⟩⟩
  · obtain rfl := String.toList_inj.mp hsame
    exact Option.some.inj (((lookup_eq_some_iff_mem hkeys).mpr ha).symm.trans ((lookup_eq_some_iff_mem hkeys).mpr hb))
  · obtain rfl := String.toList_inj.mp hkey
    obtain rfl := String.toList_inj.mp hkey'
    exact Decidable.byContradiction fun hne => h ⟨uri, uri', ha, hb, hne⟩
  · obtain rfl := String.toList_inj.mp hkey
    obtain rfl := String.toList_inj.mp hkey'
    exact Decidable.byContradiction fun hne => h ⟨uri', uri, hb, ha, Ne.symm hne⟩

/-! ### Orders of tables -/

/-- Without the two declarations the order of the table makes no difference. -/
theorem ofRoot_eq (hkeys : (n.attributes.map Prod.fst).Nodup) (h : ¬ n.DeclaresTwice) (order order' : TableOrder) :
    ofRoot n order = ofRoot n order' := by
  have hscope : Prefixes.collect (order.list n.attributes) = Prefixes.collect (order'.list n.attributes) := by
    refine collect_eq_of_perm ((order.perm _).trans (order'.perm _).symm) fun space a ha b hb => ?_
    exact agree_of_not_declaresTwice hkeys h space a ((order.perm _).mem_iff.mp ha) b ((order.perm _).mem_iff.mp hb)
  unfold ofRoot
  rw [hscope]

/-- The order that lists an entry after all others. -/
def TableOrder.last (entry : String × String) : TableOrder where
  list entries := if entry ∈ entries then entries.erase entry ++ [entry] else entries
  perm entries := by
    split
    · rename_i hmem
      exact (List.perm_append_singleton _ _).trans (List.perm_cons_erase hmem).symm
    · exact .refl _

theorem lookup_ofRoot_last {entry : String × String} (hmem : entry ∈ n.attributes) {space : List Char}
    (hfor : declaredName? entry.1.toList = some space) :
    (ofRoot n (.last entry)).scope.lookup space = some entry.2 := by
  have hlast : IsFor space entry = true := beq_iff_eq.mpr hfor
  show (Prefixes.collect (if entry ∈ n.attributes then n.attributes.erase entry ++ [entry] else n.attributes)).lookup space = _
  rw [if_pos hmem, lookup_collect, List.reverse_append, List.reverse_singleton, List.singleton_append,
    List.find?_cons_of_pos hlast, Option.map_some]

/-- **The order of a table** decides about a schema just if the empty prefix is declared by `xmlns` and by `xmlns:`, for
different namespaces. -/
theorem ofRoot_eq_ofRoot_iff (hkeys : (n.attributes.map Prod.fst).Nodup) :
    (∀ order order', ofRoot n order = ofRoot n order') ↔ ¬ n.DeclaresTwice := by
  refine ⟨?_, ofRoot_eq hkeys⟩
  rintro hsame ⟨uri, uri', hmem, hmem', hne⟩
  have hlookup : (ofRoot n (.last ("xmlns", uri))).scope.lookup [] = (ofRoot n (.last ("xmlns:", uri'))).scope.lookup [] := by
    rw [hsame]
  have hempty : declaredName? "xmlns".toList = some [] := by decide
  have hempty' : declaredName? "xmlns:".toList = some [] := by decide
  rw [lookup_ofRoot_last hmem hempty, lookup_ofRoot_last hmem' hempty'] at hlookup
  exact hne (Option.some.inj hlookup)

/-! ### Reading -/

/-- The order of the table comes in only when the outermost component has been read. -/
theorem read_eq_map (text : List Char) (order : TableOrder) :
    read text order = (read text).map fun schema => ofRoot schema.root order := by
  dsimp only [read]
  cases (tokens text).tokens.foldlM Builder.feed {} with
  | error flaw => rfl
  | ok b =>
      dsimp only [bind, Except.bind]
      split
      · rfl
      · split <;> rfl
      · rfl

theorem nodup_keys_of_read {text : List Char} {order : TableOrder} {schema : Schema} (h : read text order = .ok schema) :
    (schema.root.attributes.map Prod.fst).Nodup := by
  obtain ⟨-, -, -, tag, pairs, -, -, -, hpairs, hroot⟩ := exists_firstTag_of_read h
  rw [hroot, List.map_map]
  have hdistinct := (nodup_keys_of_attributes hpairs).map (f := String.ofList) fun _ _ h => String.ofList_injective h
  rwa [List.map_map] at hdistinct

/-- A text without the two declarations is read in the same way, whatever its tables list first. -/
theorem read_eq_of_not_declaresTwice {text : List Char} (order : TableOrder)
    (h : ∀ schema, read text = .ok schema → ¬ schema.root.DeclaresTwice) : read text order = read text := by
  rw [read_eq_map]
  cases hread : read text with
  | error flaw => rfl
  | ok schema =>
      obtain ⟨-, root, -, -, rfl⟩ := exists_root_of_read hread
      exact congrArg Except.ok (ofRoot_eq (nodup_keys_of_read hread) (h _ hread) order .text)

end Schema

namespace Grammar

theorem schemas_read (texts : List (List Char)) :
    (Grammar.read texts).schemas = texts.filterMap fun text => (Schema.read text).toOption := by
  conv => rhs; rw [← List.zipIdx_map_fst 0 texts, List.filterMap_map]
  rfl

/-- Where no text has the two declarations, the grammar does not depend on the tables. -/
theorem read_eq_of_not_declaresTwice {texts : List (List Char)}
    (h : ∀ schema ∈ (Grammar.read texts).schemas, ¬ schema.root.DeclaresTwice) (orders : Nat → TableOrder) :
    Grammar.read texts orders = Grammar.read texts := by
  refine congrArg Grammar.mk (List.filterMap_congr ?_)
  rintro ⟨text, number⟩ hmem
  refine congrArg Except.toOption (Schema.read_eq_of_not_declaresTwice _ fun schema hread => h schema ?_)
  exact List.mem_filterMap.mpr ⟨(text, number), hmem, congrArg Except.toOption hread⟩

end Grammar

end XmlDiagnostics
