import Blueprint.Proofs.Construction
import Blueprint.Proofs.CycleSearch
import Blueprint.Proofs.DeclarationOrder
import Blueprint.Proofs.Exclusivity

/-!
# Nested creations

Whether new rows may be created in place is an option of the contracts. It decides what the items
of a many-to-many list may be, and nothing else: no other field changes, nor does any table or plan,
although the plans are made from the contracts. Nor does the option decide which defect a model is
rejected for. Only the class by which a cycle is named may differ between two runs, as it may with
the same option, if the classes are tried in another order.
-/
namespace Blueprint

/-- What becomes of a field if new rows may be created in place. The list of a many-to-many
relationship, which is one that has a join table, takes data for the contract of its class besides
ids. Any other field keeps its type. -/
structure Field.Nests (ps : Placements) (s : ContractSet) (plain nested : Field) : Prop where
  name : nested.name = plain.name
  required : nested.required = plain.required
  origin : nested.origin = plain.origin
  manyToMany : ∀ association owns, plain.origin = .relationship association .manyToMany owns →
    ∃ className contract, plain.type = .list className .byReference ∧
      s.get? className = some contract ∧
      nested.type = .list className (.byReferenceOrValue contract.name)
  other : (∀ association owns, plain.origin ≠ .relationship association .manyToMany owns) →
    nested.type = plain.type
  joined : ∀ association cardinality owns,
    plain.origin = .relationship association cardinality owns →
      (cardinality = .manyToMany ↔ ps.get? association = some (.joinTable association))

/-- The contracts differ in their fields only, and those correspond in order. -/
structure Contract.Nests (ps : Placements) (s : ContractSet) (plain nested : Contract) : Prop where
  header : nested = { plain with fields := nested.fields }
  fields : List.Forall₂ (Field.Nests ps s) plain.fields nested.fields

/-- Apart from the fields of the contracts nothing differs. -/
structure Compiled.Nests (plain nested : Compiled) : Prop where
  name : nested.name = plain.name
  placements : nested.placements = plain.placements
  storage : nested.storage = plain.storage
  contracts : List.Forall₂
    (fun k l => l.1 = k.1 ∧ k.2.Nests plain.placements nested.contracts l.2)
    plain.contracts.contracts.entries nested.contracts.contracts.entries
  enumerations : nested.contracts.enumerations = plain.contracts.enumerations
  plans : nested.plans = plain.plans
  skipped : nested.skipped = plain.skipped

namespace Field.Nests

variable {ps : Placements} {s : ContractSet} {f g : Field}

/-- A list stays a list, so nothing becomes a reference and nothing ceases to be one. -/
lemma isReference_eq (h : f.Nests ps s g) : g.isReference = f.isReference := by
  by_cases hmany : ∃ association owns, f.origin = .relationship association .manyToMany owns
  · obtain ⟨association, owns, horigin⟩ := hmany
    obtain ⟨className, contract, hf, -, hg⟩ := h.manyToMany association owns horigin
    simp [isReference, isAttribute, ownsReference, h.origin, hf, hg]
  · have htype := h.other fun association owns horigin => hmany ⟨association, owns, horigin⟩
    simp [isReference, isAttribute, ownsReference, h.origin, htype]

lemma isPassedDown_eq (h : f.Nests ps s g) :
    (g.isAttribute || g.ownsReference) = (f.isAttribute || f.ownsReference) := by
  simp [isAttribute, ownsReference, h.origin]

lemma argument_eq (h : f.Nests ps s g) (declaredBy : String) :
    g.argument declaredBy = f.argument declaredBy := by
  have hattribute : g.isAttribute = f.isAttribute := by simp [isAttribute, h.origin]
  simp only [Field.argument_eq, parameter, binding, h.name, h.isReference_eq, hattribute]

end Field.Nests

namespace Catalog

variable {c : Catalog} {ps : Placements} {s s' : ContractSet} {r : Relationship} {side : Side}
  {id : ClassId}

lemma between_eq_manyToMany_iff (r : Relationship) (side : Side) :
    Cardinality.between (r.endAt side).multiplicity (r.endAt side.opposite).multiplicity =
      .manyToMany ↔ r.ownerSide? = none := by
  rw [Relationship.ownerSide?_eq_none_iff side]
  cases hown : (r.endAt side).multiplicity.isMany <;>
    cases hopposite : (r.endAt side.opposite).multiplicity.isMany <;>
    simp [Cardinality.between, hown, hopposite]

lemma nests_attributeField (a : Attribute) :
    (c.attributeField a).Nests ps s (c.attributeField a) where
  name := rfl
  required := rfl
  origin := rfl
  manyToMany := by simp [attributeField]
  other _ := rfl
  joined := by simp [attributeField]

namespace Coherent

variable (hc : c.Coherent)
include hc

lemma get?_placements_eq_joinTable_iff (hr : r ∈ c.relationships) :
    c.placements.get? r.name = some (.joinTable r.name) ↔ r.ownerSide? = none := by
  rw [hc.get?_placements hr]
  cases howner : r.ownerSide? with
  | none => simp [place_of_no_owner howner]
  | some owner => simp [place_of_owner howner]

/-- Only the field of a relationship without an owner depends on the option. -/
theorem nests_relationshipField (hr : r ∈ c.relationships) (side : Side) :
    (c.relationshipField ⟨false⟩ r side).Nests c.placements (c.contracts c.placements ⟨true⟩)
      (c.relationshipField ⟨true⟩ r side) where
  name := rfl
  required := rfl
  origin := rfl
  manyToMany association owns horigin := by
    have hnone : r.ownerSide? = none :=
      (between_eq_manyToMany_iff r side).1 (Origin.relationship.inj horigin).2.1
    have hentry := entry?_of_lt (hc.ends r hr side.opposite)
    refine ⟨_, _, ?_, className_eq hentry ▸ hc.get?_contracts hentry, ?_⟩
    · simp [relationshipField, hnone, elementType, className_eq hentry]
    · simp [relationshipField, hnone, elementType, className_eq hentry, contract]
  other hother := by
    cases howner : r.ownerSide? with
    | none =>
      have hmany := (between_eq_manyToMany_iff r side).2 howner
      exact absurd (congrArg (Origin.relationship r.name · (r.ownerSide? == some side)) hmany)
        (hother _ _)
    | some owner => simp [relationshipField, howner]
  joined association cardinality owns horigin := by
    obtain ⟨rfl, rfl, -⟩ := Origin.relationship.inj horigin
    rw [between_eq_manyToMany_iff, hc.get?_placements_eq_joinTable_iff hr]

theorem nests_contract (entry : ClassEntry) :
    (c.contract c.placements ⟨false⟩ entry).Nests c.placements (c.contracts c.placements ⟨true⟩)
      (c.contract c.placements ⟨true⟩ entry) where
  header := rfl
  fields := by
    rw [hc.fields_contract, hc.fields_contract]
    refine List.rel_append ?_ ?_
    · exact List.forall₂_map_left_iff.2 (List.forall₂_map_right_iff.2
        (List.forall₂_same.2 fun a _ => nests_attributeField a))
    · refine List.forall₂_map_left_iff.2 (List.forall₂_map_right_iff.2 ?_)
      exact List.forall₂_same.2 fun e he => hc.nests_relationshipField (mem_endsOf.1 he).1 e.2

theorem nests_entries_contracts : List.Forall₂
    (fun k l => l.1 = k.1 ∧
      k.2.Nests c.placements (c.contracts c.placements ⟨true⟩) l.2)
    (c.contracts c.placements ⟨false⟩).contracts.entries
    (c.contracts c.placements ⟨true⟩).contracts.entries := by
  rw [hc.entries_contracts, hc.entries_contracts]
  refine List.forall₂_map_left_iff.2 (List.forall₂_map_right_iff.2 ?_)
  exact List.forall₂_same.2 fun entry _ => ⟨rfl, hc.nests_contract entry⟩

/-! ## Plans -/

lemma nests_fieldsOf (hid : id < c.classes.length) : List.Forall₂
    (Field.Nests c.placements (c.contracts c.placements ⟨true⟩))
    ((c.contracts c.placements ⟨false⟩).fieldsOf (c.className id))
    ((c.contracts c.placements ⟨true⟩).fieldsOf (c.className id)) := by
  have hentry := entry?_of_lt hid
  simp only [ContractSet.fieldsOf, className_eq hentry, hc.get?_contracts hentry,
    Option.map_some, Option.getD_some]
  exact (hc.nests_contract _).fields

/-- The plans are made from the contracts, but not from what the items of a list may be. -/
theorem plan_nested_eq (hid : id < c.classes.length) :
    c.plan (c.contracts c.placements ⟨true⟩) id = c.plan (c.contracts c.placements ⟨false⟩) id := by
  have hinherited : (c.ancestors id).flatMap
        (c.inheritedArguments (c.contracts c.placements ⟨true⟩)) =
      (c.ancestors id).flatMap (c.inheritedArguments (c.contracts c.placements ⟨false⟩)) := by
    refine List.flatMap_congr fun i hi => ?_
    have hlt := hc.lt_of_mem_lineage hid ((List.dropLast_sublist _).subset hi)
    rw [inheritedArguments_eq, inheritedArguments_eq]
    refine (map_eq_map_of_forall₂ (fun f g h => (h.argument_eq (c.className i)).symm)
      (List.rel_filter (fun f g h => ?_) (hc.nests_fieldsOf hlt))).symm
    exact Eq.congr_left h.isPassedDown_eq.symm
  have hown : c.ownArguments (c.contracts c.placements ⟨true⟩) id =
      c.ownArguments (c.contracts c.placements ⟨false⟩) id := by
    rw [hc.ownArguments_eq hid, hc.ownArguments_eq hid]
    exact (map_eq_map_of_forall₂ (fun f g h => (h.argument_eq _).symm)
      (hc.nests_fieldsOf hid)).symm
  have hentry := entry?_of_lt hid
  have hname : ∀ o, ((c.contracts c.placements o).get? (c.className id)).map (·.name) =
      some (contractName c.classes[id].name) := by
    intro o
    rw [className_eq hentry, hc.get?_contracts hentry]
    rfl
  simp only [plan, hinherited, hown, hname]

theorem plans_nested_eq :
    c.plans (c.contracts c.placements ⟨true⟩) = c.plans (c.contracts c.placements ⟨false⟩) := by
  refine List.map_congr_left fun entry hentry => ?_
  exact hc.plan_nested_eq (hc.id_lt (List.mem_filter.1 hentry).1)

theorem nests_compiled : (c.compiled ⟨false⟩).Nests (c.compiled ⟨true⟩) where
  name := rfl
  placements := rfl
  storage := rfl
  contracts := hc.nests_entries_contracts
  enumerations := rfl
  plans := hc.plans_nested_eq
  skipped := rfl

end Coherent

end Catalog

namespace Model

variable {m : Model} {o o' : Options} {order : StartOrder} {defect : Defect}

/-- No option decides why a model is not compiled. -/
lemma compile_eq_error_iff :
    m.compile o order = .error defect ↔ m.compile o' order = .error defect := by
  rw [compile_eq_error_iff_ofModel, compile_eq_error_iff_ofModel]

lemma exists_sameDefect_of_ofModel (h : Catalog.ofModel m order = .error defect)
    (order' : StartOrder) :
    ∃ defect', Catalog.ofModel m order' = .error defect' ∧ m.SameDefect defect defect' := by
  rcases Catalog.ofModel_eq_error_iff.1 h with h | hfields
  · obtain ⟨defect', h', hsame⟩ := exists_sameDefect_of_defect? h order'
    exact ⟨defect', Catalog.ofModel_eq_error_iff.2 (.inl h'), hsame⟩
  · exact ⟨defect, Catalog.ofModel_eq_error_iff.2 (.inr hfields), .refl _⟩

/-- In another order and with other options a model is rejected for the same defect. -/
theorem exists_sameDefect_of_compile (h : m.compile o order = .error defect) (o' : Options)
    (order' : StartOrder) :
    ∃ defect', m.compile o' order' = .error defect' ∧ m.SameDefect defect defect' := by
  rcases compile_eq_error_iff_ofModel.1 h with h | hcolumns
  · obtain ⟨defect', h', hsame⟩ := exists_sameDefect_of_ofModel h order'
    exact ⟨defect', compile_eq_error_iff_ofModel.2 (.inl h'), hsame⟩
  · exact ⟨defect, compile_eq_error_iff_ofModel.2 (.inr hcolumns), .refl _⟩

/-- With and without nested creations a model is rejected for the same defect, or it is compiled to
the same apart from what the items of many-to-many lists may be. If cycles are searched for in one
order, not even the class by which a cycle is named differs; if they are not, nothing else does. -/
theorem nested_creations_change_elements (m : Model) :
    (∀ order defect, m.compile ⟨false⟩ order = .error defect ↔
      m.compile ⟨true⟩ order = .error defect) ∧
    (∀ order order' b defect, m.compile ⟨b⟩ order = .error defect →
      ∃ defect', m.compile ⟨!b⟩ order' = .error defect' ∧ m.SameDefect defect defect') ∧
    ∀ order order' plain, m.compile ⟨false⟩ order = .ok plain →
      ∃ nested, m.compile ⟨true⟩ order' = .ok nested ∧ plain.Nests nested := by
  refine ⟨fun order defect => compile_eq_error_iff,
    fun order order' b defect h => exists_sameDefect_of_compile h _ order',
    fun order order' plain hplain => ?_⟩
  obtain ⟨hm, hfields, hcolumns, rfl⟩ := compile_eq_ok_iff.1 hplain
  exact ⟨_, compile_eq_ok_iff.2 ⟨hm, hfields, hcolumns, rfl⟩, hm.coherent_resolved.nests_compiled⟩

/-- Readers may come with new readers whom they advise or who advise them, but not with new
loans. -/
theorem library_nests_readers : ∃ plain nested, library.compile ⟨false⟩ = .ok plain ∧
    library.compile ⟨true⟩ = .ok nested ∧ plain.Nests nested ∧
    (nested.contracts.fieldsOf "Reader").map (·.type) =
      [.primitive .string, .list "Reader" (.byReferenceOrValue "ReaderCreate"),
        .list "Reader" (.byReferenceOrValue "ReaderCreate"), .list "Book" .byReference] := by
  obtain ⟨plain, hplain⟩ := exists_compiled_of_isOk (m := library) (o := ⟨false⟩)
    (by decide +kernel)
  obtain ⟨nested, hnested, hnests⟩ :=
    (nested_creations_change_elements library).2.2 .declared .declared plain hplain
  refine ⟨plain, nested, hplain, hnested, hnests, ?_⟩
  obtain ⟨-, -, -, rfl⟩ := compile_eq_ok_iff.1 hnested
  decide +kernel

end Model

end Blueprint
