import Blueprint.Proofs.Lookups
import Mathlib.Data.List.DropRight
import Mathlib.Data.List.TakeWhile

/-!
# Contracts along a lineage

The contract of a class has the fields that the class declares itself, under the names that the
catalog compares along a lineage. The chain of contracts follows the chain of generals, so that the
effective fields of a class are those of its lineage, the root's first.
-/
namespace Blueprint

namespace ContractSet

/-- The fields of the contract of a class. -/
def fieldsOf (s : ContractSet) (className : String) : List Field :=
  ((s.get? className).map (·.fields)).getD []

/-- The set without the contracts of some classes. -/
def without (s : ContractSet) (names : List String) : ContractSet :=
  { s with contracts := s.contracts.without names }

variable {s full : ContractSet} {names chain : List String} {className : String}

@[simp] lemma without_nil (s : ContractSet) : s.without [] = s := by
  simp [without, NameTable.without]

lemma get?_without (s : ContractSet) (names : List String) (className : String) :
    (s.without names).get? className = if className ∈ names then none else s.get? className :=
  s.contracts.get?_without names className

/-- The effective fields are those of the contracts along the chain. -/
lemma effectiveFields_eq_flatMap (h : (s.lineage className).map some = chain.map full.get?) :
    s.effectiveFields className = chain.flatMap full.fieldsOf := by
  calc s.effectiveFields className
      = ((s.lineage className).map some).flatMap
          fun contract => (contract.map (·.fields)).getD [] := by
        rw [List.flatMap_map]
        rfl
    _ = chain.flatMap full.fieldsOf := by
        rw [h, List.flatMap_map]
        rfl

end ContractSet

namespace Catalog

variable {c : Catalog} {o : Options} {id : ClassId}

/-- The fields of a class: its attributes, and then one for each end at which it takes part. -/
def fieldsAt (c : Catalog) (o : Options) (id : ClassId) : List Field :=
  ((c.entry? id).map fun entry => entry.attributes.map c.attributeField).getD [] ++
    (c.endsOf id).map fun e => c.relationshipField o e.1 e.2

lemma map_name_fieldsAt (id : ClassId) : (c.fieldsAt o id).map (·.name) = c.ownFieldNames id := by
  rw [fieldsAt, ownFieldNames, List.map_append, List.map_map]
  congr 1
  cases c.entry? id with
  | none => rfl
  | some entry => simp [attributeField, Function.comp_def]

lemma isAttribute_of_mem_attributes {f : Field} (h : f ∈ ((c.entry? id).map fun entry =>
    entry.attributes.map c.attributeField).getD []) : f.isAttribute = true := by
  cases hentry : c.entry? id with
  | none => simp [hentry] at h
  | some entry =>
    obtain ⟨a, -, rfl⟩ := List.mem_map.1 (by simpa [hentry] using h)
    simp [attributeField, Field.isAttribute]

lemma isAttribute_relationshipField (r : Relationship) (side : Side) :
    (c.relationshipField o r side).isAttribute = false := rfl

lemma isAttribute_of_mem_relationships {f : Field}
    (h : f ∈ (c.endsOf id).map fun e => c.relationshipField o e.1 e.2) : f.isAttribute = false := by
  obtain ⟨⟨r, side⟩, -, rfl⟩ := List.mem_map.1 h
  exact isAttribute_relationshipField r side

/-- A required field is passed down to the specifics of its class. -/
lemma isAttribute_or_ownsReference_of_required {f : Field} (h : f ∈ c.fieldsAt o id)
    (hrequired : f.required = true) : (f.isAttribute || f.ownsReference) = true := by
  rcases List.mem_append.1 h with h | h
  · simp [isAttribute_of_mem_attributes h]
  · obtain ⟨⟨r, side⟩, -, rfl⟩ := List.mem_map.1 h
    have howner : (r.ownerSide? == some side) = true := (Bool.and_eq_true_iff.1 hrequired).1
    simp [Field.ownsReference, relationshipField, howner]

lemma parentClass_contract {entry : ClassEntry} {ps : Placements} (h : c.entry? id = some entry) :
    (c.contract ps o entry).parentClass = (c.general? id).map c.className := by
  simp [contract, general?, h]

namespace Coherent

variable (hc : c.Coherent)
include hc

lemma fields_contract_eq_fieldsAt {entry : ClassEntry} (h : c.entry? id = some entry) :
    (c.contract c.placements o entry).fields = c.fieldsAt o id := by
  rw [hc.fields_contract, fieldsAt, h, Option.map_some, Option.getD_some, hc.ids id entry h]

theorem fieldsOf_contracts (hid : id < c.classes.length) :
    (c.contracts c.placements o).fieldsOf (c.className id) = c.fieldsAt o id := by
  have hentry := entry?_of_lt hid
  rw [ContractSet.fieldsOf, className_eq hentry, hc.get?_contracts hentry, Option.map_some,
    Option.getD_some, hc.fields_contract_eq_fieldsAt hentry]

lemma attributeFields_contract (entry : ClassEntry) :
    (c.contract c.placements o entry).attributeFields = entry.attributes.map c.attributeField := by
  have hattributes : ∀ f ∈ entry.attributes.map c.attributeField, f.isAttribute = true := by
    simp [attributeField, Field.isAttribute]
  have hrelationships : ((c.endsOf entry.id).map fun e =>
      c.relationshipField o e.1 e.2).filter (·.isAttribute) = [] :=
    List.filter_eq_nil_iff.2 fun f hf => by simp [isAttribute_of_mem_relationships hf]
  rw [Contract.attributeFields, hc.fields_contract, List.filter_append,
    List.filter_eq_self.2 hattributes, hrelationships, List.append_nil]

lemma relationshipFields_contract (entry : ClassEntry) :
    (c.contract c.placements o entry).relationshipFields =
      (c.endsOf entry.id).map fun e => c.relationshipField o e.1 e.2 := by
  have hattributes : (entry.attributes.map c.attributeField).filter (!·.isAttribute) = [] := by
    simp [attributeField, Field.isAttribute]
  have hrelationships : ∀ f ∈ (c.endsOf entry.id).map fun e => c.relationshipField o e.1 e.2,
      (!f.isAttribute) = true := fun f hf => by simp [isAttribute_of_mem_relationships hf]
  rw [Contract.relationshipFields, hc.fields_contract, List.filter_append, hattributes,
    List.filter_eq_self.2 hrelationships, List.nil_append]

/-- Attributes come first in a contract, so that its two kinds of fields make up all fields. -/
lemma attributeFields_append_relationshipFields (entry : ClassEntry) :
    (c.contract c.placements o entry).attributeFields ++
      (c.contract c.placements o entry).relationshipFields =
        (c.contract c.placements o entry).fields := by
  rw [hc.attributeFields_contract, hc.relationshipFields_contract, hc.fields_contract]

/-! ## Chains of contracts -/

variable {ps : Placements}

/-- The chain of contracts goes along the chain of generals, up to the first class whose contract is
left out. -/
lemma map_some_upwards {names : List String} {chain : List ClassId} {steps : ℕ}
    (h : Ascent c.Rises id chain) (hid : id < c.classes.length)
    (hsteps : (chain.takeWhile fun i => c.className i ∉ names).length ≤ steps) :
    (((c.contracts ps o).without names).upwards steps (c.className id)).map some =
      (chain.takeWhile fun i => c.className i ∉ names).map
        fun i => (c.contracts ps o).get? (c.className i) := by
  induction h generalizing steps with
  | @top id htop =>
    have hentry := entry?_of_lt hid
    have hgeneral : c.general? id = none := Option.eq_none_iff_forall_ne_some.2 htop
    have hget : (c.contracts ps o).get? (c.className id) = some (c.contract ps o c.classes[id]) :=
      hc.get?_contracts_className hid
    by_cases hmem : c.className id ∈ names
    · cases steps <;> simp [ContractSet.upwards, ContractSet.get?_without, hmem]
    · cases steps with
      | zero => simp [hmem] at hsteps
      | succ steps =>
        simp [ContractSet.upwards, ContractSet.get?_without, hmem, hget,
          parentClass_contract hentry, hgeneral]
  | @step id general chain hrise hchain ih =>
    have hentry := entry?_of_lt hid
    have hgeneral : c.general? id = some general := hrise
    have hget : (c.contracts ps o).get? (c.className id) = some (c.contract ps o c.classes[id]) :=
      hc.get?_contracts_className hid
    by_cases hmem : c.className id ∈ names
    · cases steps <;> simp [ContractSet.upwards, ContractSet.get?_without, hmem]
    · cases steps with
      | zero => simp [hmem] at hsteps
      | succ steps =>
        have hlength : (chain.takeWhile fun i => c.className i ∉ names).length ≤ steps := by
          simpa [hmem] using hsteps
        have hrest := ih (hc.generals _ _ hrise) hlength
        simp [ContractSet.upwards, ContractSet.get?_without, hmem, hget,
          parentClass_contract hentry, hgeneral, hrest]

/-- No chain of contracts has more of them than there are. -/
lemma length_le_size_without (ps : Placements) (o : Options) (names : List String)
    {chain : List ClassId} (h : Ascent c.Rises id chain) (hid : id < c.classes.length) :
    (chain.takeWhile fun i => c.className i ∉ names).length ≤
      ((c.contracts ps o).without names).contracts.size := by
  have hlt : ∀ i ∈ chain, i < c.classes.length := fun i hi => hc.lt_of_mem_ascent h hid hi
  have hsublist := List.takeWhile_sublist (l := chain) fun i => c.className i ∉ names
  have hnd : ((chain.takeWhile fun i => c.className i ∉ names).map c.className).Nodup := by
    refine ((h.nodup hc.grounded).sublist hsublist).map_on fun i hi j hj heq => ?_
    exact hc.className_inj (hlt i (hsublist.subset hi)) (hlt j (hsublist.subset hj)) heq
  have hsub : (chain.takeWhile fun i => c.className i ∉ names).map c.className ⊆
      ((c.contracts ps o).without names).contracts.names := by
    intro name hname
    obtain ⟨i, hi, rfl⟩ := List.mem_map.1 hname
    have hnot : c.className i ∉ names := by simpa using List.mem_takeWhile_imp hi
    have hget := (c.contracts ps o).get?_without names (c.className i)
    rw [if_neg hnot, hc.get?_contracts_className (hlt i (hsublist.subset hi))] at hget
    exact NameTable.mem_names_iff.2 ⟨_, hget⟩
  simpa [NameTable.size, NameTable.names] using (hnd.subperm hsub).length_le

/-- However many steps are allowed beyond the number of contracts, the chain of contracts is the
same, so it ends by itself. -/
lemma upwards_without_eq {names : List String} {steps : ℕ} (hid : id < c.classes.length)
    (hsteps : ((c.contracts ps o).without names).contracts.size ≤ steps) :
    (((c.contracts ps o).without names).upwards steps (c.className id)).reverse =
      ((c.contracts ps o).without names).lineage (c.className id) := by
  obtain ⟨chain, hchain⟩ := hc.exists_ascent id
  have hle := hc.length_le_size_without ps o names hchain hid
  rw [ContractSet.lineage, List.reverse_inj]
  refine List.map_injective_iff.2 (fun _ _ => Option.some.inj) ?_
  rw [hc.map_some_upwards hchain hid hle, hc.map_some_upwards hchain hid (hle.trans hsteps)]

/-- The chain of contracts down to that of a class starts below the last class of the lineage whose
contract is left out. -/
theorem map_some_lineage_without (ps : Placements) (o : Options) (names : List String)
    (hid : id < c.classes.length) :
    (((c.contracts ps o).without names).lineage (c.className id)).map some =
      ((c.lineage id).rtakeWhile fun i => c.className i ∉ names).map
        fun i => (c.contracts ps o).get? (c.className i) := by
  obtain ⟨chain, hchain⟩ := hc.exists_ascent id
  have hle := hc.length_le_size_without ps o names hchain hid
  rw [ContractSet.lineage, hc.lineage_eq hchain, List.rtakeWhile_reverse, List.map_reverse,
    List.map_reverse, hc.map_some_upwards hchain hid hle]

/-- The chain of contracts down to that of a class has those of its lineage. -/
theorem map_some_lineage (hid : id < c.classes.length) :
    ((c.contracts ps o).lineage (c.className id)).map some =
      (c.lineage id).map fun i => (c.contracts ps o).get? (c.className i) := by
  have hall : (c.lineage id).rtakeWhile (fun i => c.className i ∉ ([] : List String)) =
      c.lineage id := List.rtakeWhile_eq_self_iff.2 (by simp)
  rw [← hall, ← hc.map_some_lineage_without ps o [] hid, ContractSet.without_nil]

theorem effectiveFields_contracts (hid : id < c.classes.length) :
    (c.contracts ps o).effectiveFields (c.className id) =
      (c.lineage id).flatMap fun i => (c.contracts ps o).fieldsOf (c.className i) := by
  have hlineage : ((c.contracts ps o).lineage (c.className id)).map some =
      (c.lineage id).map fun i => (c.contracts ps o).get? (c.className i) :=
    hc.map_some_lineage hid
  rw [← Function.comp_def, ← List.map_map] at hlineage
  rw [ContractSet.effectiveFields_eq_flatMap hlineage, List.flatMap_map]

theorem effectiveFields_eq (hid : id < c.classes.length) :
    (c.contracts c.placements o).effectiveFields (c.className id) =
      (c.lineage id).flatMap (c.fieldsAt o) := by
  rw [hc.effectiveFields_contracts hid]
  exact List.flatMap_congr fun i hi => hc.fieldsOf_contracts (hc.lt_of_mem_lineage hid hi)

end Coherent

end Catalog

end Blueprint
