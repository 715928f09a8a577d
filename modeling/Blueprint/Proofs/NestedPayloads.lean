import Blueprint.Proofs.Closure
import Blueprint.Proofs.Completeness

/-!
# Nested payloads

A list whose items may be new rows names the contract that the data for such a row follows. It is
the contract of one class, at the other end of the relationship. Only a class that is not abstract
has a plan for constructing rows from its contract, but lists of abstract classes name contracts as
well: the data that these let through cannot become a row.
-/
namespace Blueprint

namespace ContractSet

/-- The contract of that name is the contract of the class. -/
def Names (s : ContractSet) (name className : String) : Prop :=
  ∃ contract, s.get? className = some contract ∧ contract.name = name

/-- The contract of a class has a list of another one whose items may be new rows, and the data for
these follow the contract of that name. -/
def TakesNew (s : ContractSet) (className target name : String) : Prop :=
  ∃ contract, s.get? className = some contract ∧
    ∃ f ∈ contract.fields, f.type = .list target (.byReferenceOrValue name)

end ContractSet

/-- Data under the contract of that name are for a class of the model. No other class has the
contract, and the class has a plan, which reads it, exactly if it is not abstract. -/
structure Compiled.NamesPayload (k : Compiled) (m : Model) (name : String) (d : ClassDecl) :
    Prop where
  declared : d ∈ m.classes
  contract : ∀ className, k.contracts.Names name className ↔ className = d.name
  plan : (∃ p, k.plan? d.name = some p) ↔ d.isAbstract = false
  reads : ∀ p, k.plan? d.name = some p → p.contract = name

namespace Catalog.Coherent

variable {c : Catalog} {ps : Placements} {o : Options} {className other : String} (hc : c.Coherent)
include hc

/-- Two classes do not have contracts of the same name. -/
lemma names_iff_of_get?_contracts {contract : Contract}
    (h : (c.contracts ps o).get? className = some contract) :
    (c.contracts ps o).Names contract.name other ↔ other = className := by
  constructor
  · rintro ⟨contract', hget, hname⟩
    rw [hc.name_of_get?_contracts h, hc.name_of_get?_contracts hget] at hname
    exact (String.append_left_inj _).1 hname
  · rintro rfl
    exact ⟨contract, h, rfl⟩

/-- A plan reads the contract of its class. -/
lemma names_contract_of_mem_plans {p : Plan} (hp : p ∈ c.plans (c.contracts ps o)) :
    (c.contracts ps o).Names p.contract p.ofClass := by
  obtain ⟨entry, hentry, rfl⟩ := List.mem_map.1 hp
  exact hc.exists_contract_plan (hc.id_lt (List.mem_filter.1 hentry).1)

end Catalog.Coherent

namespace Model

variable {m : Model} {o : Options} {k : Compiled} {d : ClassDecl} {order : StartOrder}

lemma Sound.declaresConcrete_iff (hm : m.Sound) (hd : d ∈ m.classes) :
    m.DeclaresConcrete d.name ↔ d.isAbstract = false := by
  constructor
  · rintro ⟨d', hd', hname, hconcrete⟩
    rwa [List.inj_on_of_nodup_map hm.classNames_nodup hd' hd hname] at hconcrete
  · exact fun h => ⟨d, hd, rfl, h⟩

lemma Sound.namesPayload (hm : m.Sound) (hd : d ∈ m.classes) {contract : Contract}
    (hget : (m.resolved.contracts m.resolved.placements o).get? d.name = some contract) :
    (m.resolved.compiled o).NamesPayload m contract.name d where
  declared := hd
  contract className := hm.coherent_resolved.names_iff_of_get?_contracts hget
  plan := by
    rw [← hm.declaresConcrete_iff hd, ← hm.indexes_plans.isSome_iff, Option.isSome_iff_exists]
    rfl
  reads p hp := by
    obtain ⟨hmem, hclass : p.ofClass = d.name⟩ := (hm.indexes_plans.finds _ _).1 hp
    obtain ⟨contract', hget', hname⟩ := hm.coherent_resolved.names_contract_of_mem_plans hmem
    rw [hclass] at hget'
    rw [← hname, Option.some.inj (hget'.symm.trans hget)]

/-- In what is compiled from a model every list of new rows names the contract of one class, the one
that the list is of. That class can be constructed from it exactly if it is not abstract. -/
theorem nested_payloads_have_plans_unless_abstract (hk : m.compile o order = .ok k)
    {className target name : String} (h : k.contracts.TakesNew className target name) :
    ∃ d, d.name = target ∧ k.NamesPayload m name d := by
  obtain ⟨hm, -, -, rfl⟩ := compile_eq_ok_iff.1 hk
  obtain ⟨contract, hget, f, hf, htype⟩ := h
  have hdefined := hm.defines_of_mem_fields hget hf
  rw [htype] at hdefined
  obtain ⟨contract', hget', hname⟩ := hdefined
  obtain rfl := hname name rfl
  have hmem : target ∈ m.classNames :=
    (hm.indexes_contracts.isSome_iff target).1 (Option.isSome_iff_exists.2 ⟨_, hget'⟩)
  obtain ⟨d, hd, rfl⟩ := List.mem_map.1 hmem
  exact ⟨d, rfl, hm.namesPayload hd hget'⟩

/-- The roads that a vehicle uses may be new ones: roads have a plan. -/
theorem fleet_road_payload_has_plan : ∃ k d p, fleet.compile ⟨true⟩ = .ok k ∧
    k.contracts.TakesNew "Vehicle" "Road" "RoadCreate" ∧ d.name = "Road" ∧
    k.NamesPayload fleet "RoadCreate" d ∧ k.plan? "Road" = some p := by
  obtain ⟨k, hk⟩ := exists_compiled_of_isOk (m := fleet) (o := ⟨true⟩) (by decide +kernel)
  have hresolved := (compile_eq_ok_iff.1 hk).2.2.2
  have htakes : k.contracts.TakesNew "Vehicle" "Road" "RoadCreate" := by
    rw [hresolved]
    exact ⟨_, rfl, by decide +kernel⟩
  obtain ⟨d, hname, hd⟩ := nested_payloads_have_plans_unless_abstract hk htakes
  have hplan : (k.plan? "Road").isSome = true := by
    rw [hresolved]
    decide +kernel
  obtain ⟨p, hp⟩ := Option.isSome_iff_exists.1 hplan
  exact ⟨k, d, p, hk, htakes, hname, hd, hp⟩

/-- The users of a road may be new vehicles, but no plan constructs a vehicle. -/
theorem fleet_vehicle_payload_has_no_plan : ∃ k, fleet.compile ⟨true⟩ = .ok k ∧
    k.contracts.TakesNew "Road" "Vehicle" "VehicleCreate" ∧
    k.contracts.Names "VehicleCreate" "Vehicle" ∧ k.plan? "Vehicle" = none := by
  obtain ⟨k, hk⟩ := exists_compiled_of_isOk (m := fleet) (o := ⟨true⟩) (by decide +kernel)
  obtain ⟨-, -, -, rfl⟩ := compile_eq_ok_iff.1 hk
  refine ⟨_, hk, ⟨_, rfl, by decide +kernel⟩, ⟨_, rfl, by decide +kernel⟩, by decide +kernel⟩

end Model

end Blueprint
