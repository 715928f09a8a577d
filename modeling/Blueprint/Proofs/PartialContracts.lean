import Blueprint.Proofs.FirstBindings

/-!
# Missing contracts

A chain of contracts ends where one is missing, and the effective fields with it. A plan follows the
chain of generals instead: it passes over what is missing and draws on the contracts above as well
as on those below.
-/
namespace Blueprint

namespace ContractSet

variable {s : ContractSet} {names : List String} {className : String}

lemma fieldsOf_without : (s.without names).fieldsOf className =
    if className ∈ names then [] else s.fieldsOf className := by
  rw [fieldsOf, get?_without]
  split_ifs <;> rfl

/-- What is offered is the same without the fields of the contracts that are left out. -/
theorem offeredFields_without (ancestors : List String) :
    (s.without names).offeredFields ancestors className =
      (s.offeredFields ancestors className).filter fun x => x.1 ∉ names := by
  have hpart : ∀ (name : String) (p : Field → Bool),
      (((s.without names).fieldsOf name).filter p).map (fun f => (name, f)) =
        (((s.fieldsOf name).filter p).map fun f => (name, f)).filter fun x => x.1 ∉ names := by
    intro name p
    rw [fieldsOf_without, List.filter_map, Function.comp_def]
    split_ifs with h <;> simp [h]
  simp only [offeredFields, inheritedFields, ownFields, List.map_append, List.filter_append,
    List.filter_flatMap, hpart]

end ContractSet

namespace Catalog

/-- Without the contracts of some classes the chain of contracts of a class is the longest end of
its lineage that has none of these classes. It ends by itself, and the effective fields are those of
that end. -/
structure EndsAtGap (c : Catalog) (s : ContractSet) (names : List String) (id : ClassId)
    (above below : List ClassId) : Prop where
  lineage : c.lineage id = above ++ below
  present : ∀ i ∈ below, c.className i ∉ names
  longest : ∀ i, above.getLast? = some i → c.className i ∈ names
  contracts : ((s.without names).lineage (c.className id)).map some =
    below.map fun i => s.get? (c.className i)
  ends : ∀ steps, (s.without names).contracts.size ≤ steps →
    ((s.without names).upwards steps (c.className id)).reverse =
      (s.without names).lineage (c.className id)
  fields : s.effectiveFields (c.className id) =
    (above.flatMap fun i => s.fieldsOf (c.className i)) ++
      (s.without names).effectiveFields (c.className id)

/-- Without the contracts of some classes the plan of a class draws on all others of its lineage. If
no two fields that are offered have one parameter, it has lost the arguments that these classes
declare and nothing else. -/
structure PassesGaps (c : Catalog) (s : ContractSet) (names : List String) (id : ClassId) :
    Prop where
  keeps : ∃ kept, (c.plan (s.without names) id).KeepsFirst
    ((c.offeredFields s id).filter fun x => x.1 ∉ names) kept
  arguments : ((c.offeredFields s id).map fun x => x.2.parameter).Nodup →
    (c.plan (s.without names) id).arguments =
      (c.plan s id).arguments.filter fun a => a.declaredBy ∉ names
  contract : (c.plan (s.without names) id).contract = "" ↔ c.className id ∈ names

variable {c : Catalog} {s : ContractSet} {ps : Placements} {o : Options} {names : List String}
  {id : ClassId}

lemma offeredFields_without : c.offeredFields (s.without names) id =
    (c.offeredFields s id).filter fun x => x.1 ∉ names :=
  ContractSet.offeredFields_without _

/-- All that is offered becomes an argument if no two fields have one parameter. -/
lemma arguments_plan_of_nodup (h : ((c.offeredFields s id).map fun x => x.2.parameter).Nodup) :
    (c.plan s id).arguments = (c.offeredFields s id).map fun x => x.2.argument x.1 := by
  rw [arguments_plan_eq]
  refine firstBindings_eq_self ?_ (by simp)
  simpa only [List.map_map, Function.comp_def, Field.parameter_argument] using h

namespace Coherent

variable (hc : c.Coherent)
include hc

theorem exists_endsAtGap (names : List String) (hid : id < c.classes.length) :
    ∃ above below, c.EndsAtGap (c.contracts ps o) names id above below := by
  have hsplit := List.rdropWhile_append_rtakeWhile (p := fun i => c.className i ∉ names)
    (l := c.lineage id)
  have hcontracts := hc.map_some_lineage_without ps o names hid
  refine ⟨_, _, hsplit.symm, ?_, ?_, hcontracts, fun _ => hc.upwards_without_eq hid, ?_⟩
  · intro i hi
    simpa using List.mem_rtakeWhile_imp hi
  · intro i hi
    obtain ⟨hne, rfl⟩ := List.mem_getLast?_eq_getLast hi
    simpa using List.rdropWhile_last_not _ _ hne
  · rw [← Function.comp_def, ← List.map_map] at hcontracts
    rw [ContractSet.effectiveFields_eq_flatMap hcontracts, hc.effectiveFields_contracts hid,
      List.flatMap_map, ← List.flatMap_append, hsplit]

theorem passesGaps (names : List String) (hid : id < c.classes.length) :
    c.PassesGaps (c.contracts ps o) names id where
  keeps := by
    rw [← offeredFields_without]
    exact c.exists_keepsFirst _ id
  arguments hnd := by
    have hnd' := hnd.sublist ((List.filter_sublist (p := fun x => decide (x.1 ∉ names))).map _)
    rw [← offeredFields_without] at hnd'
    rw [arguments_plan_of_nodup hnd, arguments_plan_of_nodup hnd', offeredFields_without,
      List.filter_map]
    simp only [Function.comp_def, Field.declaredBy_argument]
  contract := by
    rw [plan, ContractSet.get?_without, hc.get?_contracts_className hid]
    split_ifs with h
    · simp [h]
    · simp [h, contract, contractName]

end Coherent

end Catalog

namespace Model

variable {m : Model} {c : Catalog} {id : ClassId} {order : StartOrder}

/-- However the relationships of a model are placed, and whichever contracts are missing, the chain
of contracts of a class ends at the first one missing above it, and is empty if its own is. Its plan
passes over what is missing, and names no contract exactly if its own is. -/
theorem missing_contracts_cut_chain_not_plan (hc : Catalog.ofModel m order = .ok c) (ps : Placements)
    (o : Options) (names : List String) (hid : id < c.classes.length) :
    (∃ above below, c.EndsAtGap (c.contracts ps o) names id above below) ∧
    (c.className id ∈ names →
      ((c.contracts ps o).without names).lineage (c.className id) = []) ∧
    c.PassesGaps (c.contracts ps o) names id := by
  obtain ⟨hm, -, rfl⟩ := Catalog.ofModel_eq_ok_iff.1 hc
  have hcoh := hm.coherent_resolved
  refine ⟨hcoh.exists_endsAtGap names hid, fun hmem => ?_, hcoh.passesGaps names hid⟩
  have hlineage := hcoh.map_some_lineage_without ps o names hid
  rw [hcoh.lineage_eq_ancestors_append, List.rtakeWhile_concat_neg _ _ _ (by simpa using hmem)]
    at hlineage
  exact List.map_eq_nil_iff.1 hlineage

/-- Without the contract of cars there is no chain above a taxi, but its plan still has the plate of
a vehicle. The doors of a car are gone. -/
theorem fleet_taxi_without_car : ∃ c s above below, Catalog.ofModel fleet = .ok c ∧
    s = c.contracts c.placements {} ∧ c.className 3 = "Taxi" ∧
    c.EndsAtGap s ["Car"] 3 above below ∧ c.PassesGaps s ["Car"] 3 ∧
    ((c.offeredFields s 3).map fun x => x.2.parameter).Nodup ∧
    (s.without ["Car"]).lineage "Car" = [] ∧
    ((s.without ["Car"]).lineage "Taxi").map (·.ofClass) = ["Taxi"] ∧
    (c.plan (s.without ["Car"]) 3).arguments = [⟨"plate", "plate", "Vehicle", .ofAttribute⟩] := by
  obtain ⟨⟨above, below, hends⟩, -, hpasses⟩ := missing_contracts_cut_chain_not_plan ofModel_fleet
    fleet.resolved.placements {} ["Car"] (show 3 < fleet.resolved.classes.length by decide +kernel)
  have hcar : fleet.resolved.className 1 = "Car" := by decide +kernel
  obtain ⟨-, hempty, -⟩ := missing_contracts_cut_chain_not_plan ofModel_fleet
    fleet.resolved.placements {} ["Car"] (show 1 < fleet.resolved.classes.length by decide +kernel)
  rw [hcar] at hempty
  exact ⟨_, _, above, below, ofModel_fleet, rfl, by decide +kernel, hends, hpasses,
    by decide +kernel, hempty (by simp), by decide +kernel, by decide +kernel⟩

end Model

end Blueprint
