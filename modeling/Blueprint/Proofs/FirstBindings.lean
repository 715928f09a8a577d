import Blueprint.Proofs.Construction
import Blueprint.Proofs.Inheritance

/-!
# First bindings

A plan comes to the fields that the ancestors pass down, the root's first, and then to those of the
class itself, and keeps the first field for each parameter. That is so whichever contracts there
are: they may lack anywhere along the chain, and what they hold may stand in any order and be
repeated.
-/
namespace Blueprint

/-! ## Offered fields -/

namespace ContractSet

variable (s : ContractSet)

/-- What a class passes down: its attributes and the references that it holds. -/
def inheritedFields (className : String) : List Field :=
  (s.fieldsOf className).filter fun f => f.isAttribute || f.ownsReference

/-- What a class has for its own plan: its attributes, and then its relationships. -/
def ownFields (className : String) : List Field :=
  (s.fieldsOf className).filter (·.isAttribute) ++ (s.fieldsOf className).filter (!·.isAttribute)

/-- The fields in the order in which the plan of a class comes to them, each with the class whose
contract has it. -/
def offeredFields (ancestors : List String) (className : String) : List (String × Field) :=
  (ancestors.flatMap fun ancestor => (s.inheritedFields ancestor).map fun f => (ancestor, f)) ++
    (s.ownFields className).map fun f => (className, f)

end ContractSet

/-- The plan keeps the fields at some positions, in order. The others are those whose parameter an
earlier field binds. -/
structure Plan.KeepsFirst (p : Plan) (offered : List (String × Field)) (kept : List ℕ) : Prop where
  ordered : kept.Pairwise (· < ·)
  arguments : List.Forall₂ (fun i a => ∃ declaredBy f, offered[i]? = some (declaredBy, f) ∧
    a = ⟨f.name, f.parameter, declaredBy, f.binding⟩) kept p.arguments
  missing : ∀ i declaredBy f, offered[i]? = some (declaredBy, f) →
    (i ∉ kept ↔ ∃ j < i, ∃ x, offered[j]? = some x ∧ x.2.parameter = f.parameter)
  distinct : p.parameters.Nodup

/-! ## Kept arguments -/

lemma exists_earlier_cons_iff {a : Argument} {args : List Argument} {i : ℕ} {parameter : String} :
    (∃ j < i + 1, ∃ b, (a :: args)[j]? = some b ∧ b.parameter = parameter) ↔
      a.parameter = parameter ∨ ∃ j < i, ∃ b, args[j]? = some b ∧ b.parameter = parameter := by
  rw [Nat.exists_lt_succ_left]
  simp

/-- An argument is kept at its position unless its parameter is bound already, be it from before or
by an earlier argument. -/
theorem exists_kept_firstBindings (bound : List String) (args : List Argument) :
    ∃ kept : List ℕ, kept.Pairwise (· < ·) ∧
      List.Forall₂ (fun i a => args[i]? = some a) kept (firstBindings bound args) ∧
      ∀ i a, args[i]? = some a → (i ∉ kept ↔ a.parameter ∈ bound ∨
        ∃ j < i, ∃ b, args[j]? = some b ∧ b.parameter = a.parameter) := by
  induction args generalizing bound with
  | nil => exact ⟨[], .nil, .nil, by simp⟩
  | cons a args ih =>
    by_cases h : a.parameter ∈ bound
    · obtain ⟨kept, hordered, hkept, hmissing⟩ := ih bound
      refine ⟨kept.map (· + 1), List.pairwise_map.2 (by simpa using hordered), ?_, ?_⟩
      · simpa [firstBindings, h] using hkept
      · intro i b hb
        cases i with
        | zero =>
          obtain rfl : a = b := by simpa using hb
          simp [h]
        | succ i =>
          have hbound : a.parameter = b.parameter → b.parameter ∈ bound := fun heq => heq ▸ h
          have hiff := hmissing i b (by simpa using hb)
          rw [exists_earlier_cons_iff, or_left_comm,
            or_iff_right_of_imp fun heq => .inl (hbound heq), ← hiff]
          simp
    · obtain ⟨kept, hordered, hkept, hmissing⟩ := ih (a.parameter :: bound)
      refine ⟨0 :: kept.map (· + 1), ?_, ?_, ?_⟩
      · exact List.pairwise_cons.2 ⟨by simp, List.pairwise_map.2 (by simpa using hordered)⟩
      · simpa [firstBindings, h] using hkept
      · intro i b hb
        cases i with
        | zero =>
          obtain rfl : a = b := by simpa using hb
          simp [h]
        | succ i =>
          have hiff := hmissing i b (by simpa using hb)
          rw [List.mem_cons, eq_comm, or_assoc, or_left_comm] at hiff
          rw [exists_earlier_cons_iff, ← hiff]
          simp

/-! ## Plans from any contracts -/

namespace Catalog

variable {c : Catalog}

/-- What is offered for the plan of a class of the catalog. -/
def offeredFields (c : Catalog) (s : ContractSet) (id : ClassId) : List (String × Field) :=
  s.offeredFields ((c.ancestors id).map c.className) (c.className id)

/-- The arguments of a plan come from what is offered along the chain. -/
theorem arguments_plan_eq (s : ContractSet) (id : ClassId) :
    (c.plan s id).arguments =
      firstBindings [] ((c.offeredFields s id).map fun x => x.2.argument x.1) := by
  have hown : c.ownArguments s id =
      (s.ownFields (c.className id)).map (Field.argument (c.className id)) := by
    unfold ownArguments ContractSet.ownFields ContractSet.fieldsOf
    cases s.get? (c.className id) with
    | none => rfl
    | some k => rfl
  rw [plan, hown, inheritedArguments_eq, offeredFields, ContractSet.offeredFields, List.map_append,
    List.map_flatMap, List.flatMap_map]
  simp only [List.map_map, Function.comp_def, ContractSet.inheritedFields]

theorem exists_keepsFirst (c : Catalog) (s : ContractSet) (id : ClassId) :
    ∃ kept, (c.plan s id).KeepsFirst (c.offeredFields s id) kept := by
  have hargs := arguments_plan_eq (c := c) s id
  obtain ⟨kept, hordered, hkept, hmissing⟩ :=
    exists_kept_firstBindings [] ((c.offeredFields s id).map fun x => x.2.argument x.1)
  refine ⟨kept, hordered, ?_, ?_, nodup_parameters_plan s id⟩
  · rw [hargs]
    refine hkept.imp fun i a ha => ?_
    rw [List.getElem?_map, Option.map_eq_some_iff] at ha
    obtain ⟨⟨declaredBy, f⟩, hf, rfl⟩ := ha
    exact ⟨declaredBy, f, hf, Field.argument_eq _ _⟩
  · intro i declaredBy f hf
    have hiff := hmissing i (f.argument declaredBy) (by simp [hf])
    simpa [Field.parameter_argument] using hiff

end Catalog

namespace Model

variable {m : Model} {c : Catalog} {id : ClassId} {order : StartOrder}

/-- The chain of generals above a class goes up its ancestors in the catalog. -/
lemma Sound.ascent_ancestors (hm : m.Sound) (hid : id < m.resolved.classes.length) :
    Ascent m.HasGeneral (m.resolved.className id)
      (m.resolved.className id ::
        ((m.resolved.ancestors id).map m.resolved.className).reverse) := by
  refine (hm.ascent_iff hid).2 ?_
  simp [hm.coherent_resolved.lineage_eq_ancestors_append id]

/-- Whatever the contracts are from which a plan is made, it keeps of the fields that are offered
along the chain of generals the first one for each parameter, and nothing else. -/
theorem plan_keeps_first_bindings (hc : Catalog.ofModel m order = .ok c) (s : ContractSet)
    (hid : id < c.classes.length) :
    ∃ ancestors kept, Ascent m.HasGeneral (c.className id) (c.className id :: ancestors) ∧
      (c.plan s id).KeepsFirst (s.offeredFields ancestors.reverse (c.className id)) kept := by
  obtain ⟨hm, -, rfl⟩ := Catalog.ofModel_eq_ok_iff.1 hc
  obtain ⟨kept, hkept⟩ := m.resolved.exists_keepsFirst s id
  refine ⟨_, kept, hm.ascent_ancestors hid, ?_⟩
  rw [List.reverse_reverse]
  exact hkept

/-- Contracts for taxis and vehicles, with none for the cars between them. The names of two
attributes are those of a column and of a link. -/
def fleetRemains : ContractSet where
  contracts := .ofList [
    ("Vehicle", ⟨"Vehicle", "VehicleCreate", none, none, true, [
      ⟨"keeper", .reference "Road", true, .relationship "keeps" .manyToOne true⟩,
      ⟨"roads", .list "Road" .byReference, false, .relationship "uses" .manyToMany false⟩,
      ⟨"keeper_id", .primitive .string, true, .ofAttribute⟩,
      ⟨"plate", .primitive .string, true, .ofAttribute⟩]⟩),
    ("Taxi", ⟨"Taxi", "TaxiCreate", some "Car", some "CarCreate", false, [
      ⟨"licence", .list "Road" .byReference, false, .relationship "covers" .manyToMany false⟩,
      ⟨"licence", .primitive .string, true, .ofAttribute⟩]⟩)]
  enumerations := []

/-- The reference of a vehicle comes before the attribute that is named like its column, and the
attribute of a taxi before the link of the same name. -/
theorem fleet_taxi_keeps_first : ∃ c ancestors kept, Catalog.ofModel fleet = .ok c ∧
    c.className 3 = "Taxi" ∧ Ascent fleet.HasGeneral "Taxi" ("Taxi" :: ancestors) ∧
    (c.plan fleetRemains 3).KeepsFirst (fleetRemains.offeredFields ancestors.reverse "Taxi") kept ∧
    (c.plan fleetRemains 3).arguments = [
      ⟨"keeper", "keeper_id", "Vehicle", .foreignKey⟩, ⟨"plate", "plate", "Vehicle", .ofAttribute⟩,
      ⟨"licence", "licence", "Taxi", .ofAttribute⟩] := by
  have hname : fleet.resolved.className 3 = "Taxi" := by decide +kernel
  obtain ⟨ancestors, kept, hascent, hkept⟩ :=
    plan_keeps_first_bindings ofModel_fleet fleetRemains
      (show 3 < fleet.resolved.classes.length by decide +kernel)
  rw [hname] at hascent hkept
  exact ⟨_, ancestors, kept, ofModel_fleet, hname, hascent, hkept, by decide +kernel⟩

end Model

end Blueprint
