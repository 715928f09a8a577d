import Blueprint.Compiled
import Blueprint.Proofs.Lineage
import Blueprint.Proofs.Names

/-!
# Looking up what is derived

In everything that is derived from a coherent catalog, each class and each relationship is found
by its name, since names are distinct and already in order. The placement that a contract looks up
for a relationship is therefore the one that its owning side decides, and so is the field.
-/
namespace Blueprint

namespace Field

/-- The field goes to a column: it is an attribute that does not refer to a class. -/
def isColumn (f : Field) : Bool :=
  f.isAttribute &&
    match f.type with
    | .primitive _ | .ofEnumeration _ => true
    | _ => false

/-- The field goes to a reference: that of an attribute, or that which the class holds. -/
def isReference (f : Field) : Bool :=
  f.isAttribute &&
    (match f.type with
    | .reference _ => true
    | _ => false) || f.ownsReference

end Field

namespace Catalog

variable {c : Catalog}

/-! ## Placements -/

/-- The reference that the class at a side of a relationship holds, if it is the owning side. -/
def foreignKey (c : Catalog) (r : Relationship) (side : Side) : ForeignKey :=
  let owner := r.endAt side
  let target := r.endAt side.opposite
  { association := r.name
    owner := owner.classId
    ownerClass := c.className owner.classId
    ownerSide := side
    ownerRole := owner.role
    target := target.classId
    targetClass := c.className target.classId
    role := target.role
    required := target.multiplicity.isMandatory
    cardinality := .between owner.multiplicity target.multiplicity }

lemma place_of_owner {r : Relationship} {side : Side} (h : r.ownerSide? = some side) :
    c.place r = .reference (c.foreignKey r side) := by
  simp [place, h, foreignKey]

lemma place_of_no_owner {r : Relationship} (h : r.ownerSide? = none) :
    c.place r = .joinTable r.name := by
  simp [place, h]

@[simp] lemma association_place (r : Relationship) : (c.place r).association = r.name := by
  cases h : r.ownerSide? with
  | none => rw [place_of_no_owner h, Placement.association]
  | some side => rw [place_of_owner h, Placement.association, foreignKey]

lemma key?_place (r : Relationship) :
    (c.place r).key? = r.ownerSide?.map (c.foreignKey r) := by
  cases h : r.ownerSide? with
  | none => rw [place_of_no_owner h, Placement.key?, Option.map_none]
  | some side => rw [place_of_owner h, Placement.key?, Option.map_some]

lemma mem_endsOf {e : Relationship × Side} {id : ClassId} :
    e ∈ c.endsOf id ↔ e.1 ∈ c.relationships ∧ (e.1.endAt e.2).classId = id := by
  obtain ⟨r, side⟩ := e
  cases side <;> simp [endsOf, Relationship.sidesOf]

/-! ## Fields -/

/-- The field of the class at a side of a relationship, told from the owning side. -/
def relationshipField (c : Catalog) (o : Options) (r : Relationship) (side : Side) : Field :=
  let opposite := r.endAt side.opposite
  let className := c.className opposite.classId
  { name := opposite.role
    type :=
      match r.ownerSide? with
      | none => .list className (elementType o className)
      | some owner =>
        if owner = side ∨ opposite.multiplicity.isSingle then .reference className
        else .list className .byReference
    required := r.ownerSide? == some side && opposite.multiplicity.isMandatory
    origin := .relationship r.name (.between (r.endAt side).multiplicity opposite.multiplicity)
      (r.ownerSide? == some side) }

lemma isColumn_relationshipField (o : Options) (r : Relationship) (side : Side) :
    (c.relationshipField o r side).isColumn = false := rfl

lemma isReference_relationshipField (o : Options) (r : Relationship) (side : Side) :
    (c.relationshipField o r side).isReference = (r.ownerSide? == some side) := rfl

namespace Coherent

variable (hc : c.Coherent) {o : Options} {ps : Placements} {id : ClassId} {entry : ClassEntry}
  {r : Relationship}
include hc

theorem entries_placements :
    c.placements.entries = c.relationships.map fun r => (r.name, c.place r) := by
  rw [placements, Placements.ofPlacements, List.map_map]
  simp only [Function.comp_def, association_place]
  refine NameTable.ofList_entries (List.pairwise_map.2 ?_)
  exact List.pairwise_map.1 hc.relationshipNames

theorem get?_placements (hr : r ∈ c.relationships) :
    c.placements.get? r.name = some (c.place r) := by
  rw [NameTable.get?_eq_some_iff, hc.entries_placements]
  exact List.mem_map_of_mem hr

/-- The references that a class holds, in the order of the relationships. -/
theorem ownedBy_placements (id : ClassId) :
    c.placements.ownedBy id = c.relationships.flatMap fun r =>
      (r.ownerSide?.toList.filter fun side => (r.endAt side).classId == id).map
        (c.foreignKey r) := by
  rw [Placements.ownedBy, NameTable.values, hc.entries_placements, List.map_map,
    List.filterMap_map, List.filterMap_eq_flatMap_toList, List.filter_flatMap]
  refine List.flatMap_congr fun r _ => ?_
  simp only [Function.comp_def, key?_place]
  cases r.ownerSide? with
  | none => rfl
  | some side => by_cases h : (r.endAt side).classId = id <;> simp [foreignKey, h]

theorem relationshipField?_placements (hr : r ∈ c.relationships) (side : Side) :
    c.relationshipField? c.placements o r side = some (c.relationshipField o r side) := by
  rw [relationshipField?, hc.get?_placements hr, Option.map_some]
  cases h : r.ownerSide? with
  | none => simp [place_of_no_owner h, relationshipField, h]
  | some owner =>
    rw [place_of_owner h]
    by_cases hside : owner = side
    · simp [relationshipField, foreignKey, h, hside]
    · cases hmany : (r.endAt side.opposite).multiplicity.isMany <;>
        simp [relationshipField, foreignKey, h, hside, hmany, Multiplicity.isSingle]

theorem fields_contract (entry : ClassEntry) :
    (c.contract c.placements o entry).fields = entry.attributes.map c.attributeField ++
      (c.endsOf entry.id).map fun e => c.relationshipField o e.1 e.2 := by
  have hplaced : ∀ e ∈ c.endsOf entry.id, c.relationshipField? c.placements o e.1 e.2 =
      some (c.relationshipField o e.1 e.2) := by
    intro e he
    exact hc.relationshipField?_placements (mem_endsOf.1 he).1 _
  rw [contract, List.filterMap_congr hplaced]
  simp only [List.filterMap_eq_map']

/-! ## Tables and contracts -/

theorem table?_layout (h : c.entry? id = some entry) :
    (c.layout ps).table? entry.name = some (c.table ps entry) := by
  have hmem : entry ∈ c.classes := List.mem_of_getElem? h
  rw [Layout.table?, layout, List.find?_map, Option.map_eq_some_iff]
  exact ⟨entry, find?_eq_some_of_nodup hc.nodup_classNames hmem, rfl⟩

theorem entries_contracts : (c.contracts ps o).contracts.entries =
    c.classes.map fun entry => (entry.name, c.contract ps o entry) := by
  refine NameTable.ofList_entries (List.pairwise_map.2 ?_)
  exact List.pairwise_map.1 hc.classNames

theorem get?_contracts (h : c.entry? id = some entry) :
    (c.contracts ps o).get? entry.name = some (c.contract ps o entry) := by
  rw [ContractSet.get?, NameTable.get?_eq_some_iff, hc.entries_contracts]
  exact List.mem_map_of_mem (List.mem_of_getElem? h)

lemma get?_contracts_className (hid : id < c.classes.length) :
    (c.contracts ps o).get? (c.className id) = some (c.contract ps o c.classes[id]) := by
  rw [className_eq (entry?_of_lt hid)]
  exact hc.get?_contracts (entry?_of_lt hid)

/-- A contract is that of a class of the catalog. -/
theorem exists_entry_of_get?_contracts {className : String} {contract : Contract}
    (h : (c.contracts ps o).get? className = some contract) :
    ∃ id entry, c.entry? id = some entry ∧ c.className id = className ∧
      c.contract ps o entry = contract := by
  rw [ContractSet.get?, NameTable.get?_eq_some_iff, hc.entries_contracts] at h
  obtain ⟨entry, hmem, heq⟩ := List.mem_map.1 h
  obtain ⟨rfl, rfl⟩ := Prod.mk.inj heq
  obtain ⟨id, hentry⟩ := List.mem_iff_getElem?.1 hmem
  exact ⟨id, entry, hentry, className_eq hentry, rfl⟩

lemma name_of_get?_contracts {className : String} {contract : Contract}
    (h : (c.contracts ps o).get? className = some contract) :
    contract.name = contractName className := by
  obtain ⟨id, entry, hentry, rfl, rfl⟩ := hc.exists_entry_of_get?_contracts h
  rw [contract, className_eq hentry]

end Coherent

end Catalog

end Blueprint
