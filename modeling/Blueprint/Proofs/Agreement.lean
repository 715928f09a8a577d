import Blueprint.Proofs.Acceptance
import Blueprint.Proofs.Lookups

/-!
# Tables and contracts agree

The table and the contract of a class are derived apart from each other: the table from the
placements that its class owns, the contract from the ends at which the class takes part. What the
table stores is nevertheless, item by item and in order, what the contract asks for.
-/
namespace Blueprint

/-- The type of a column is that of the field. -/
def ColumnType.Stores : ColumnType → FieldType → Prop
  | primitive p, type => type = .primitive p
  | ofEnumeration name, type => type = .ofEnumeration name

structure Column.Stores (column : Column) (f : Field) : Prop where
  name : column.name = f.name
  type : column.type.Stores f.type
  nullable : column.nullable = !f.required

structure Reference.Stores (r : Reference) (f : Field) : Prop where
  name : r.name = f.name ++ "_id"
  type : f.type = .reference r.targetClass
  nullable : r.nullable = !f.required
  unique : r.unique = true ↔
    ∃ association owns, f.origin = .relationship association .oneToOne owns

/-- Columns and references store the fields that go to them, in order. -/
structure Table.Stores (t : Table) (k : Contract) : Prop where
  columns : List.Forall₂ Column.Stores t.columns (k.fields.filter (·.isColumn))
  references : List.Forall₂ Reference.Stores t.references (k.fields.filter (·.isReference))

/-- The end of an association of the model for which a field of a class stands: its role is the name
of the field, and the class is at the end opposite to it. -/
def Model.IsEndOf (m : Model) (className : String) (f : Field) (e : Property) : Prop :=
  ∃ a ∈ m.associations, ∃ own, a.Joins own e ∧ own.type = some (.ofClass className) ∧
    e.name = f.name ∧ ∃ cardinality owns, f.origin = .relationship a.name cardinality owns

namespace Catalog

variable {c : Catalog} {o : Options} {id : ClassId} {entry : ClassEntry}

/-! ## Attributes -/

lemma attributeColumns_stored (attributes : List Attribute) :
    List.Forall₂ Column.Stores (attributes.filterMap attributeColumn?)
      ((attributes.map c.attributeField).filter (·.isColumn)) := by
  induction attributes with
  | nil => exact .nil
  | cons a attributes ih =>
    obtain ⟨name, type, multiplicity⟩ := a
    cases type with
    | primitive p => exact .cons ⟨rfl, rfl, rfl⟩ ih
    | ofEnumeration e => exact .cons ⟨rfl, rfl, rfl⟩ ih
    | ofClass i => exact ih

lemma attributeReferences_stored (owner : String) (attributes : List Attribute) :
    List.Forall₂ Reference.Stores (attributes.filterMap (c.attributeReference? owner))
      ((attributes.map c.attributeField).filter (·.isReference)) := by
  induction attributes with
  | nil => exact .nil
  | cons a attributes ih =>
    obtain ⟨name, type, multiplicity⟩ := a
    cases type with
    | primitive p => exact ih
    | ofEnumeration e => exact ih
    | ofClass i => exact .cons ⟨rfl, rfl, rfl, by simp [attributeField]⟩ ih

/-! ## Relationships -/

variable (r : Relationship) (side : Side)

/-- The reference of the owning class stores the field of that class. -/
lemma keyReference_stores (h : r.ownerSide? = some side) :
    Reference.Stores (keyReference (c.foreignKey r side)) (c.relationshipField o r side) where
  name := rfl
  type := by simp [relationshipField, keyReference, foreignKey, h]
  nullable := by simp [relationshipField, keyReference, foreignKey, h]
  unique := by simp [relationshipField, keyReference, foreignKey]

/-- Of the sides at which a class takes part, only the owning one gives a field that is stored. -/
lemma relationshipReferences_stored (id : ClassId) :
    List.Forall₂ Reference.Stores
      (((r.ownerSide?.toList.filter fun side => (r.endAt side).classId == id).map
        (c.foreignKey r)).map keyReference)
      (((r.sidesOf id).map (c.relationshipField o r)).filter (·.isReference)) := by
  have hsides : ((r.sidesOf id).map (c.relationshipField o r)).filter (·.isReference) =
      ((r.sidesOf id).filter fun side => r.ownerSide? == some side).map
        (c.relationshipField o r) := by
    rw [List.filter_map]
    simp only [Function.comp_def, isReference_relationshipField]
  rw [hsides]
  cases h : r.ownerSide? with
  | none => simp
  | some owner =>
    have howner : (r.sidesOf id).filter (fun side => some owner == some side) =
        [owner].filter fun side => (r.endAt side).classId == id := by
      rw [Relationship.sidesOf, List.filter_comm]
      cases owner <;> rfl
    rw [howner, List.map_map]
    by_cases hid : (r.endAt owner).classId = id
    · simpa [hid] using keyReference_stores r owner h
    · simp [hid]

namespace Coherent

variable (hc : c.Coherent)
include hc

theorem table_stores (h : c.entry? id = some entry) :
    (c.table c.placements entry).Stores (c.contract c.placements o entry) := by
  have hrelationships : (c.endsOf id).map (fun e => c.relationshipField o e.1 e.2) =
      c.relationships.flatMap fun r => (r.sidesOf id).map (c.relationshipField o r) := by
    simp [endsOf, List.map_flatMap, Function.comp_def]
  obtain rfl := hc.ids id entry h
  constructor
  · have hnone : (((c.endsOf entry.id).map fun e => c.relationshipField o e.1 e.2).filter
        (·.isColumn)) = [] := by
      rw [List.filter_map, List.filter_eq_nil_iff.2 (by simp [isColumn_relationshipField]),
        List.map_nil]
    rw [hc.fields_contract, List.filter_append, hnone, List.append_nil]
    exact attributeColumns_stored entry.attributes
  · rw [hc.fields_contract, List.filter_append, hrelationships, List.filter_flatMap, table,
      hc.ownedBy_placements, List.map_flatMap]
    refine List.rel_append (attributeReferences_stored entry.name entry.attributes) ?_
    exact forall₂_flatMap fun r _ => relationshipReferences_stored r entry.id

end Coherent

end Catalog

/-! ## Ends of the model -/

namespace Model

variable {m : Model} {o : Options} {k : Compiled} {f : Field} {name : String} {e e' : Property}
  {order : StartOrder}

namespace Sound

variable (hm : m.Sound)
include hm

/-- A relationship field stands for one end only. -/
lemma isEndOf_unique (hfields : m.resolved.fieldDefect? = none) (h : m.IsEndOf name f e)
    (h' : m.IsEndOf name f e') : e = e' := by
  obtain ⟨a, ha, own, hjoins, htype, hname, _, _, horigin⟩ := h
  obtain ⟨b, hb, own', hjoins', htype', hname', _, _, horigin'⟩ := h'
  have hassociation : a.name = b.name := (Origin.relationship.inj (horigin ▸ horigin')).1
  obtain rfl := List.inj_on_of_nodup_map hm.associationNames ha hb hassociation
  -- if the two own ends were different, both ends would be at the class and have one role
  have hne : ∀ p q, a.ends = [p, q] → p.className = q.className → p.name ≠ q.name :=
    fun p q => hm.roles_ne hfields ha
  have hclass : own.className = own'.className := by
    rw [Property.className_eq htype, Property.className_eq htype']
  rcases hjoins with hends | hends <;> rcases hjoins' with hends' | hends' <;>
    obtain ⟨rfl, rfl⟩ : _ ∧ _ := by simpa using hends.symm.trans hends'
  · rfl
  · exact absurd (hname'.trans hname.symm) (hne _ _ hends hclass)
  · exact absurd (hname.trans hname'.symm) (hne _ _ hends hclass.symm)
  · rfl

/-- A relationship field stands for the end that is opposite to its side. -/
lemma exists_isEndOf_relationshipField {r : Relationship} {side : Side} {id : ClassId}
    (hid : m.orderedNames[id]? = some name) (he : (r, side) ∈ m.resolved.endsOf id) :
    ∃ e, m.IsEndOf name (m.resolved.relationshipField o r side) e ∧ ∃ μ,
      e.multiplicity = some μ ∧ (r.endAt side.opposite).multiplicity = μ := by
  obtain ⟨hr, hclass⟩ := Catalog.mem_endsOf.1 he
  obtain ⟨a, ha, p, q, hname, hjoins, hp, hq⟩ := exists_joins_of_mem hr side
  obtain ⟨hsp, hsq⟩ := hm.soundEnd_of_joins ha hjoins
  obtain ⟨μ, hμ, -⟩ := hsq.valid
  have horigin := congrArg (Origin.relationship · (.between (r.endAt side).multiplicity
    (r.endAt side.opposite).multiplicity) (r.ownerSide? == some side)) hname.symm
  refine ⟨q, ⟨a, ha, p, hjoins, ?_, ?_, _, _, horigin⟩, μ, hμ, ?_⟩
  · simp only [hp] at hclass
    exact (hm.classId_resolvedEnd_eq_iff hsp hid).1 hclass
  · simp [Catalog.relationshipField, hq]
  · simp [hq, resolvedEnd, Property.effectiveMultiplicity, hμ]

end Sound

/-- In what is compiled from a model, the table of every class stores the contract of that class,
and a reference that the class holds is required exactly if the end that it refers to is. -/
theorem compiled_table_stores_contract (h : m.compile o order = .ok k) {d : ClassDecl}
    (hd : d ∈ m.classes) :
    ∃ t contract, k.storage.table? d.name = some t ∧ k.contracts.get? d.name = some contract ∧
      t.Stores contract ∧
      ∀ f ∈ contract.fields, f.ownsReference = true →
        (∃! e, m.IsEndOf d.name f e) ∧
        ∀ e, m.IsEndOf d.name f e →
          (f.required = true ↔ ∃ μ, e.multiplicity = some μ ∧ 0 < μ.min) := by
  obtain ⟨hm, hfields, -, rfl⟩ := compile_eq_ok_iff.1 h
  have hc := hm.coherent_resolved
  obtain ⟨id, hlt, hname⟩ := exists_position hd
  have hid : m.orderedNames[id]? = some d.name := hname ▸ orderedNames_getElem? hlt
  have hentry := Catalog.entry?_of_lt hlt
  rw [Catalog.className_eq hentry] at hname
  refine ⟨_, _, hname ▸ hc.table?_layout hentry, hname ▸ hc.get?_contracts hentry,
    hc.table_stores hentry, fun f hf howns => ?_⟩
  rw [hc.fields_contract, hc.ids id _ hentry, List.mem_append] at hf
  rcases hf with hf | hf
  · obtain ⟨a, -, rfl⟩ := List.mem_map.1 hf
    simp [Catalog.attributeField, Field.ownsReference] at howns
  · obtain ⟨⟨r, side⟩, hside, rfl⟩ := List.mem_map.1 hf
    obtain ⟨e, he, μ, hμ, hopp⟩ := hm.exists_isEndOf_relationshipField hid hside
    refine ⟨⟨e, he, fun e' he' => hm.isEndOf_unique hfields he' he⟩, fun e' he' => ?_⟩
    obtain rfl := hm.isEndOf_unique hfields he he'
    have howner : (r.ownerSide? == some side) = true := howns
    simp [Catalog.relationshipField, howner, hopp, hμ, Multiplicity.isMandatory]

/-- Orders of customers, to which another customer may have referred them. -/
def orders : Model where
  name := "Orders"
  classes := [
    ⟨"Customer", [⟨"name", some (.primitive .string), none⟩], false⟩,
    ⟨"Order", [⟨"placed", some (.primitive .dateTime), none⟩,
      ⟨"referrer", some (.ofClass "Customer"), some .optional⟩,
      ⟨"state", some (.ofEnumeration "State"), some .one⟩], false⟩]
  enumerations := [⟨"State", ["open", "paid"]⟩]
  associations := [
    ⟨"places", [⟨"customer", some (.ofClass "Customer"), some .one⟩,
      ⟨"orders", some (.ofClass "Order"), some .many⟩]⟩,
    ⟨"replaces", [⟨"replaced", some (.ofClass "Order"), some .optional⟩,
      ⟨"replacement", some (.ofClass "Order"), some .optional⟩]⟩]
  generalizations := []

theorem orders_table_stores_contract : ∃ k t contract, orders.compile {} = .ok k ∧
    k.storage.table? "Order" = some t ∧ k.contracts.get? "Order" = some contract ∧
    t.Stores contract := by
  obtain ⟨k, hk⟩ := exists_compiled_of_isOk (m := orders) (o := {}) (by decide +kernel)
  obtain ⟨t, contract, ht, hcontract, hstores, -⟩ :=
    compiled_table_stores_contract hk (d := orders.classes[1]) (List.getElem_mem _)
  exact ⟨k, t, contract, hk, ht, hcontract, hstores⟩

end Model

end Blueprint
