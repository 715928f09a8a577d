import Blueprint.Proofs.Construction
import Blueprint.Proofs.Exclusivity

/-!
# Catalogs that correspond

A catalog may be embedded in another one in which its classes have other positions. What is derived
from it does not show the positions of classes, and it shows of a multiplicity only whether an
instance is mandatory and whether there may be many. So what is derived for a class, for a
relationship and for the whole of a lineage is the same in both catalogs, as long as the ends agree
in these two respects and the attributes in the first.
-/
namespace Blueprint

/-! ## Corresponding parts -/

def AttributeType.renumber (f : ClassId → ClassId) : AttributeType → AttributeType
  | .ofClass id => .ofClass (f id)
  | type => type

structure Attribute.Corresponds (f : ClassId → ClassId) (a b : Attribute) : Prop where
  name : b.name = a.name
  type : b.type = a.type.renumber f
  required : b.isRequired = a.isRequired

structure ClassEntry.Corresponds (f : ClassId → ClassId) (e e' : ClassEntry) : Prop where
  id : e'.id = f e.id
  name : e'.name = e.name
  isAbstract : e'.isAbstract = e.isAbstract
  attributes : List.Forall₂ (Attribute.Corresponds f) e.attributes e'.attributes
  general : e'.general = e.general.map f
  specifics : e'.specifics.isEmpty = e.specifics.isEmpty

structure RelationshipEnd.Corresponds (f : ClassId → ClassId) (e e' : RelationshipEnd) : Prop where
  role : e'.role = e.role
  classId : e'.classId = f e.classId
  mandatory : e'.multiplicity.isMandatory = e.multiplicity.isMandatory
  many : e'.multiplicity.isMany = e.multiplicity.isMany

structure Relationship.Corresponds (f : ClassId → ClassId) (r r' : Relationship) : Prop where
  name : r'.name = r.name
  ends : ∀ side, (r.endAt side).Corresponds f (r'.endAt side)

/-- Each class has a place in the other catalog, and the relationships are between these
classes. -/
structure Catalog.Embeds (f : ClassId → ClassId) (c c' : Catalog) : Prop where
  injective : Function.Injective f
  entries : ∀ id, Option.Rel (ClassEntry.Corresponds f) (c.entry? id) (c'.entry? (f id))
  relationships : List.Forall₂ (Relationship.Corresponds f) c.relationships c'.relationships

def ForeignKey.renumber (f : ClassId → ClassId) (key : ForeignKey) : ForeignKey :=
  { key with owner := f key.owner, target := f key.target }

def Placement.renumber (f : ClassId → ClassId) : Placement → Placement
  | .reference key => .reference (key.renumber f)
  | .joinTable association => .joinTable association

variable {f : ClassId → ClassId}

/-- The positions are not written. -/
@[simp] lemma Placement.toValue_renumber (p : Placement) :
    (p.renumber f).toValue = p.toValue := by
  cases p <;> rfl

@[simp] lemma Placement.renumber_id (p : Placement) : p.renumber id = p := by
  cases p <;> rfl

@[simp] lemma Catalog.keyReference_renumber (key : ForeignKey) :
    keyReference (key.renumber f) = keyReference key := rfl

namespace Relationship.Corresponds

variable {r r' : Relationship} (h : r.Corresponds f r')
include h

theorem ownerSide?_eq : r'.ownerSide? = r.ownerSide? := by
  have hfirst := h.ends .first
  have hsecond := h.ends .second
  simp only [Relationship.endAt] at hfirst hsecond
  simp only [Relationship.ownerSide?, Multiplicity.isOptional_eq, hfirst.many, hsecond.many,
    hfirst.mandatory, hsecond.mandatory]

lemma cardinality_eq (side : Side) :
    Cardinality.between (r'.endAt side).multiplicity (r'.endAt side.opposite).multiplicity =
      .between (r.endAt side).multiplicity (r.endAt side.opposite).multiplicity := by
  simp only [Cardinality.between, (h.ends side).many, (h.ends side.opposite).many]

lemma sidesOf_eq (hf : Function.Injective f) (id : ClassId) : r'.sidesOf (f id) = r.sidesOf id := by
  refine List.filter_congr fun side _ => ?_
  rw [(h.ends side).classId, Bool.eq_iff_iff, beq_iff_eq, beq_iff_eq, hf.eq_iff]

end Relationship.Corresponds

/-- The relationships without an owner are those that need a join table. -/
lemma Catalog.Coherent.joinTables_placements {c : Catalog} (hc : c.Coherent) :
    c.joinTables c.placements = c.joinTablesFrom (c.classes.map fun entry => tableName entry.name)
      (c.relationships.filter fun r => r.ownerSide?.isNone) := by
  have hjoined : ∀ r ∈ c.relationships,
      ((c.placements.get? r.name).any Placement.isJoinTable) = r.ownerSide?.isNone := by
    intro r hr
    rw [hc.get?_placements hr]
    cases howner : r.ownerSide? with
    | none => rw [place_of_no_owner howner]; rfl
    | some side => rw [place_of_owner howner]; rfl
  rw [joinTables, List.filter_congr hjoined]

namespace Catalog.Embeds

variable {c c' : Catalog} {o : Options} {id : ClassId} {e e' : ClassEntry} {r r' : Relationship}
  (h : c.Embeds f c')
include h

/-! ## Classes -/

lemma entry?_cases (id : ClassId) : (c.entry? id = none ∧ c'.entry? (f id) = none) ∨
    ∃ e e', c.entry? id = some e ∧ c'.entry? (f id) = some e' ∧ e.Corresponds f e' := by
  have hentry := h.entries id
  generalize c.entry? id = entry at hentry ⊢
  generalize c'.entry? (f id) = entry' at hentry ⊢
  cases hentry with
  | none => exact .inl ⟨rfl, rfl⟩
  | some he => exact .inr ⟨_, _, rfl, rfl, he⟩

lemma exists_entry_of_lt (hid : id < c.classes.length) :
    ∃ e', c'.entry? (f id) = some e' ∧ c.classes[id].Corresponds f e' := by
  rcases h.entry?_cases id with ⟨hnone, -⟩ | ⟨e, e', hentry, hentry', he⟩
  · simp [entry?_of_lt hid] at hnone
  · rw [entry?_of_lt hid, Option.some_inj] at hentry
    exact ⟨e', hentry', hentry ▸ he⟩

lemma className_eq (id : ClassId) : c'.className (f id) = c.className id := by
  rcases h.entry?_cases id with ⟨hnone, hnone'⟩ | ⟨e, e', hentry, hentry', he⟩
  · simp [className, hnone, hnone']
  · simp [className, hentry, hentry', he.name]

lemma general?_eq (id : ClassId) : c'.general? (f id) = (c.general? id).map f := by
  rcases h.entry?_cases id with ⟨hnone, hnone'⟩ | ⟨e, e', hentry, hentry', he⟩
  · simp [general?, hnone, hnone']
  · simp [general?, hentry, hentry', he.general]

lemma inHierarchy_eq (id : ClassId) : c'.inHierarchy (f id) = c.inHierarchy id := by
  rcases h.entry?_cases id with ⟨hnone, hnone'⟩ | ⟨e, e', hentry, hentry', he⟩
  · simp [inHierarchy, hnone, hnone']
  · simp [inHierarchy, hentry, hentry', he.general, he.specifics]

/-- The chain of generals of a class keeps its length, whatever classes there are besides. -/
theorem lineage_eq (hc : c.Coherent) (hc' : c'.Coherent) (id : ClassId) :
    c'.lineage (f id) = (c.lineage id).map f := by
  obtain ⟨chain, hchain⟩ := hc.exists_ascent id
  have hchain' : Ascent c'.Rises (f id) (chain.map f) := by
    refine hchain.map ?_ ?_
    · intro i general hrise
      have hgeneral : c.general? i = some general := hrise
      simp [Rises, h.general?_eq, hgeneral]
    · intro i _ htop general hrise
      have hnone : c.general? i = none := Option.eq_none_iff_forall_ne_some.2 htop
      simp [Rises, h.general?_eq, hnone] at hrise
  rw [hc.lineage_eq hchain, hc'.lineage_eq hchain', List.map_reverse]

lemma ancestors_eq (hc : c.Coherent) (hc' : c'.Coherent) (id : ClassId) :
    c'.ancestors (f id) = (c.ancestors id).map f := by
  rw [ancestors, h.lineage_eq hc hc', ← List.map_dropLast, ancestors]

/-! ## Placements -/

lemma foreignKey_eq (hr : r.Corresponds f r') (side : Side) :
    c'.foreignKey r' side = (c.foreignKey r side).renumber f := by
  simp only [foreignKey, ForeignKey.renumber, hr.name, hr.cardinality_eq, (hr.ends side).classId,
    (hr.ends side).role, (hr.ends side.opposite).classId, (hr.ends side.opposite).role,
    (hr.ends side.opposite).mandatory, h.className_eq]

theorem place_eq (hr : r.Corresponds f r') : c'.place r' = (c.place r).renumber f := by
  cases howner : r.ownerSide? with
  | none =>
    rw [place_of_no_owner howner, place_of_no_owner (hr.ownerSide?_eq.trans howner), hr.name]
    rfl
  | some side =>
    rw [place_of_owner howner, place_of_owner (hr.ownerSide?_eq.trans howner), h.foreignKey_eq hr]
    rfl

theorem entries_placements_eq (hc : c.Coherent) (hc' : c'.Coherent) :
    c'.placements.entries = c.placements.entries.map fun e => (e.1, e.2.renumber f) := by
  rw [hc.entries_placements, hc'.entries_placements, List.map_map]
  refine (map_eq_map_of_forall₂ (fun r r' hr => ?_) h.relationships).symm
  simp only [Function.comp_apply, hr.name, h.place_eq hr]

lemma ownedBy_eq (hc : c.Coherent) (hc' : c'.Coherent) (id : ClassId) :
    c'.placements.ownedBy (f id) = (c.placements.ownedBy id).map (.renumber f) := by
  rw [hc.ownedBy_placements, hc'.ownedBy_placements, List.map_flatMap]
  refine (flatMap_eq_flatMap_of_forall₂ (fun r r' hr => ?_) h.relationships).symm
  have hsides : ∀ side, ((r'.endAt side).classId == f id) = ((r.endAt side).classId == id) := by
    intro side
    rw [(hr.ends side).classId, Bool.eq_iff_iff, beq_iff_eq, beq_iff_eq, h.injective.eq_iff]
  have hkeys : c'.foreignKey r' = fun side => (c.foreignKey r side).renumber f :=
    funext (h.foreignKey_eq hr)
  simp only [hr.ownerSide?_eq, hsides, List.map_map, Function.comp_def, hkeys]

/-! ## Tables -/

omit h in
lemma attributeColumn?_eq {a b : Attribute} (hab : a.Corresponds f b) :
    attributeColumn? b = attributeColumn? a := by
  cases ha : a.type <;>
    simp [attributeColumn?, hab.type, hab.name, hab.required, ha, AttributeType.renumber]

lemma attributeReference?_eq (owner : String) {a b : Attribute} (hab : a.Corresponds f b) :
    c'.attributeReference? owner b = c.attributeReference? owner a := by
  cases ha : a.type <;>
    simp [attributeReference?, hab.type, hab.name, hab.required, ha, AttributeType.renumber,
      h.className_eq]

lemma parentTable?_eq (he : e.Corresponds f e') : c'.parentTable? e' = c.parentTable? e := by
  simp [parentTable?, he.general, h.className_eq, Function.comp_def]

omit h in
lemma isHierarchyRoot_eq (he : e.Corresponds f e') : e'.isHierarchyRoot = e.isHierarchyRoot := by
  simp [ClassEntry.isHierarchyRoot, he.general, he.specifics]

theorem table_eq (hc : c.Coherent) (hc' : c'.Coherent) (he : e.Corresponds f e') :
    c'.table c'.placements e' = c.table c.placements e := by
  have hcolumns : e.attributes.filterMap attributeColumn? =
      e'.attributes.filterMap attributeColumn? := by
    refine filterMap_eq_filterMap_of_forall₂ (fun a b hab => ?_) he.attributes
    rw [attributeColumn?_eq hab]
  have hreferences : e.attributes.filterMap (c.attributeReference? e.name) =
      e'.attributes.filterMap (c'.attributeReference? e.name) := by
    refine filterMap_eq_filterMap_of_forall₂ (fun a b hab => ?_) he.attributes
    rw [h.attributeReference?_eq _ hab]
  simp only [table, he.name, he.id, he.general, Option.isNone_map, h.parentTable?_eq he,
    isHierarchyRoot_eq he, h.inHierarchy_eq, hcolumns, hreferences, h.ownedBy_eq hc hc',
    List.map_map, Function.comp_def, keyReference_renumber]

/-! ## Join tables -/

lemma joinColumn_eq (hr : r.Corresponds f r') (side : Side) :
    c'.joinColumn r' side = c.joinColumn r side := by
  have hsame : r'.first.classId = r'.second.classId ↔ r.first.classId = r.second.classId := by
    have hfirst : r'.first.classId = f r.first.classId := (hr.ends .first).classId
    have hsecond : r'.second.classId = f r.second.classId := (hr.ends .second).classId
    rw [hfirst, hsecond, h.injective.eq_iff]
  simp only [joinColumn, (hr.ends side).classId, (hr.ends side).role, h.className_eq, hsame]

lemma joinTable_eq (hr : r.Corresponds f r') (used : List String) :
    c'.joinTable used r' = c.joinTable used r := by
  have hfirst : r'.first.classId = f r.first.classId := (hr.ends .first).classId
  have hsecond : r'.second.classId = f r.second.classId := (hr.ends .second).classId
  simp only [joinTable, hfirst, hsecond, hr.name, h.className_eq, h.joinColumn_eq hr]

lemma joinTablesFrom_eq {rs rs' : List Relationship}
    (hrs : List.Forall₂ (Relationship.Corresponds f) rs rs') (used : List String) :
    c'.joinTablesFrom used rs' = c.joinTablesFrom used rs := by
  induction hrs generalizing used with
  | nil => rfl
  | cons hr _ ih => simp only [joinTablesFrom, h.joinTable_eq hr, ih]

/-- The join tables are those of the same relationships, if the class tables have the same names. -/
theorem joinTables_eq (hc' : c'.Coherent) :
    c'.joinTables c'.placements =
      c.joinTablesFrom (c'.classes.map fun entry => tableName entry.name)
        (c.relationships.filter fun r => r.ownerSide?.isNone) := by
  rw [hc'.joinTables_placements]
  refine h.joinTablesFrom_eq (List.rel_filter (fun r r' hr => ?_) h.relationships) _
  simp only [hr.ownerSide?_eq]

/-! ## Fields -/

lemma ownFieldNames_eq (id : ClassId) : c'.ownFieldNames (f id) = c.ownFieldNames id := by
  have hattributes : ((c'.entry? (f id)).map fun entry => entry.attributes.map (·.name)).getD [] =
      ((c.entry? id).map fun entry => entry.attributes.map (·.name)).getD [] := by
    rcases h.entry?_cases id with ⟨hnone, hnone'⟩ | ⟨e, e', hentry, hentry', he⟩
    · simp only [hnone, hnone', Option.map_none]
    · rw [hentry, hentry', Option.map_some, Option.map_some, Option.getD_some, Option.getD_some,
        map_eq_map_of_forall₂ (fun a b hab => hab.name.symm) he.attributes]
  have hroles : (c'.endsOf (f id)).map (fun e => (e.1.endAt e.2.opposite).role) =
      (c.endsOf id).map fun e => (e.1.endAt e.2.opposite).role := by
    simp only [endsOf, List.map_flatMap, List.map_map, Function.comp_def]
    refine (flatMap_eq_flatMap_of_forall₂ (fun r r' hr => ?_) h.relationships).symm
    simp only [hr.sidesOf_eq h.injective, (hr.ends _).role]
  rw [Catalog.ownFieldNames_eq, hattributes, hroles, ← Catalog.ownFieldNames_eq]

lemma flatMap_ownFieldNames_eq (hc : c.Coherent) (hc' : c'.Coherent) (id : ClassId) :
    (c'.lineage (f id)).flatMap c'.ownFieldNames = (c.lineage id).flatMap c.ownFieldNames := by
  rw [h.lineage_eq hc hc', List.flatMap_map]
  exact List.flatMap_congr fun i _ => h.ownFieldNames_eq i

/-! ## Contracts -/

lemma attributeField_eq {a b : Attribute} (hab : a.Corresponds f b) :
    c'.attributeField b = c.attributeField a := by
  cases ha : a.type <;>
    simp [attributeField, hab.type, hab.name, hab.required, ha, AttributeType.renumber,
      h.className_eq]

lemma relationshipField_eq (hr : r.Corresponds f r') (side : Side) :
    c'.relationshipField o r' side = c.relationshipField o r side := by
  have hopposite := hr.ends side.opposite
  cases howner : r.ownerSide? <;>
    simp [relationshipField, hr.name, hr.ownerSide?_eq, howner, hr.cardinality_eq,
      hopposite.classId, hopposite.role, hopposite.mandatory, Multiplicity.isSingle,
      hopposite.many, h.className_eq]

theorem contract_eq (hc : c.Coherent) (hc' : c'.Coherent) (he : e.Corresponds f e') :
    c'.contract c'.placements o e' = c.contract c.placements o e := by
  have hattributes : e.attributes.map c.attributeField = e'.attributes.map c'.attributeField := by
    refine map_eq_map_of_forall₂ (fun a b hab => ?_) he.attributes
    rw [h.attributeField_eq hab]
  have hends : (c'.endsOf e'.id).map (fun x => c'.relationshipField o x.1 x.2) =
      (c.endsOf e.id).map fun x => c.relationshipField o x.1 x.2 := by
    simp only [endsOf, List.map_flatMap, List.map_map, Function.comp_def, he.id]
    refine (flatMap_eq_flatMap_of_forall₂ (fun r r' hr => ?_) h.relationships).symm
    simp only [hr.sidesOf_eq h.injective, h.relationshipField_eq hr]
  have hfields : (c'.contract c'.placements o e').fields =
      (c.contract c.placements o e).fields := by
    rw [hc.fields_contract, hc'.fields_contract, hattributes, hends]
  have hparent : e'.general.map c'.className = e.general.map c.className := by
    simp [he.general, h.className_eq, Function.comp_def]
  simp only [contract] at hfields ⊢
  rw [hfields, hparent, he.name, he.isAbstract]

lemma get?_contracts_eq (hc : c.Coherent) (hc' : c'.Coherent) (hid : id < c.classes.length) :
    (c'.contracts c'.placements o).get? (c.className id) =
      (c.contracts c.placements o).get? (c.className id) := by
  obtain ⟨e', hentry', he⟩ := h.exists_entry_of_lt hid
  rw [Catalog.className_eq (entry?_of_lt hid), hc.get?_contracts (entry?_of_lt hid),
    ← h.contract_eq hc hc' he, ← he.name]
  exact hc'.get?_contracts hentry'

/-! ## Plans -/

/-- A plan is made from the contracts along the lineage. -/
theorem plan_eq (hc : c.Coherent) (hc' : c'.Coherent) (hid : id < c.classes.length) :
    c'.plan (c'.contracts c'.placements o) (f id) = c.plan (c.contracts c.placements o) id := by
  have hget := fun i (hi : i ∈ c.ancestors id) =>
    h.get?_contracts_eq (o := o) hc hc'
      (hc.lt_of_mem_lineage hid ((List.dropLast_sublist _).subset hi))
  have hinherited : (c'.ancestors (f id)).flatMap
        (c'.inheritedArguments (c'.contracts c'.placements o)) =
      (c.ancestors id).flatMap (c.inheritedArguments (c.contracts c.placements o)) := by
    rw [h.ancestors_eq hc hc', List.flatMap_map]
    refine List.flatMap_congr fun i hi => ?_
    simp only [inheritedArguments, h.className_eq, hget i hi]
  simp only [plan, hinherited, ownArguments, h.className_eq, h.get?_contracts_eq hc hc' hid]

/-! ## Classes in step -/

variable {es es' : List ClassEntry} (hes : List.Forall₂ (ClassEntry.Corresponds f) es es')
include hes

lemma tables_eq (hc : c.Coherent) (hc' : c'.Coherent) :
    es'.map (c'.table c'.placements) = es.map (c.table c.placements) := by
  refine (map_eq_map_of_forall₂ (fun e e' he => ?_) hes).symm
  rw [h.table_eq hc hc' he]

lemma contracts_eq (hc : c.Coherent) (hc' : c'.Coherent) :
    es'.map (fun entry => (entry.name, c'.contract c'.placements o entry)) =
      es.map fun entry => (entry.name, c.contract c.placements o entry) := by
  refine (map_eq_map_of_forall₂ (fun e e' he => ?_) hes).symm
  rw [h.contract_eq hc hc' he, he.name]

lemma plans_eq (hc : c.Coherent) (hc' : c'.Coherent) (hsub : es ⊆ c.classes) :
    (es'.filter (!·.isAbstract)).map (fun e => c'.plan (c'.contracts c'.placements o) e.id) =
      (es.filter (!·.isAbstract)).map fun e => c.plan (c.contracts c.placements o) e.id := by
  have hmem := (List.forall₂_and_left _ _).2 ⟨fun e he => hsub he, hes⟩
  have hfiltered := List.rel_filter (p := fun e => !e.isAbstract) (q := fun e => !e.isAbstract)
    (fun e e' he => by simp only [he.2.isAbstract]) hmem
  refine (map_eq_map_of_forall₂ (fun e e' he => ?_) hfiltered).symm
  rw [he.2.id, h.plan_eq hc hc' (hc.id_lt he.1)]

end Catalog.Embeds

end Blueprint
