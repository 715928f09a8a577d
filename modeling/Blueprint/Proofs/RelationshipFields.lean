import Blueprint.Proofs.Agreement
import Blueprint.Proofs.Contracts
import Blueprint.Proofs.Exclusivity

/-!
# Fields of relationships

Over all contracts the fields of relationships correspond one to one to the ends of the associations
with two ends. A field stands in the contract of the class at one end and tells of the other end.
That holds of associations of a class with itself as well, where both fields are in one contract and
only their names tell them apart.
-/
namespace Blueprint

/-- The field belongs to the end `own` at a class. It has the name of the opposite end and refers to
the class there, to one instance or to several, and it owns the reference exactly if that is placed
at its end. -/
structure Field.Mirrors (f : Field) (className : String) (ps : Placements) (a : Association)
    (own opposite : Property) : Prop where
  ofClass : own.type = some (.ofClass className)
  name : f.name = opposite.name
  origin : ∃ μ ν, own.multiplicity = some μ ∧ opposite.multiplicity = some ν ∧
    f.origin = .relationship a.name (.between μ ν) f.ownsReference
  type : ∃ target, opposite.type = some (.ofClass target) ∧
    (opposite.AdmitsMany → ∃ element, f.type = .list target element) ∧
    (¬ opposite.AdmitsMany → f.type = .reference target)
  owns : f.ownsReference = true ↔
    ∃ key, ps.get? a.name = some (.reference key) ∧ a.Faces key.ownerSide own opposite
  required : f.required = true ↔ f.ownsReference = true ∧ opposite.Demands

/-- The contract of the class has the field, and it is that of a relationship. -/
def ContractSet.Relates (s : ContractSet) (className : String) (f : Field) : Prop :=
  ∃ contract, s.get? className = some contract ∧ f ∈ contract.relationshipFields

namespace Catalog

variable {c : Catalog} {o : Options} {r : Relationship} {side : Side}

lemma type_relationshipField_of_many
    (h : (r.endAt side.opposite).multiplicity.isMany = true) :
    ∃ element, (c.relationshipField o r side).type =
      .list (c.className (r.endAt side.opposite).classId) element := by
  cases howner : r.ownerSide? with
  | none => exact ⟨_, by simp only [relationshipField, howner]; rfl⟩
  | some owner =>
    have hne : owner ≠ side := by
      rintro rfl
      simp [Relationship.isMany_opposite_of_owner howner] at h
    exact ⟨.byReference, by simp [relationshipField, howner, hne, Multiplicity.isSingle, h]⟩

lemma type_relationshipField_of_single
    (h : (r.endAt side.opposite).multiplicity.isMany = false) :
    (c.relationshipField o r side).type =
      .reference (c.className (r.endAt side.opposite).classId) := by
  cases howner : r.ownerSide? with
  | none =>
    have hmany := ((Relationship.ownerSide?_eq_none_iff side).1 howner).2
    simp [hmany] at h
  | some owner => simp [relationshipField, howner, Multiplicity.isSingle, h]

namespace Coherent

variable (hc : c.Coherent)
include hc

lemma relates_iff {className : String} {f : Field} :
    (c.contracts c.placements o).Relates className f ↔
      ∃ r ∈ c.relationships, ∃ side, c.className (r.endAt side).classId = className ∧
        f = c.relationshipField o r side := by
  constructor
  · rintro ⟨contract, hget, hf⟩
    obtain ⟨id, entry, hentry, rfl, rfl⟩ := hc.exists_entry_of_get?_contracts hget
    rw [hc.relationshipFields_contract, hc.ids id entry hentry] at hf
    obtain ⟨⟨r, side⟩, hside, rfl⟩ := List.mem_map.1 hf
    obtain ⟨hr, hid⟩ := mem_endsOf.1 hside
    exact ⟨r, hr, side, congrArg c.className hid, rfl⟩
  · rintro ⟨r, hr, side, rfl, rfl⟩
    have hentry := entry?_of_lt (hc.ends r hr side)
    refine ⟨_, className_eq hentry ▸ hc.get?_contracts hentry, ?_⟩
    rw [hc.relationshipFields_contract, hc.ids _ _ hentry]
    exact List.mem_map.2 ⟨(r, side), mem_endsOf.2 ⟨hr, rfl⟩, rfl⟩

/-- The field of a class at a side of a relationship belongs to the declared end there. -/
theorem mirrors_relationshipField {a : Association} {own opposite : Property}
    (hr : r ∈ c.relationships) (hname : r.name = a.name) (hfaces : a.Faces side own opposite)
    (hown : c.IsEnd (r.endAt side) own) (hopposite : c.IsEnd (r.endAt side.opposite) opposite) :
    (c.relationshipField o r side).Mirrors (c.className (r.endAt side).classId) c.placements a own
      opposite where
  ofClass := hown.type
  name := hopposite.role
  origin := ⟨_, _, hown.multiplicity, hopposite.multiplicity, by rw [← hname]; rfl⟩
  type := by
    refine ⟨_, hopposite.type, ?_⟩
    rw [Property.admitsMany_iff hopposite.multiplicity]
    refine ⟨type_relationshipField_of_many, fun h => type_relationshipField_of_single ?_⟩
    exact Bool.eq_false_iff.2 h
  owns := by
    have howns : (c.relationshipField o r side).ownsReference = (r.ownerSide? == some side) := rfl
    rw [howns, ← hname, hc.get?_placements hr, beq_iff_eq]
    constructor
    · intro howner
      exact ⟨_, congrArg some (place_of_owner howner), hfaces⟩
    · rintro ⟨key, hkey, hside⟩
      obtain ⟨owner, howner, rfl⟩ := owner_of_place_eq (Option.some.inj hkey)
      have hsame : owner = side := hside.side_unique hfaces
      rw [howner, hsame]
  required := by
    rw [Property.demands_iff hopposite.multiplicity]
    exact Bool.and_eq_true_iff

end Coherent

end Catalog

/-! ## Fields and ends of a model -/

namespace Model

variable {m : Model} {o : Options} {k : Compiled} {ps : Placements} {f f' : Field}
  {order : StartOrder}
  {className className' : String} {a a' : Association} {p q p' q' : Property}

lemma isEndOf_of_mirrors (ha : a ∈ m.associations) (h : a.Joins p q)
    (hf : f.Mirrors className ps a p q) : m.IsEndOf className f q := by
  obtain ⟨μ, ν, -, -, horigin⟩ := hf.origin
  exact ⟨a, ha, p, h, hf.ofClass, hf.name.symm, _, _, horigin⟩

namespace Sound

variable (hm : m.Sound)
include hm

/-- The field of each end is that of its class at its side of the relationship. -/
lemma exists_field_of_faces (o : Options) {side : Side} (ha : a ∈ m.associations)
    (h : a.Faces side p q) :
    ∃ r ∈ m.resolved.relationships, r.name = a.name ∧
      (m.resolved.relationshipField o r side).Mirrors
        (m.resolved.className (r.endAt side).classId) m.resolved.placements a p q := by
  obtain ⟨r, hr, hname, hp, hq⟩ := hm.exists_relationship_of_faces ha h
  exact ⟨r, hr, hname, hm.coherent_resolved.mirrors_relationshipField hr hname h hp hq⟩

variable (hfields : m.resolved.fieldDefect? = none)
include hfields

/-- A field belongs to one end only. -/
lemma ends_eq_of_mirrors (ha : a ∈ m.associations) (h : a.Joins p q)
    (hf : f.Mirrors className ps a p q) (ha' : a' ∈ m.associations) (h' : a'.Joins p' q')
    (hf' : f.Mirrors className ps a' p' q') : a = a' ∧ p = p' ∧ q = q' := by
  obtain ⟨_, _, -, -, horigin⟩ := hf.origin
  obtain ⟨_, _, -, -, horigin'⟩ := hf'.origin
  have hname : a.name = a'.name := (Origin.relationship.inj (horigin ▸ horigin')).1
  obtain rfl := List.inj_on_of_nodup_map hm.associationNames ha ha' hname
  obtain rfl := hm.isEndOf_unique hfields (isEndOf_of_mirrors ha h hf)
    (isEndOf_of_mirrors ha h' hf')
  exact ⟨rfl, h.own_eq h', rfl⟩

/-- Each field of a relationship belongs to the end at its side. -/
lemma exists_end_of_mem {r : Relationship} (o : Options) (hr : r ∈ m.resolved.relationships)
    (side : Side) :
    ∃ a ∈ m.associations, r.name = a.name ∧ ∃ p q, a.Faces side p q ∧
      (m.resolved.relationshipField o r side).Mirrors
        (m.resolved.className (r.endAt side).classId) m.resolved.placements a p q := by
  obtain ⟨a, ha, hname, p, q, hfaces, hp, hq⟩ := hm.exists_faces_of_mem hfields hr side
  exact ⟨a, ha, hname, p, q, hfaces,
    hm.coherent_resolved.mirrors_relationshipField hr hname hfaces hp hq⟩

lemma existsUnique_field (o : Options) (ha : a ∈ m.associations) (h : a.Joins p q) :
    ∃! x : String × Field,
      (m.resolved.contracts m.resolved.placements o).Relates x.1 x.2 ∧
        x.2.Mirrors x.1 m.resolved.placements a p q := by
  have hc := hm.coherent_resolved
  obtain ⟨side, hfaces⟩ := hm.exists_side hfields ha h
  obtain ⟨r, hr, hname, hmirrors⟩ := hm.exists_field_of_faces o ha hfaces
  refine ⟨(_, _), ⟨hc.relates_iff.2 ⟨r, hr, side, rfl, rfl⟩, hmirrors⟩, ?_⟩
  rintro ⟨className, f⟩ ⟨hrelates, hf⟩
  obtain ⟨r', hr', side', rfl, rfl⟩ := hc.relates_iff.1 hrelates
  obtain ⟨a', ha', hname', p', q', hfaces', hmirrors'⟩ := hm.exists_end_of_mem hfields o hr' side'
  obtain ⟨rfl, rfl, rfl⟩ := hm.ends_eq_of_mirrors hfields ha h hf ha' hfaces'.1 hmirrors'
  obtain rfl := hfaces.side_unique hfaces'
  obtain rfl := hc.relationship_inj hr hr' (hname.trans hname'.symm)
  rfl

lemma existsUnique_end (o : Options)
    (h : (m.resolved.contracts m.resolved.placements o).Relates className f) :
    ∃! x : Association × Property × Property, x.1 ∈ m.associations ∧ x.1.Joins x.2.1 x.2.2 ∧
      f.Mirrors className m.resolved.placements x.1 x.2.1 x.2.2 := by
  obtain ⟨r, hr, side, rfl, rfl⟩ := hm.coherent_resolved.relates_iff.1 h
  obtain ⟨a, ha, -, p, q, hfaces, hmirrors⟩ := hm.exists_end_of_mem hfields o hr side
  refine ⟨(a, p, q), ⟨ha, hfaces.1, hmirrors⟩, ?_⟩
  rintro ⟨a', p', q'⟩ ⟨ha', hjoins', hmirrors'⟩
  obtain ⟨rfl, rfl, rfl⟩ :=
    hm.ends_eq_of_mirrors hfields ha' hjoins' hmirrors' ha hfaces.1 hmirrors
  rfl

/-- The fields in one contract have different names. -/
lemma nodup_fields {contract : Contract}
    (h : (m.resolved.contracts m.resolved.placements o).get? className = some contract) :
    (contract.fields.map (·.name)).Nodup := by
  have hc := hm.coherent_resolved
  obtain ⟨id, entry, hentry, -, rfl⟩ := hc.exists_entry_of_get?_contracts h
  have hlt : id < m.resolved.classes.length := (List.getElem?_eq_some_iff.1 hentry).1
  have hnd := hc.fieldDefect?_eq_none_iff.1 hfields id hlt
  rw [hc.lineage_eq_ancestors_append, List.flatMap_append, List.flatMap_singleton] at hnd
  rw [hc.fields_contract_eq_fieldsAt hentry, Catalog.map_name_fieldsAt]
  exact (List.nodup_append.1 hnd).2.1

lemma nodup_relationshipFields {contract : Contract}
    (h : (m.resolved.contracts m.resolved.placements o).get? className = some contract) :
    (contract.relationshipFields.map (·.name)).Nodup :=
  (hm.nodup_fields hfields h).sublist (List.filter_sublist.map _)

/-- One of the two fields of an association owns the reference, unless there is a join table. -/
lemma ownsReference_of_mirrors (ha : a ∈ m.associations) (h : a.Joins p q)
    (hf : f.Mirrors className m.resolved.placements a p q)
    (hf' : f'.Mirrors className' m.resolved.placements a q p) :
    ∃ placement, m.resolved.placements.get? a.name = some placement ∧
      if placement.isJoinTable then f.ownsReference = false ∧ f'.ownsReference = false
      else f.ownsReference = !f'.ownsReference := by
  have hbinary := Association.isBinary_iff_exists_joins.2 ⟨p, q, h⟩
  obtain ⟨placement, hget, -⟩ := hm.placedBy_of_mem hfields ha hbinary
  refine ⟨placement, hget, ?_⟩
  have howns := hf.owns
  have howns' := hf'.owns
  simp only [hget, Option.some.injEq] at howns howns'
  cases placement with
  | joinTable association =>
    simp only [reduceCtorEq, false_and, exists_false, iff_false, Bool.not_eq_true] at howns howns'
    simp [Placement.isJoinTable, howns, howns']
  | reference key =>
    simp only [Placement.reference.injEq, exists_eq_left'] at howns howns'
    rcases hm.faces_or_faces hfields ha h key.ownerSide with hfaces | hfaces
    · have hnot : f'.ownsReference = false :=
        Bool.eq_false_iff.2 fun hown => hfaces.not_swap (howns'.1 hown)
      simp [Placement.isJoinTable, howns.2 hfaces, hnot]
    · have hnot : f.ownsReference = false :=
        Bool.eq_false_iff.2 fun hown => hfaces.not_swap (howns.1 hown)
      simp [Placement.isJoinTable, howns'.2 hfaces, hnot]

end Sound

/-- In what is compiled from a model the fields of relationships mirror the ends of associations:
each end has one field and each field one end, and no field comes twice. Of the two fields of an
association one owns the reference if there is one, and none does if there is a join table. -/
theorem relationship_fields_mirror_ends (hk : m.compile o order = .ok k) :
    (∀ a ∈ m.associations, ∀ p q, a.Joins p q → ∃! x : String × Field,
      k.contracts.Relates x.1 x.2 ∧ x.2.Mirrors x.1 k.placements a p q) ∧
    (∀ className (f : Field), k.contracts.Relates className f →
      ∃! x : Association × Property × Property, x.1 ∈ m.associations ∧ x.1.Joins x.2.1 x.2.2 ∧
        f.Mirrors className k.placements x.1 x.2.1 x.2.2) ∧
    (∀ className contract, k.contracts.get? className = some contract →
      contract.relationshipFields.Nodup) ∧
    ∀ a ∈ m.associations, ∀ p q, a.Joins p q → ∀ className className' (f f' : Field),
      f.Mirrors className k.placements a p q → f'.Mirrors className' k.placements a q p →
      ∃ placement, k.placements.get? a.name = some placement ∧
        if placement.isJoinTable then f.ownsReference = false ∧ f'.ownsReference = false
        else f.ownsReference = !f'.ownsReference := by
  obtain ⟨hm, hfields, -, rfl⟩ := compile_eq_ok_iff.1 hk
  refine ⟨?_, ?_, ?_, ?_⟩
  · exact fun a ha p q h => hm.existsUnique_field hfields o ha h
  · exact fun className f h => hm.existsUnique_end hfields o h
  · exact fun className contract h => List.Nodup.of_map _ (hm.nodup_relationshipFields hfields h)
  · exact fun a ha p q h _ _ f f' hf hf' => hm.ownsReference_of_mirrors hfields ha h hf hf'

/-- Both ends of the reports among employees have their field. -/
theorem firm_reports_fields_mirror_ends : ∃ k, firm.compile {} = .ok k ∧
    (∃! x : String × Field, k.contracts.Relates x.1 x.2 ∧ x.2.Mirrors x.1 k.placements
      firm.associations[3] firm.associations[3].ends[0] firm.associations[3].ends[1]) ∧
    ∃! x : String × Field, k.contracts.Relates x.1 x.2 ∧ x.2.Mirrors x.1 k.placements
      firm.associations[3] firm.associations[3].ends[1] firm.associations[3].ends[0] := by
  obtain ⟨k, hk⟩ := exists_compiled_of_isOk (m := firm) (o := {}) (by decide +kernel)
  obtain ⟨hfield, -⟩ := relationship_fields_mirror_ends hk
  have hreports := hfield firm.associations[3] (List.getElem_mem _)
  exact ⟨k, hk, hreports _ _ (.inl rfl), hreports _ _ (.inr rfl)⟩

end Model

end Blueprint
