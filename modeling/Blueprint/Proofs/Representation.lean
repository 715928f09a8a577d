import Blueprint.Proofs.BinaryPart

/-!
# Catalogs represent models

The catalog of a model declares what the model declares, with positions in place of names. Its
classes, enumerations, relationships and skipped associations are those of the model, each in the
order of their names; a class knows its general and its specifics as they were declared; and the
ends of a relationship are those of its association, the first of them strictly before the second.
-/
namespace Blueprint

namespace Catalog

/-- The type is the declared one. A class is meant by the position of its name. -/
def IsType (c : Catalog) (type : AttributeType) : TypeRef → Prop
  | .primitive p => type = .primitive p
  | .ofEnumeration name => type = .ofEnumeration name
  | .ofClass name => ∃ id, c.classId? name = some id ∧ type = .ofClass id

/-- The attribute is the declared one. Without a multiplicity it has exactly one value. -/
structure IsAttribute (c : Catalog) (a : Attribute) (p : Property) : Prop where
  name : a.name = p.name
  type : ∃ t, p.type = some t ∧ c.IsType a.type t
  multiplicity : a.multiplicity = p.multiplicity.getD ⟨1, .bounded 1⟩

/-- The entry at a position is that of a declared class. -/
structure IsClass (c : Catalog) (entry : ClassEntry) (d : ClassDecl) : Prop where
  name : entry.name = d.name
  isAbstract : entry.isAbstract = d.isAbstract
  attributes : List.Forall₂ c.IsAttribute entry.attributes d.attributes

/-- The class of the end comes first, or the classes are the same and the role comes first. -/
def Before (c : Catalog) (e e' : RelationshipEnd) : Prop :=
  c.className e.classId < c.className e'.classId ∨
    c.className e.classId = c.className e'.classId ∧ e.role < e'.role

/-- The relationship has the two ends of the association, in order. -/
structure IsAssociation (c : Catalog) (r : Relationship) (a : Association) : Prop where
  name : r.name = a.name
  ends : ∃ p q, a.Joins p q ∧ c.IsEnd r.first p ∧ c.IsEnd r.second q
  ordered : c.Before r.first r.second

/-- The catalog has what the model declares, and nothing else. -/
structure Represents (c : Catalog) (m : Model) : Prop where
  name : c.name = m.name
  classNames : (c.classes.map (·.name)).Perm m.classNames
  classesOrdered : (c.classes.map (·.name)).Pairwise (· < ·)
  classes : ∀ d ∈ m.classes, ∃ entry ∈ c.classes, c.IsClass entry d
  ids : ∀ id entry, c.entry? id = some entry → entry.id = id
  classId?_eq_some_iff : ∀ name id,
    c.classId? name = some id ↔ ∃ entry, c.entry? id = some entry ∧ entry.name = name
  general?_eq_some_iff : ∀ id general, c.general? id = some general ↔
    ∃ s g, c.entry? id = some s ∧ c.entry? general = some g ∧ m.HasGeneral s.name g.name
  specificsOrdered : ∀ entry ∈ c.classes, entry.specifics.Pairwise (· < ·)
  mem_specifics_iff : ∀ id entry, c.entry? id = some entry →
    ∀ i, i ∈ entry.specifics ↔ c.general? i = some id
  enumerations : c.enumerations.Perm m.enumerations
  enumerationsOrdered : (c.enumerations.map (·.name)).Pairwise (· < ·)
  relationshipNames : (c.relationships.map (·.name)).Perm
    ((m.associations.filter (·.isBinary)).map (·.name))
  relationshipsOrdered : (c.relationships.map (·.name)).Pairwise (· < ·)
  relationships : ∀ a ∈ m.associations, a.isBinary = true →
    ∃ r ∈ c.relationships, c.IsAssociation r a
  skipped : c.skipped.Perm m.nonBinaryNames
  skippedOrdered : c.skipped.Pairwise (· < ·)

variable {c : Catalog}

lemma IsEnd.className_eq {e : RelationshipEnd} {p : Property} (h : c.IsEnd e p) :
    p.className = c.className e.classId := Property.className_eq h.type

lemma before_of_faces {a : Association} {r : Relationship} {p q : Property}
    (h : a.Faces .first p q) (hp : c.IsEnd r.first p) (hq : c.IsEnd r.second q) :
    c.Before r.first r.second := by
  have hprecedes : p.Precedes q := h.2
  rwa [Property.Precedes, hp.className_eq, hq.className_eq, ← hp.role, ← hq.role] at hprecedes

theorem Coherent.classId?_eq_some_iff (hc : c.Coherent) {name : String} {id : ClassId} :
    c.classId? name = some id ↔ ∃ entry, c.entry? id = some entry ∧ entry.name = name := by
  constructor
  · intro h
    obtain ⟨hid, hname, -⟩ := List.findIdx?_eq_some_iff_getElem.1 h
    exact ⟨_, entry?_of_lt hid, by simpa using hname⟩
  · rintro ⟨entry, hentry, rfl⟩
    rw [← className_eq hentry]
    exact hc.classId?_className (List.getElem?_eq_some_iff.1 hentry).1

end Catalog

namespace Model

variable {m : Model} {c : Catalog} {order : StartOrder}

/-! ## Declarations and what they are resolved to -/

lemma specifics_strict (m : Model) {entry : ClassEntry} (h : entry ∈ m.resolved.classes) :
    entry.specifics.Pairwise (· < ·) := by
  rw [classes_resolved] at h
  obtain ⟨x, -, rfl⟩ := List.mem_map.1 h
  exact List.pairwise_lt_range.filter _

namespace Sound

variable (hm : m.Sound)
include hm

lemma classId?_idxOf {name : String} (h : name ∈ m.classNames) :
    m.resolved.classId? name = some (m.orderedNames.idxOf name) := by
  have hclass := hm.coherent_resolved.classId?_className (idxOf_lt_of_mem h)
  rwa [hm.className_idxOf h] at hclass

lemma isAttribute_resolvedAttribute {p : Property} (h : m.SoundAttribute p) :
    m.resolved.IsAttribute (resolvedAttribute m.orderedNames p) p where
  name := rfl
  type := by
    obtain ⟨t, ht, hdeclared⟩ := h.typed
    refine ⟨t, ht, ?_⟩
    cases t with
    | primitive q => simp [Catalog.IsType, resolvedAttribute, resolvedType, ht]
    | ofEnumeration name => simp [Catalog.IsType, resolvedAttribute, resolvedType, ht]
    | ofClass name =>
      have hid := hm.classId?_idxOf hdeclared
      simp [Catalog.IsType, resolvedAttribute, resolvedType, ht, hid]
  multiplicity := rfl

lemma exists_isClass {d : ClassDecl} (hd : d ∈ m.classes) :
    ∃ entry ∈ m.resolved.classes, m.resolved.IsClass entry d := by
  obtain ⟨id, hentry⟩ := exists_entry hd
  refine ⟨_, List.mem_of_getElem? hentry, rfl, rfl, ?_⟩
  refine List.forall₂_map_left_iff.2 (List.forall₂_same.2 fun p hp => ?_)
  exact hm.isAttribute_resolvedAttribute (hm.attributes d hd p hp)

/-- Positions and names say the same of a general. -/
lemma general?_iff_entries {id general : ClassId} : m.resolved.general? id = some general ↔
    ∃ s g, m.resolved.entry? id = some s ∧ m.resolved.entry? general = some g ∧
      m.HasGeneral s.name g.name := by
  simp only [hm.general?_resolved_iff, orderedNames_getElem?_eq_some_iff]
  constructor
  · rintro ⟨_, _, ⟨s, hs, rfl⟩, ⟨g, hg, rfl⟩, hdeclared⟩
    exact ⟨s, g, hs, hg, hdeclared⟩
  · rintro ⟨s, g, hs, hg, hdeclared⟩
    exact ⟨_, _, ⟨s, hs, rfl⟩, ⟨g, hg, rfl⟩, hdeclared⟩

/-- The relationship of an association has its ends in strict order, since no two of them have the
same class and the same role. -/
lemma exists_isAssociation (hfields : m.resolved.fieldDefect? = none) {a : Association}
    (ha : a ∈ m.associations) (hbinary : a.isBinary = true) :
    ∃ r ∈ m.resolved.relationships, m.resolved.IsAssociation r a := by
  obtain ⟨p, q, hfaces⟩ := hm.exists_faces hfields ha hbinary .first
  obtain ⟨r, hr, hname, hp, hq⟩ := hm.exists_relationship_of_faces ha hfaces
  exact ⟨r, hr, hname, ⟨p, q, hfaces.1, hp, hq⟩, Catalog.before_of_faces hfaces hp hq⟩

end Sound

/-- The catalog of a model represents it. -/
theorem ofModel_represents (h : Catalog.ofModel m order = .ok c) : c.Represents m := by
  obtain ⟨hm, hfields, rfl⟩ := Catalog.ofModel_eq_ok_iff.1 h
  have hc := hm.coherent_resolved
  exact {
    name := rfl
    classNames := m.names_resolved ▸ m.orderedNames_perm
    classesOrdered := hc.classNames
    classes := fun d hd => hm.exists_isClass hd
    ids := hc.ids
    classId?_eq_some_iff := fun _ _ => hc.classId?_eq_some_iff
    general?_eq_some_iff := fun _ _ => hm.general?_iff_entries
    specificsOrdered := fun _ hentry => m.specifics_strict hentry
    mem_specifics_iff := fun _ _ hentry _ => hm.mem_specifics_iff hentry
    enumerations := sortedByName_perm _ _
    enumerationsOrdered := sortedByName_strict hm.enumerationNames_nodup
    relationshipNames := by
      rw [names_relationships_resolved]
      exact ((sortedByName_perm _ _).filter _).map _
    relationshipsOrdered := hc.relationshipNames
    relationships := fun a ha hbinary => hm.exists_isAssociation hfields ha hbinary
    skipped := skipped_perm
    skippedOrdered := skipped_strict hm.associationNames }

/-- Employees are at the second position, below persons, and may report to each other. -/
theorem firm_represented : ∃ c, Catalog.ofModel firm = .ok c ∧ c.Represents firm ∧
    c.classId? "Employee" = some 1 ∧ c.general? 1 = some 2 ∧ c.skipped = ["review"] ∧
    ∃ r ∈ c.relationships, c.IsAssociation r firm.associations[3] := by
  obtain ⟨k, hk⟩ := exists_compiled_of_isOk (m := firm) (o := {}) (by decide +kernel)
  have hc : Catalog.ofModel firm = .ok firm.resolved := ofModel_of_compile hk
  have hrepresents := ofModel_represents hc
  have hreports := hrepresents.relationships firm.associations[3] (List.getElem_mem _) rfl
  exact ⟨_, hc, hrepresents, by decide +kernel, by decide +kernel, by decide +kernel, hreports⟩

end Model

end Blueprint
