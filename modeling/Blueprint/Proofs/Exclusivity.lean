import Blueprint.Proofs.Ends
import Blueprint.Proofs.Lookups

/-!
# One placement per association

The placements, the references of the class tables and the join tables are lists that are derived
one from the other through names. Since the names are distinct nothing is lost on the way, and
nothing comes twice: each association with two ends has one placement, each reference is held by one
class, and each association that needs a join table has one.
-/
namespace Blueprint

/-! ## The owning side -/

namespace Relationship

variable {r : Relationship} {side : Side}

lemma ownerSide?_eq_none_iff (side : Side) : r.ownerSide? = none ↔
    (r.endAt side).multiplicity.isMany = true ∧
      (r.endAt side.opposite).multiplicity.isMany = true := by
  unfold ownerSide?
  cases side <;> cases hfirst : r.first.multiplicity.isMany <;>
    cases hsecond : r.second.multiplicity.isMany <;>
    simp [endAt, Side.opposite, hfirst, hsecond] <;> split <;> simp

/-- What is referred to is a single instance. -/
lemma isMany_opposite_of_owner (h : r.ownerSide? = some side) :
    (r.endAt side.opposite).multiplicity.isMany = false := by
  unfold ownerSide? at h
  cases hfirst : r.first.multiplicity.isMany <;> cases hsecond : r.second.multiplicity.isMany <;>
    cases side <;> simp_all [endAt, Side.opposite]

end Relationship

/-! ## Placements and join tables of a catalog -/

namespace Catalog

variable {c : Catalog} {id : ClassId} {r : Relationship} {side : Side} {key : ForeignKey}
  {name : String} {placement : Placement} {t : JoinTable}

lemma owner_of_place_eq (h : c.place r = .reference key) :
    ∃ side, r.ownerSide? = some side ∧ c.foreignKey r side = key := by
  cases howner : r.ownerSide? with
  | none => simp [place_of_no_owner howner] at h
  | some side => exact ⟨side, rfl, by simpa [place_of_owner howner] using h⟩

lemma map_association_joinTablesFrom (used : List String) (rs : List Relationship) :
    (c.joinTablesFrom used rs).map (·.association) = rs.map (·.name) := by
  induction rs generalizing used with
  | nil => rfl
  | cons r rs ih => simp [joinTablesFrom, joinTable, ih]

lemma exists_of_mem_joinTablesFrom {used : List String} {rs : List Relationship}
    (h : t ∈ c.joinTablesFrom used rs) :
    ∃ r ∈ rs, t.association = r.name ∧ t.first = c.joinColumn r .first ∧
      t.second = c.joinColumn r .second := by
  induction rs generalizing used with
  | nil => simp [joinTablesFrom] at h
  | cons r rs ih =>
    rcases List.mem_cons.1 h with rfl | h
    · exact ⟨r, .head _, rfl, rfl, rfl⟩
    · obtain ⟨r', hr', ht⟩ := ih h
      exact ⟨r', .tail _ hr', ht⟩

namespace Coherent

variable (hc : c.Coherent)
include hc

lemma classId?_className (hid : id < c.classes.length) : c.classId? (c.className id) = some id := by
  have hname : c.className id = c.classes[id].name := className_eq (entry?_of_lt hid)
  rw [classId?, List.findIdx?_eq_some_iff_getElem]
  refine ⟨hid, by simp [hname], fun j hj => ?_⟩
  have hjlt : j < c.classes.length := Nat.lt_trans hj hid
  have hlt := List.pairwise_iff_getElem.1 hc.classNames j id (by simpa) (by simpa) hj
  have hne : c.classes[j].name ≠ c.classes[id].name := Std.ne_of_lt (by simpa using hlt)
  simpa [hname] using hne

theorem names_placements : c.placements.names = c.relationships.map (·.name) := by
  rw [NameTable.names, hc.entries_placements, List.map_map]
  rfl

theorem values_placements : c.placements.values = c.relationships.map c.place := by
  rw [NameTable.values, hc.entries_placements, List.map_map]
  rfl

/-- A placement is that of the relationship that has its name. -/
theorem get?_placements_eq_some_iff :
    c.placements.get? name = some placement ↔
      ∃ r ∈ c.relationships, r.name = name ∧ c.place r = placement := by
  rw [NameTable.get?_eq_some_iff, hc.entries_placements]
  simp

/-! ## References -/

/-- A class holds its references in the order of the associations. -/
theorem associations_ownedBy_strict (id : ClassId) :
    ((c.placements.ownedBy id).map (·.association)).Pairwise (· < ·) := by
  rw [Placements.ownedBy, hc.values_placements, List.filterMap_map, List.pairwise_map]
  refine List.Pairwise.filter _ (List.Pairwise.filterMap _ (R := fun r r' => r.name < r'.name) ?_
    (List.pairwise_map.1 hc.relationshipNames))
  intro r r' hlt key hkey key' hkey'
  simp only [Function.comp_apply, key?_place, Option.map_eq_some_iff] at hkey hkey'
  obtain ⟨_, -, rfl⟩ := hkey
  obtain ⟨_, -, rfl⟩ := hkey'
  exact hlt

/-- A class holds exactly the references that are placed at it. -/
theorem mem_ownedBy_iff : key ∈ c.placements.ownedBy id ↔
    key.owner = id ∧ c.placements.get? key.association = some (.reference key) := by
  have hkey : ∀ r, (c.place r).key? = some key ↔ r.name = key.association ∧
      c.place r = .reference key := by
    intro r
    have hname := association_place (c := c) r
    cases hplace : c.place r with
    | reference key' =>
      simp only [hplace, Placement.association] at hname
      simp only [Placement.key?, Option.some.injEq, Placement.reference.injEq, iff_and_self]
      rintro rfl
      exact hname.symm
    | joinTable association => simp [Placement.key?]
  rw [Placements.ownedBy, hc.values_placements, hc.get?_placements_eq_some_iff]
  simp only [List.mem_filter, List.mem_filterMap, List.mem_map, exists_exists_and_eq_and, hkey,
    beq_iff_eq]
  exact and_comm

/-- A reference is held once, by its owner. -/
theorem count_ownedBy (h : c.placements.get? name = some (.reference key)) (id : ClassId) :
    (c.placements.ownedBy id).count key = if key.owner = id then 1 else 0 := by
  have hnd : (c.placements.ownedBy id).Nodup := by
    refine List.Nodup.of_map (·.association) ?_
    exact (hc.associations_ownedBy_strict id).imp fun h => Std.ne_of_lt h
  have hname : key.association = name := by
    obtain ⟨r, -, rfl, hplace⟩ := hc.get?_placements_eq_some_iff.1 h
    rw [← association_place (c := c) r, hplace, Placement.association]
  have hmem : key ∈ c.placements.ownedBy id ↔ key.owner = id := by
    rw [hc.mem_ownedBy_iff, hname]
    exact and_iff_left h
  rw [hnd.count]
  exact if_congr hmem rfl rfl

/-! ## Join tables -/

lemma joinTables_eq_map_filter : c.placements.joinTables =
    (c.relationships.filter fun r => (c.place r).isJoinTable).map (·.name) := by
  rw [Placements.joinTables, hc.values_placements, List.filter_map, List.map_map]
  simp [Function.comp_def]

theorem associations_joinTables :
    (c.joinTables c.placements).map (·.association) = c.placements.joinTables := by
  have hplaced : ∀ r ∈ c.relationships,
      ((c.placements.get? r.name).any Placement.isJoinTable) = (c.place r).isJoinTable := by
    intro r hr
    rw [hc.get?_placements hr, Option.any_some]
  rw [joinTables, map_association_joinTablesFrom, List.filter_congr hplaced,
    hc.joinTables_eq_map_filter]

theorem joinTables_strict : c.placements.joinTables.Pairwise (· < ·) := by
  rw [hc.joinTables_eq_map_filter]
  exact hc.relationshipNames.sublist (List.filter_sublist.map _)

theorem mem_joinTables_iff :
    name ∈ c.placements.joinTables ↔ c.placements.get? name = some (.joinTable name) := by
  have hplace : ∀ r, r.name = name → ((c.place r).isJoinTable = true ↔
      c.place r = .joinTable name) := by
    rintro r rfl
    cases h : r.ownerSide? with
    | none => simp [place_of_no_owner h, Placement.isJoinTable]
    | some side => simp [place_of_owner h, Placement.isJoinTable]
  rw [hc.joinTables_eq_map_filter, hc.get?_placements_eq_some_iff]
  simp only [List.mem_map, List.mem_filter]
  constructor
  · rintro ⟨r, ⟨hr, hjoin⟩, hname⟩
    exact ⟨r, hr, hname, (hplace r hname).1 hjoin⟩
  · rintro ⟨r, hr, hname, hjoin⟩
    exact ⟨r, ⟨hr, (hplace r hname).2 hjoin⟩, hname⟩

end Coherent

end Catalog

/-! ## Placements of a model -/

lemma identityOf_eq (table : String) : identityOf table = table ++ ".id" := String.append_assoc

/-- The reference that an attribute of a class asks for, if its type is a class. -/
def Property.reference? (owner : String) (p : Property) : Option Reference :=
  match p.type with
  | some (.ofClass target) => some {
      name := p.name ++ "_id"
      source := owner ++ "." ++ p.name
      targetClass := target
      references := tableName target ++ ".id"
      nullable := p.effectiveMultiplicity.isOptional
      unique := false }
  | _ => none

/-- What is decided about an association: a join table if both ends admit many, and otherwise a
reference to an end that admits one only. The class at the other end holds it once, and no other
class does. -/
structure Association.PlacedBy (a : Association) (c : Catalog) (ps : Placements)
    (placement : Placement) : Prop where
  association : placement.association = a.name
  joinTable : ∀ p q, a.Joins p q →
    (placement.isJoinTable = true ↔ p.AdmitsMany ∧ q.AdmitsMany)
  reference : ∀ key, placement = .reference key → ∃ own opposite className,
    a.Faces key.ownerSide own opposite ∧ opposite.AdmitsOne ∧
    (key.cardinality = .oneToOne ∨ key.cardinality = .manyToOne) ∧
    own.type = some (.ofClass className) ∧
    ∀ id, (ps.ownedBy id).count key = if c.classId? className = some id then 1 else 0

/-- The references of a table: those of the attributes in the order of their declaration, and then
those that the class holds in the order of the associations. -/
def Table.RefersFor (t : Table) (d : ClassDecl) (ps : Placements) : Prop :=
  ∃ keys : List ForeignKey,
    t.references = d.attributes.filterMap (·.reference? d.name) ++
      keys.map Catalog.keyReference ∧
    (keys.map (·.association)).Pairwise (· < ·) ∧
    ∀ key, key ∈ keys ↔
      key.ownerClass = d.name ∧ ps.get? key.association = some (.reference key)

/-- The columns of a join table refer to the classes of the ends in order. -/
def JoinTable.Connects (t : JoinTable) (a : Association) : Prop :=
  t.association = a.name ∧ ∃ p q, a.Faces .first p q ∧
    p.type = some (.ofClass t.first.ofClass) ∧
    t.first.references = tableName t.first.ofClass ++ ".id" ∧
    q.type = some (.ofClass t.second.ofClass) ∧
    t.second.references = tableName t.second.ofClass ++ ".id"

namespace Model

variable {m : Model} {a : Association} {d : ClassDecl} {c : Catalog} {o : Options} {k : Compiled}
  {order order' : StartOrder}

lemma names_relationships_resolved (m : Model) :
    m.resolved.relationships.map (·.name) =
      (m.orderedAssociations.filter (·.isBinary)).map (·.name) := by
  have hnames : ∀ as : List Association,
      (as.filterMap (relationship? m.orderedNames)).map (·.name) =
        (as.filter (·.isBinary)).map (·.name) := by
    intro as
    induction as with
    | nil => rfl
    | cons a as ih =>
      cases hbinary : a.isBinary with
      | false => simp [relationship?_of_not_isBinary hbinary, hbinary, ih]
      | true =>
        obtain ⟨p, q, hends⟩ := List.length_eq_two.1 (beq_iff_eq.1 hbinary)
        simp [relationship?, hends, hbinary, ih]
  exact hnames _

lemma exists_entry (hd : d ∈ m.classes) : ∃ id, m.resolved.entry? id = some (m.entryAt id d) := by
  obtain ⟨id, hid⟩ := List.mem_iff_getElem?.1 (m.orderedClasses_perm.mem_iff.2 hd)
  exact ⟨id, by rw [entry?_resolved, hid, Option.map_some]⟩

namespace Sound

variable (hm : m.Sound)
include hm

lemma className_idxOf {name : String} (h : name ∈ m.classNames) :
    m.resolved.className (m.orderedNames.idxOf name) = name := by
  refine className_resolved ?_
  exact (idxOf_eq_iff hm.orderedNames_nodup (mem_orderedNames.2 h)).1 rfl

lemma attributeReference?_resolvedAttribute (owner : String) {p : Property}
    (h : m.SoundAttribute p) :
    m.resolved.attributeReference? owner (resolvedAttribute m.orderedNames p) =
      p.reference? owner := by
  obtain ⟨t, htype, hdeclared⟩ := h.typed
  cases t with
  | primitive p => simp [Catalog.attributeReference?, resolvedAttribute, resolvedType,
      Property.reference?, htype]
  | ofEnumeration name => simp [Catalog.attributeReference?, resolvedAttribute, resolvedType,
      Property.reference?, htype]
  | ofClass name =>
    have hname := hm.className_idxOf hdeclared
    simp [Catalog.attributeReference?, resolvedAttribute, resolvedType, Property.reference?,
      htype, hname, Attribute.isRequired, Multiplicity.isOptional_eq, referenceColumn,
      identityOf_eq]

/-- The placement of an association is told by the ends that its relationship shows. -/
lemma placedBy_of_mem (hfields : m.resolved.fieldDefect? = none) (ha : a ∈ m.associations)
    (hbinary : a.isBinary = true) :
    ∃ placement, m.resolved.placements.get? a.name = some placement ∧
      a.PlacedBy m.resolved m.resolved.placements placement := by
  have hc := hm.coherent_resolved
  obtain ⟨p, q, hfaces⟩ := hm.exists_faces hfields ha hbinary .first
  obtain ⟨r, hr, hname, hp, hq⟩ := hm.exists_relationship_of_faces ha hfaces
  have hget := hc.get?_placements hr
  rw [hname] at hget
  refine ⟨_, hget, by rw [Catalog.association_place, hname], ?_, ?_⟩
  · intro x y hjoins
    obtain ⟨side, hside⟩ := hm.exists_side hfields ha hjoins
    obtain ⟨r', hr', hname', hx, hy⟩ := hm.exists_relationship_of_faces ha hside
    obtain rfl : r = r' := hc.relationship_inj hr hr' (hname.trans hname'.symm)
    rw [Property.admitsMany_iff hx.multiplicity, Property.admitsMany_iff hy.multiplicity,
      ← Relationship.ownerSide?_eq_none_iff]
    cases howner : r.ownerSide? with
    | none => simp [Catalog.place_of_no_owner howner, Placement.isJoinTable]
    | some side => simp [Catalog.place_of_owner howner, Placement.isJoinTable]
  · intro key hkey
    obtain ⟨side, howner, rfl⟩ := Catalog.owner_of_place_eq hkey
    obtain ⟨own, opposite, hside⟩ := hm.exists_faces hfields ha hbinary side
    obtain ⟨r', hr', hname', hown, hopposite⟩ := hm.exists_relationship_of_faces ha hside
    obtain rfl : r = r' := hc.relationship_inj hr hr' (hname.trans hname'.symm)
    have hsingle := Relationship.isMany_opposite_of_owner howner
    refine ⟨own, opposite, _, hside, (Property.admitsOne_iff hopposite.multiplicity).2 hsingle, ?_,
      hown.type, fun id => ?_⟩
    · cases h : (r.endAt side).multiplicity.isMany <;>
        simp [Catalog.foreignKey, Cardinality.between, h, hsingle]
    · rw [hc.count_ownedBy (hkey ▸ hget), hc.classId?_className (hc.ends r hr side)]
      exact if_congr (by simp [Catalog.foreignKey]) rfl rfl

lemma exists_table_refersFor (hd : d ∈ m.classes) :
    ∃ t, (m.resolved.layout m.resolved.placements).table? d.name = some t ∧
      t.RefersFor d m.resolved.placements := by
  have hc := hm.coherent_resolved
  obtain ⟨id, hentry⟩ := exists_entry hd
  have hid : id < m.resolved.classes.length := (List.getElem?_eq_some_iff.1 hentry).1
  have hname : m.resolved.className id = d.name := Catalog.className_eq hentry
  refine ⟨_, hc.table?_layout hentry, m.resolved.placements.ownedBy id, ?_,
    hc.associations_ownedBy_strict id, fun key => ?_⟩
  · have hattributes : (d.attributes.map (resolvedAttribute m.orderedNames)).filterMap
        (m.resolved.attributeReference? d.name) = d.attributes.filterMap (·.reference? d.name) := by
      rw [List.filterMap_map]
      refine List.filterMap_congr fun p hp => ?_
      exact hm.attributeReference?_resolvedAttribute d.name (hm.attributes d hd p hp)
    rw [← hattributes]
    rfl
  · rw [hc.mem_ownedBy_iff]
    refine and_congr_left fun hget => ?_
    obtain ⟨r, hr, -, hplace⟩ := hc.get?_placements_eq_some_iff.1 hget
    obtain ⟨side, -, rfl⟩ := Catalog.owner_of_place_eq hplace
    have hlt := hc.ends r hr side
    constructor
    · rintro rfl
      exact hname
    · exact fun howner => hc.className_inj hlt hid (howner.trans hname.symm)

lemma exists_connects_of_mem (hfields : m.resolved.fieldDefect? = none) {t : JoinTable}
    (ht : t ∈ m.resolved.joinTables m.resolved.placements) :
    ∃ a ∈ m.associations, t.Connects a := by
  obtain ⟨r, hr, hname, hfirst, hsecond⟩ := Catalog.exists_of_mem_joinTablesFrom ht
  have hmem := (List.mem_filter.1 hr).1
  obtain ⟨a, ha, hassociation, p, q, hfaces, hp, hq⟩ := hm.exists_faces_of_mem hfields hmem .first
  refine ⟨a, ha, hname.trans hassociation, p, q, hfaces, ?_⟩
  rw [hfirst, hsecond]
  exact ⟨hp.type, identityOf_eq _, hq.type, identityOf_eq _⟩

end Sound

/-- What is compiled from a model has exactly one placement for each association with two ends, by a
join table or by a reference that one class holds. The references of each class's table are those of
its attributes and then those that it holds, and there is a join table for each association that
is placed by one, and for no other. -/
theorem compiled_places_each_association_once (hc : Catalog.ofModel m order = .ok c)
    (hk : m.compile o order' = .ok k) :
    k.placements.names = (m.orderedAssociations.filter (·.isBinary)).map (·.name) ∧
    (∀ a ∈ m.associations, a.isBinary = true →
      ∃ placement, k.placements.get? a.name = some placement ∧
        a.PlacedBy c k.placements placement) ∧
    (∀ d ∈ m.classes, ∃ t, k.storage.table? d.name = some t ∧ t.RefersFor d k.placements) ∧
    k.storage.joinTables.map (·.association) = k.placements.joinTables ∧
    k.placements.joinTables.Pairwise (· < ·) ∧
    (∀ name, name ∈ k.placements.joinTables ↔
      k.placements.get? name = some (.joinTable name)) ∧
    ∀ t ∈ k.storage.joinTables, ∃ a ∈ m.associations, t.Connects a := by
  obtain ⟨hm, hfields, -, rfl⟩ := compile_eq_ok_iff.1 hk
  obtain ⟨-, -, rfl⟩ := Catalog.ofModel_eq_ok_iff.1 hc
  have hcoh := hm.coherent_resolved
  refine ⟨?_, ?_, ?_, hcoh.associations_joinTables, hcoh.joinTables_strict, ?_, ?_⟩
  · exact hcoh.names_placements.trans (names_relationships_resolved m)
  · exact fun a ha hbinary => hm.placedBy_of_mem hfields ha hbinary
  · exact fun d hd => hm.exists_table_refersFor hd
  · exact fun name => hcoh.mem_joinTables_iff
  · exact fun t ht => hm.exists_connects_of_mem hfields ht

/-- A firm in which employees work in departments, of which they may be the heads, and on projects,
and in which they may report to each other. -/
def firm : Model where
  name := "Firm"
  classes := [
    ⟨"Person", [⟨"name", some (.primitive .string), none⟩], true⟩,
    ⟨"Employee", [⟨"salary", some (.primitive .float), some .optional⟩,
      ⟨"mentor", some (.ofClass "Employee"), some .optional⟩], false⟩,
    ⟨"Department", [⟨"title", some (.primitive .string), none⟩], false⟩,
    ⟨"Project", [], false⟩]
  enumerations := []
  associations := [
    ⟨"works", [⟨"department", some (.ofClass "Department"), some .one⟩,
      ⟨"staff", some (.ofClass "Employee"), some .many⟩]⟩,
    ⟨"heads", [⟨"head", some (.ofClass "Employee"), some .one⟩,
      ⟨"headed", some (.ofClass "Department"), some .optional⟩]⟩,
    ⟨"assigned", [⟨"projects", some (.ofClass "Project"), some .many⟩,
      ⟨"team", some (.ofClass "Employee"), some ⟨1, .unbounded⟩⟩]⟩,
    ⟨"reports", [⟨"manager", some (.ofClass "Employee"), some .optional⟩,
      ⟨"reporters", some (.ofClass "Employee"), some ⟨0, .bounded 7⟩⟩]⟩,
    ⟨"review", [⟨"reviewer", none, none⟩, ⟨"reviewed", none, none⟩, ⟨"year", none, none⟩]⟩]
  generalizations := [⟨"Person", "Employee"⟩]

theorem firm_places_each_association_once : ∃ c k, Catalog.ofModel firm = .ok c ∧
    firm.compile {} = .ok k ∧ k.placements.names = ["assigned", "heads", "reports", "works"] ∧
    k.storage.joinTables.map (·.association) = ["assigned"] ∧
    ∃ placement, k.placements.get? "reports" = some placement ∧
      firm.associations[3].PlacedBy c k.placements placement := by
  obtain ⟨k, hk⟩ := exists_compiled_of_isOk (m := firm) (o := {}) (by decide +kernel)
  have hc : Catalog.ofModel firm = .ok firm.resolved := ofModel_of_compile hk
  obtain ⟨-, -, -, rfl⟩ := compile_eq_ok_iff.1 hk
  obtain ⟨hnames, hplaced, -, hjoins, -⟩ := compiled_places_each_association_once hc hk
  refine ⟨_, _, hc, hk, ?_, ?_, hplaced firm.associations[3] (List.getElem_mem _) (by decide)⟩
  · rw [hnames]
    decide +kernel
  · rw [hjoins]
    decide +kernel

end Model

end Blueprint
