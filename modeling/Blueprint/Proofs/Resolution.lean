import Blueprint.Catalog.Assembly
import Blueprint.Proofs.Lineage
import Blueprint.Proofs.WellFormed

/-!
# Resolved models

The catalog of a model written down without the exits of its assembly. For a sound model assembling
gives exactly this catalog, so no exit is ever taken, and what the model declares can be read off
the catalog: its classes by their positions, the generals as positions, and the relationships with
their ends in order.
-/
namespace Blueprint

/-- The class that a property means, if it means one. -/
def Property.className (p : Property) : String := (p.type.bind (·.className?)).getD ""

lemma Property.className_eq {p : Property} {name : String} (h : p.type = some (.ofClass name)) :
    p.className = name := by
  simp [className, h, TypeRef.className?]

/-- The association has these two ends, in one order or the other. -/
def Association.Joins (a : Association) (p q : Property) : Prop :=
  a.ends = [p, q] ∨ a.ends = [q, p]

namespace Model

/-! ## The catalog without exits -/

def orderedNames (m : Model) : List String := m.orderedClasses.map (·.name)

/-- A property of a sound model has a type; the last case is of no account. -/
def resolvedType (names : List String) : Option TypeRef → AttributeType
  | some (.primitive q) => .primitive q
  | some (.ofEnumeration name) => .ofEnumeration name
  | some (.ofClass name) => .ofClass (names.idxOf name)
  | none => .primitive .any

def resolvedAttribute (names : List String) (p : Property) : Attribute :=
  ⟨p.name, resolvedType names p.type, p.effectiveMultiplicity⟩

def resolvedGeneralization (names : List String) (g : Generalization) : ClassId × ClassId :=
  (names.idxOf g.general, names.idxOf g.specific)

def resolvedEnd (names : List String) (p : Property) : RelationshipEnd :=
  ⟨p.name, names.idxOf p.className, p.effectiveMultiplicity⟩

@[simp] lemma role_resolvedEnd (names : List String) (p : Property) :
    (resolvedEnd names p).role = p.name := rfl

def relationship? (names : List String) (a : Association) : Option Relationship :=
  match a.ends with
  | [p, q] => some (relate a.name (resolvedEnd names p) (resolvedEnd names q))
  | _ => none

def orderedAssociations (m : Model) : List Association := sortedByName (·.name) m.associations

/-- The catalog that a sound model is assembled to. -/
def resolved (m : Model) : Catalog where
  name := m.name
  classes := linkClasses
    (m.orderedClasses.map fun c => (c, c.attributes.map (resolvedAttribute m.orderedNames)))
    (m.generalizations.map (resolvedGeneralization m.orderedNames))
  enumerations := sortedByName (·.name) m.enumerations
  relationships := m.orderedAssociations.filterMap (relationship? m.orderedNames)
  skipped := (m.orderedAssociations.filter fun a => !a.isBinary).map (·.name)

variable {m : Model} {names : List String}

/-! ## No exit is taken -/

lemma mapM_eq_ok {α β ε : Type} {f : α → Except ε β} {g : α → β} {xs : List α}
    (h : ∀ x ∈ xs, f x = .ok (g x)) : xs.mapM f = .ok (xs.map g) := by
  induction xs with
  | nil => rfl
  | cons x xs ih =>
    rw [List.mapM_cons, h x (.head _), ih fun y hy => h y (.tail _ hy)]
    rfl

lemma locate_eq_ok {name : String} (h : name ∈ names) (referencedBy : String) :
    locate names referencedBy name = .ok (names.idxOf name) := by
  have hfind : names.findIdx? (· == name) = some (names.idxOf name) :=
    List.findIdx?_eq_some_of_exists ⟨name, h, beq_self_eq_true name⟩
  simp [locate, hfind]

lemma orderedClasses_perm (m : Model) : m.orderedClasses.Perm m.classes := sortedByName_perm _ _

lemma orderedNames_perm (m : Model) : m.orderedNames.Perm m.classNames :=
  m.orderedClasses_perm.map _

@[simp] lemma mem_orderedNames {name : String} : name ∈ m.orderedNames ↔ name ∈ m.classNames :=
  m.orderedNames_perm.mem_iff

lemma resolveAttribute_eq_ok (owner : String) {p : Property} (h : m.SoundAttribute p) :
    resolveAttribute m.orderedNames owner p = .ok (resolvedAttribute m.orderedNames p) := by
  obtain ⟨t, ht, hd⟩ := h.typed
  cases t with
  | primitive q => simp [resolveAttribute, resolvedAttribute, resolvedType, ht]
  | ofEnumeration name => simp [resolveAttribute, resolvedAttribute, resolvedType, ht]
  | ofClass name =>
    have hl := locate_eq_ok (mem_orderedNames.2 hd) owner
    simp [resolveAttribute, resolvedAttribute, resolvedType, ht, hl, Except.map]

lemma resolveGeneralization_eq_ok {g : Generalization} (hg : g.general ∈ m.classNames)
    (hs : g.specific ∈ m.classNames) :
    resolveGeneralization m.orderedNames g = .ok (resolvedGeneralization m.orderedNames g) := by
  rw [resolveGeneralization, locate_eq_ok (mem_orderedNames.2 hg),
    locate_eq_ok (mem_orderedNames.2 hs)]
  rfl

lemma resolveEnd_eq_ok (a : Association) {p : Property} (h : m.SoundEnd p) :
    resolveEnd m.orderedNames a p = .ok (resolvedEnd m.orderedNames p) := by
  obtain ⟨name, ht, hd⟩ := h.typed
  obtain ⟨μ, hμ, -⟩ := h.valid
  have hl := locate_eq_ok (mem_orderedNames.2 hd) a.name
  simp [resolveEnd, resolvedEnd, Property.className_eq ht, TypeRef.className?, ht, hμ, hl,
    Except.map, Property.effectiveMultiplicity]

lemma resolveAssociation_eq_ok {a : Association}
    (h : a.ends.length = 2 → ∀ p ∈ a.ends, m.SoundEnd p) :
    resolveAssociation m.orderedNames a = .ok (relationship? m.orderedNames a) := by
  unfold resolveAssociation
  split
  · next p q hends =>
    have hp := h (by simp [hends]) p (by simp [hends])
    have hq := h (by simp [hends]) q (by simp [hends])
    rw [resolveEnd_eq_ok a hp, resolveEnd_eq_ok a hq, relationship?, hends]
    rfl
  · next hends =>
    rw [relationship?]
    split
    · next p q heq => exact absurd heq (hends p q)
    · rfl

lemma mapM_resolveAttributes_eq_ok (h : m.Sound) :
    (m.orderedClasses.mapM fun c => do
      return (c, ← c.attributes.mapM (resolveAttribute m.orderedNames c.name))) =
      (.ok (m.orderedClasses.map fun c =>
        (c, c.attributes.map (resolvedAttribute m.orderedNames))) : Except Defect _) := by
  refine mapM_eq_ok fun c hc => ?_
  have hsound := h.attributes c ((m.orderedClasses_perm).mem_iff.1 hc)
  rw [mapM_eq_ok fun p hp => resolveAttribute_eq_ok c.name (hsound p hp)]
  rfl

lemma mapM_resolveGeneralization_eq_ok (h : m.Sound) :
    m.generalizations.mapM (resolveGeneralization m.orderedNames) =
      .ok (m.generalizations.map (resolvedGeneralization m.orderedNames)) :=
  mapM_eq_ok fun g hg => resolveGeneralization_eq_ok (h.declared g hg).1 (h.declared g hg).2

/-- Assembling a sound model takes none of its exits. -/
theorem assemble_eq_ok (h : m.Sound) : m.assemble = .ok m.resolved := by
  have hclasses := mapM_resolveAttributes_eq_ok h
  have hgenerals := mapM_resolveGeneralization_eq_ok h
  have hassoc : m.orderedAssociations.mapM (resolveAssociation m.orderedNames) =
      .ok (m.orderedAssociations.map (relationship? m.orderedNames)) :=
    mapM_eq_ok fun a ha => resolveAssociation_eq_ok (h.ends a (mem_sortedByName.1 ha))
  have hkept : (m.orderedAssociations.map (relationship? m.orderedNames)).filterMap id =
      m.orderedAssociations.filterMap (relationship? m.orderedNames) := by
    rw [List.filterMap_map, Function.id_comp]
  rw [resolved, ← hkept]
  simp only [orderedNames, orderedAssociations] at hclasses hgenerals hassoc
  simp only [assemble, hclasses, hgenerals, hassoc]
  rfl

/-! ## Classes by position -/

/-- The entry of a class at its position. -/
def entryAt (m : Model) (id : ClassId) (d : ClassDecl) : ClassEntry :=
  let generalizations := m.generalizations.map (resolvedGeneralization m.orderedNames)
  { id
    name := d.name
    isAbstract := d.isAbstract
    attributes := d.attributes.map (resolvedAttribute m.orderedNames)
    general := (generalizations.filter fun g => g.2 == id).getLast?.map (·.1)
    specifics := (List.range m.orderedClasses.length).filter fun other =>
      generalizations.any fun g => g.1 == id && g.2 == other }

theorem classes_resolved (m : Model) :
    m.resolved.classes = m.orderedClasses.zipIdx.map fun (d, id) => m.entryAt id d := by
  simp [resolved, linkClasses, entryAt, List.zipIdx_map, Function.comp_def]

@[simp] theorem length_classes_resolved (m : Model) :
    m.resolved.classes.length = m.classes.length := by
  simp [classes_resolved, orderedClasses, sortedByName]

theorem entry?_resolved (m : Model) (id : ClassId) :
    m.resolved.entry? id = (m.orderedClasses[id]?).map (m.entryAt id) := by
  cases h : m.orderedClasses[id]? <;>
    simp [Catalog.entry?, classes_resolved, List.getElem?_zipIdx, h]

theorem names_resolved (m : Model) : m.resolved.classes.map (·.name) = m.orderedNames := by
  rw [classes_resolved, List.map_map, orderedNames, ← List.zipIdx_map_fst 0 m.orderedClasses,
    List.map_map]
  simp [entryAt, Function.comp_def]

/-- The entry at a position is that of a declared class. -/
theorem exists_decl_of_entry? {id : ClassId} {entry : ClassEntry}
    (h : m.resolved.entry? id = some entry) : ∃ d ∈ m.classes, entry = m.entryAt id d := by
  rw [entry?_resolved] at h
  obtain ⟨d, hd, rfl⟩ := Option.map_eq_some_iff.1 h
  exact ⟨d, m.orderedClasses_perm.mem_iff.1 (List.mem_of_getElem? hd), rfl⟩

/-- Positions are in the order of the names. -/
theorem orderedNames_getElem?_eq_some_iff {id : ClassId} {name : String} :
    m.orderedNames[id]? = some name ↔ ∃ entry, m.resolved.entry? id = some entry ∧
      entry.name = name := by
  rw [← names_resolved, List.getElem?_map, Option.map_eq_some_iff]
  rfl

theorem className_resolved {id : ClassId} {name : String} (h : m.orderedNames[id]? = some name) :
    m.resolved.className id = name := by
  obtain ⟨entry, hentry, rfl⟩ := orderedNames_getElem?_eq_some_iff.1 h
  exact Catalog.className_eq hentry

theorem orderedNames_getElem? {id : ClassId} (h : id < m.resolved.classes.length) :
    m.orderedNames[id]? = some (m.resolved.className id) :=
  orderedNames_getElem?_eq_some_iff.2
    ⟨_, Catalog.entry?_of_lt h, (Catalog.className_eq (Catalog.entry?_of_lt h)).symm⟩

lemma lt_of_orderedNames_getElem? {id : ClassId} {name : String}
    (h : m.orderedNames[id]? = some name) : id < m.resolved.classes.length := by
  obtain ⟨entry, hentry, -⟩ := orderedNames_getElem?_eq_some_iff.1 h
  exact (List.getElem?_eq_some_iff.1 hentry).1

lemma idxOf_lt_of_mem {name : String} (h : name ∈ m.classNames) :
    m.orderedNames.idxOf name < m.resolved.classes.length := by
  rw [← List.length_map (·.name), names_resolved]
  exact List.idxOf_lt_length_of_mem (mem_orderedNames.2 h)

/-- Every declared class has a position. -/
theorem exists_position {d : ClassDecl} (h : d ∈ m.classes) :
    ∃ id < m.resolved.classes.length, m.resolved.className id = d.name := by
  have hmem : d.name ∈ m.orderedNames := mem_orderedNames.2 (List.mem_map_of_mem h)
  obtain ⟨id, hid⟩ := List.mem_iff_getElem?.1 hmem
  exact ⟨id, lt_of_orderedNames_getElem? hid, className_resolved hid⟩

theorem exists_class_of_lt {id : ClassId} (h : id < m.resolved.classes.length) :
    ∃ d ∈ m.classes, d.name = m.resolved.className id := by
  have hmem := mem_orderedNames.1 (List.mem_of_getElem? (orderedNames_getElem? h))
  simpa [classNames] using hmem

/-- A declared name stands at exactly one position. -/
lemma idxOf_eq_iff {name : String} {id : ℕ} (hnd : names.Nodup) (h : name ∈ names) :
    names.idxOf name = id ↔ names[id]? = some name := by
  have hlt := List.idxOf_lt_length_of_mem h
  constructor
  · rintro rfl
    rw [List.getElem?_eq_getElem hlt, List.getElem_idxOf hlt]
  · intro hid
    obtain ⟨hbound, rfl⟩ := List.getElem?_eq_some_iff.1 hid
    exact hnd.idxOf_getElem id hbound

namespace Sound

variable (hm : m.Sound)
include hm

theorem orderedNames_nodup : m.orderedNames.Nodup :=
  m.orderedNames_perm.nodup_iff.2 hm.classNames_nodup

theorem orderedNames_strict : m.orderedNames.Pairwise (· < ·) :=
  sortedByName_strict hm.classNames_nodup

lemma resolvedGeneralization_eq_iff {g : Generalization} (hg : g ∈ m.generalizations)
    {general id : ClassId} :
    resolvedGeneralization m.orderedNames g = (general, id) ↔
      m.orderedNames[general]? = some g.general ∧ m.orderedNames[id]? = some g.specific := by
  obtain ⟨hgen, hspec⟩ := hm.declared g hg
  rw [resolvedGeneralization, Prod.mk.injEq, idxOf_eq_iff hm.orderedNames_nodup (by simpa),
    idxOf_eq_iff hm.orderedNames_nodup (by simpa)]

/-- The catalog's generals are those of the model. -/
theorem general?_resolved_iff {id general : ClassId} :
    m.resolved.general? id = some general ↔ ∃ s g, m.orderedNames[id]? = some s ∧
      m.orderedNames[general]? = some g ∧ m.HasGeneral s g := by
  let pairs := (m.generalizations.map (resolvedGeneralization m.orderedNames)).filter (·.2 == id)
  have hentry : m.resolved.general? id =
      m.orderedClasses[id]?.bind fun _ => pairs.getLast?.map (·.1) := by
    cases h : m.orderedClasses[id]? <;> simp [Catalog.general?, entry?_resolved, h, entryAt, pairs]
  have hpairs : ∀ other, (other, id) ∈ pairs ↔ ∃ s g, m.orderedNames[id]? = some s ∧
      m.orderedNames[other]? = some g ∧ m.HasGeneral s g := by
    intro other
    simp only [pairs, List.mem_filter, List.mem_map, beq_self_eq_true, and_true]
    constructor
    · rintro ⟨g, hg, he⟩
      obtain ⟨ho, hid⟩ := (hm.resolvedGeneralization_eq_iff hg).1 he
      exact ⟨g.specific, g.general, hid, ho, hg⟩
    · rintro ⟨s, g, hid, ho, hg⟩
      exact ⟨⟨g, s⟩, hg, (hm.resolvedGeneralization_eq_iff hg).2 ⟨ho, hid⟩⟩
  have hsnd : ∀ x ∈ pairs, x.2 = id := fun x hx => by simpa [pairs] using (List.mem_filter.1 hx).2
  constructor
  · intro h
    rw [hentry] at h
    obtain ⟨_, -, h⟩ := Option.bind_eq_some_iff.1 h
    obtain ⟨⟨other, i⟩, hlast, rfl⟩ := Option.map_eq_some_iff.1 h
    have hmem := List.mem_of_getLast? hlast
    obtain rfl : i = id := hsnd _ hmem
    exact (hpairs other).1 hmem
  · intro h
    have hmem := (hpairs general).2 h
    obtain ⟨s, g, hid, hg, hsg⟩ := h
    obtain ⟨d, hd, -⟩ : ∃ d, m.orderedClasses[id]? = some d ∧ d.name = s := by
      simpa [orderedNames] using hid
    obtain ⟨⟨other, i⟩, hlast⟩ : ∃ x, pairs.getLast? = some x :=
      ⟨_, List.getLast?_eq_some_getLast (List.ne_nil_of_mem hmem)⟩
    obtain rfl : i = id := hsnd _ (List.mem_of_getLast? hlast)
    -- the last of several generalizations has the same general, since a class has only one
    obtain ⟨s', g', hid', hg', hsg'⟩ := (hpairs other).1 (List.mem_of_getLast? hlast)
    obtain rfl : s = s' := Option.some.inj (hid.symm.trans hid')
    obtain rfl : g = g' := hm.general_unique _ _ _ hsg hsg'
    have hother : other = general := by
      have hgmem : g ∈ m.orderedNames := List.mem_of_getElem? hg
      rw [← (idxOf_eq_iff hm.orderedNames_nodup hgmem).2 hg,
        ← (idxOf_eq_iff hm.orderedNames_nodup hgmem).2 hg']
    rw [hentry, hd, hlast, hother]
    rfl

/-- The specifics of a class are those that it is the general of. -/
theorem mem_specifics_iff {id i : ClassId} {entry : ClassEntry}
    (h : m.resolved.entry? id = some entry) :
    i ∈ entry.specifics ↔ m.resolved.general? i = some id := by
  rw [entry?_resolved] at h
  obtain ⟨d, -, rfl⟩ := Option.map_eq_some_iff.1 h
  have hnames : m.orderedNames.length = m.orderedClasses.length := by simp [orderedNames]
  simp only [entryAt, List.mem_filter, List.mem_range, List.any_eq_true, List.mem_map,
    exists_exists_and_eq_and, Bool.and_eq_true, beq_iff_eq, hm.general?_resolved_iff]
  constructor
  · rintro ⟨-, g, hg, hid, hi⟩
    obtain ⟨hgeneral, hspecific⟩ := (hm.resolvedGeneralization_eq_iff hg).1 (Prod.ext hid hi)
    exact ⟨_, _, hspecific, hgeneral, hg⟩
  · rintro ⟨s, g, hs, hg, hsg⟩
    have heq := (hm.resolvedGeneralization_eq_iff hsg).2 ⟨hg, hs⟩
    refine ⟨?_, ⟨g, s⟩, hsg, congrArg Prod.fst heq, congrArg Prod.snd heq⟩
    rw [← hnames]
    exact (List.getElem?_eq_some_iff.1 hs).1

end Sound

/-! ## Relationships -/

lemma endAt_relate (name : String) (x y : RelationshipEnd) (side : Side) :
    ((relate name x y).endAt side = x ∧ (relate name x y).endAt side.opposite = y) ∨
      ((relate name x y).endAt side = y ∧ (relate name x y).endAt side.opposite = x) := by
  unfold relate
  split_ifs <;> cases side <;> simp [Relationship.endAt, Side.opposite]

@[simp] lemma name_relate (name : String) (x y : RelationshipEnd) :
    (relate name x y).name = name := by
  unfold relate
  split_ifs <;> rfl

lemma relationship?_eq_some_iff {a : Association} {r : Relationship} :
    relationship? names a = some r ↔
      ∃ p q, a.ends = [p, q] ∧ relate a.name (resolvedEnd names p) (resolvedEnd names q) = r := by
  unfold relationship?
  split
  · next p q h => simp [h]
  · next h => simpa using fun p q hends => absurd hends (h p q)

lemma relationship?_of_not_isBinary {a : Association}
    (h : a.isBinary = false) : relationship? names a = none := by
  refine Option.eq_none_iff_forall_ne_some.2 fun r hr => ?_
  obtain ⟨p, q, hends, -⟩ := relationship?_eq_some_iff.1 hr
  simp [Association.isBinary, hends] at h

theorem mem_relationships_resolved {r : Relationship} :
    r ∈ m.resolved.relationships ↔
      ∃ a ∈ m.associations, relationship? m.orderedNames a = some r := by
  simp [resolved, orderedAssociations]

/-- The ends at a class, association by association. -/
lemma map_endsOf_resolved {β : Type} (g : Relationship × Side → β) (id : ClassId) :
    (m.resolved.endsOf id).map g = m.orderedAssociations.flatMap fun a =>
      (relationship? m.orderedNames a).toList.flatMap fun r =>
        (r.sidesOf id).map fun side => g (r, side) := by
  simp only [Catalog.endsOf, resolved, List.map_flatMap, List.map_map, Function.comp_def,
    List.filterMap_eq_flatMap_toList, List.flatMap_assoc]

/-- From either side a relationship shows the two ends of its association. -/
theorem exists_joins_of_mem {r : Relationship} (h : r ∈ m.resolved.relationships) (side : Side) :
    ∃ a ∈ m.associations, ∃ p q, a.name = r.name ∧ a.Joins p q ∧
      r.endAt side = resolvedEnd m.orderedNames p ∧
      r.endAt side.opposite = resolvedEnd m.orderedNames q := by
  obtain ⟨a, ha, hr⟩ := mem_relationships_resolved.1 h
  obtain ⟨p, q, hends, rfl⟩ := relationship?_eq_some_iff.1 hr
  rcases endAt_relate a.name (resolvedEnd m.orderedNames p) (resolvedEnd m.orderedNames q) side with
    ⟨hown, hopp⟩ | ⟨hown, hopp⟩
  · exact ⟨a, ha, p, q, (name_relate _ _ _).symm, .inl hends, hown, hopp⟩
  · exact ⟨a, ha, q, p, (name_relate _ _ _).symm, .inr hends, hown, hopp⟩

namespace Sound

variable (hm : m.Sound)
include hm

lemma soundEnd_of_joins {a : Association} {p q : Property} (ha : a ∈ m.associations)
    (h : a.Joins p q) : m.SoundEnd p ∧ m.SoundEnd q := by
  rcases h with h | h <;>
    exact ⟨hm.ends a ha (by simp [h]) p (by simp [h]), hm.ends a ha (by simp [h]) q (by simp [h])⟩

/-- An end stands at the class that its property means. -/
theorem classId_resolvedEnd_eq_iff {p : Property} (h : m.SoundEnd p) {id : ClassId} {name : String}
    (hid : m.orderedNames[id]? = some name) :
    (resolvedEnd m.orderedNames p).classId = id ↔ p.type = some (.ofClass name) := by
  obtain ⟨other, ht, hd⟩ := h.typed
  have hmem : other ∈ m.orderedNames := mem_orderedNames.2 hd
  rw [resolvedEnd, Property.className_eq ht, idxOf_eq_iff hm.orderedNames_nodup hmem, hid, ht]
  simp [eq_comm]

theorem coherent_resolved : m.resolved.Coherent where
  ids id entry h := by
    obtain ⟨d, -, rfl⟩ := exists_decl_of_entry? h
    rfl
  classNames := by
    rw [names_resolved]
    exact hm.orderedNames_strict
  generals id general h := by
    obtain ⟨_, _, -, hg, -⟩ := hm.general?_resolved_iff.1 h
    exact lt_of_orderedNames_getElem? hg
  grounded := by
    refine Subrelation.wf (r := InvImage (fun g s => m.HasGeneral s g) m.resolved.className) ?_
      (InvImage.wf _ hm.wellFounded)
    intro general id h
    obtain ⟨s, g, hs, hg, hsg⟩ := hm.general?_resolved_iff.1 h
    simpa only [InvImage, className_resolved hs, className_resolved hg] using hsg
  relationshipNames := by
    refine List.pairwise_map.2 (List.Pairwise.filterMap _ (R := fun a b => a.name < b.name) ?_
      (List.pairwise_map.1 (sortedByName_strict hm.associationNames)))
    intro a b hab r hr r' hr'
    obtain ⟨_, _, -, rfl⟩ := relationship?_eq_some_iff.1 hr
    obtain ⟨_, _, -, rfl⟩ := relationship?_eq_some_iff.1 hr'
    simpa using hab
  ends r hr side := by
    obtain ⟨a, ha, p, q, -, hjoins, hp, -⟩ := exists_joins_of_mem hr side
    obtain ⟨name, ht, hd⟩ := (hm.soundEnd_of_joins ha hjoins).1.typed
    rw [hp]
    simpa only [resolvedEnd, Property.className_eq ht] using idxOf_lt_of_mem hd

/-- The tables of different classes have different names. -/
theorem tableName_className_inj {i j : ClassId} (hi : i < m.resolved.classes.length)
    (hj : j < m.resolved.classes.length)
    (h : tableName (m.resolved.className i) = tableName (m.resolved.className j)) : i = j := by
  obtain ⟨d, hd, hdi⟩ := exists_class_of_lt hi
  obtain ⟨e, he, hej⟩ := exists_class_of_lt hj
  refine hm.coherent_resolved.className_inj hi hj ?_
  rw [← hdi, ← hej] at h ⊢
  exact hm.tableNames d hd e he h

end Sound

end Model

end Blueprint
