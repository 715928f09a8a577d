import Blueprint.Proofs.Columns
import Blueprint.Proofs.Correspondence
import Blueprint.Proofs.Ends
import Mathlib.Order.Monotone.Basic

/-!
# Models alike but for their multiplicities

Models are alike if they differ in multiplicities only, and not in what a multiplicity is asked for:
at an end of a two-ended association, whether an instance is mandatory and whether there may be
many, and at an attribute, whether a value is mandatory. The ends of other associations are never
looked at. Alike models are compiled to the same.

The catalogs of alike models correspond, and they do so as well if there are further classes in one
of the models, as long as the classes of the other keep their order.
-/
namespace Blueprint

/-! ## What is alike -/

/-- The properties differ in their multiplicities at most. -/
structure Property.SameKind (p q : Property) : Prop where
  name : p.name = q.name
  type : p.type = q.type

/-- Both multiplicities can be met, and both of them demand a value or neither does. An attribute
that declares no multiplicity has exactly one value. -/
structure Property.AlikeAsAttribute (p q : Property) : Prop extends p.SameKind q where
  valid : p.effectiveMultiplicity.Valid ∧ q.effectiveMultiplicity.Valid
  demands : 0 < p.effectiveMultiplicity.min ↔ 0 < q.effectiveMultiplicity.min

/-- Both multiplicities are declared and can be met, and they agree on whether they demand an
instance and on whether they admit many. -/
structure Property.AlikeAsEnd (p q : Property) : Prop extends p.SameKind q where
  valid : (∃ μ, p.multiplicity = some μ ∧ μ.Valid) ∧ ∃ ν, q.multiplicity = some ν ∧ ν.Valid
  demands : p.Demands ↔ q.Demands
  admitsMany : p.AdmitsMany ↔ q.AdmitsMany

structure ClassDecl.Alike (d e : ClassDecl) : Prop where
  name : d.name = e.name
  isAbstract : d.isAbstract = e.isAbstract
  attributes : List.Forall₂ Property.AlikeAsAttribute d.attributes e.attributes

structure Association.Alike (a b : Association) : Prop where
  name : a.name = b.name
  sameEnds : List.Forall₂ Property.SameKind a.ends b.ends
  ends : a.ends.length = 2 → List.Forall₂ Property.AlikeAsEnd a.ends b.ends

structure Model.Alike (m m' : Model) : Prop where
  name : m.name = m'.name
  classes : List.Forall₂ ClassDecl.Alike m.classes m'.classes
  enumerations : m.enumerations = m'.enumerations
  associations : List.Forall₂ Association.Alike m.associations m'.associations
  generalizations : m.generalizations = m'.generalizations

namespace Property

variable {p q : Property}

theorem SameKind.symm (h : p.SameKind q) : q.SameKind p := ⟨h.name.symm, h.type.symm⟩

theorem AlikeAsAttribute.symm (h : p.AlikeAsAttribute q) : q.AlikeAsAttribute p :=
  ⟨h.toSameKind.symm, h.valid.symm, h.demands.symm⟩

/-- Whether attributes are alike can be computed from their effective multiplicities. -/
lemma alikeAsAttribute_of (h : p.SameKind q) (hp : p.effectiveMultiplicity.isValid = true)
    (hq : q.effectiveMultiplicity.isValid = true)
    (hmandatory : p.effectiveMultiplicity.isMandatory = q.effectiveMultiplicity.isMandatory) :
    p.AlikeAsAttribute q :=
  ⟨h, ⟨(Multiplicity.isValid_iff _).1 hp, (Multiplicity.isValid_iff _).1 hq⟩,
    decide_eq_decide.1 hmandatory⟩

/-- So it can for ends, from their declared multiplicities. -/
lemma alikeAsEnd_of {μ ν : Multiplicity} (h : p.SameKind q) (hμ : p.multiplicity = some μ)
    (hν : q.multiplicity = some ν) (hvalid : μ.isValid = true) (hvalid' : ν.isValid = true)
    (hmandatory : μ.isMandatory = ν.isMandatory) (hmany : μ.isMany = ν.isMany) :
    p.AlikeAsEnd q where
  toSameKind := h
  valid := ⟨⟨μ, hμ, μ.isValid_iff.1 hvalid⟩, ν, hν, ν.isValid_iff.1 hvalid'⟩
  demands := by rw [demands_iff hμ, demands_iff hν, hmandatory]
  admitsMany := by rw [admitsMany_iff hμ, admitsMany_iff hν, hmany]

theorem AlikeAsEnd.symm (h : p.AlikeAsEnd q) : q.AlikeAsEnd p :=
  ⟨h.toSameKind.symm, h.valid.symm, h.demands.symm, h.admitsMany.symm⟩

end Property

theorem ClassDecl.Alike.symm {d e : ClassDecl} (h : d.Alike e) : e.Alike d where
  name := h.name.symm
  isAbstract := h.isAbstract.symm
  attributes := h.attributes.flip.imp fun _ _ hpq => hpq.symm

lemma Association.alike_of_ends {a b : Association} (hname : a.name = b.name)
    (hends : List.Forall₂ Property.AlikeAsEnd a.ends b.ends) : a.Alike b :=
  ⟨hname, hends.imp fun _ _ hpq => hpq.toSameKind, fun _ => hends⟩

theorem Association.Alike.symm {a b : Association} (h : a.Alike b) : b.Alike a where
  name := h.name.symm
  sameEnds := h.sameEnds.flip.imp fun _ _ hpq => hpq.symm
  ends hlen := (h.ends (h.sameEnds.length_eq.trans hlen)).flip.imp fun _ _ hpq => hpq.symm

lemma Association.Alike.isBinary_eq {a b : Association} (h : a.Alike b) :
    a.isBinary = b.isBinary := by
  simp [isBinary, h.sameEnds.length_eq]

theorem Model.Alike.symm {m m' : Model} (h : m.Alike m') : m'.Alike m where
  name := h.name.symm
  classes := h.classes.flip.imp fun _ _ hde => hde.symm
  enumerations := h.enumerations.symm
  associations := h.associations.flip.imp fun _ _ hab => hab.symm
  generalizations := h.generalizations.symm

namespace Model

variable {m m' : Model} {f : ClassId → ClassId} {order order' : StartOrder}

/-- A class has a specific if it is the general in a generalization. -/
lemma isEmpty_specifics (hm : m.Sound) (id : ClassId) (d : ClassDecl) :
    (m.entryAt id d).specifics.isEmpty =
      !(m.generalizations.map (resolvedGeneralization m.orderedNames)).any (·.1 == id) := by
  have hlt : ∀ g ∈ m.generalizations,
      m.orderedNames.idxOf g.specific < m.orderedClasses.length := fun g hg => by
    simpa [orderedNames] using
      List.idxOf_lt_length_of_mem (mem_orderedNames.2 (hm.declared g hg).2)
  rw [Bool.eq_iff_iff, Bool.not_eq_true', List.isEmpty_iff, entryAt, List.filter_eq_nil_iff,
    List.any_eq_false]
  simp only [List.mem_range, List.any_eq_true, List.mem_map, exists_exists_and_eq_and,
    forall_exists_index, and_imp, forall_apply_eq_imp_iff₂, resolvedGeneralization]
  constructor
  · intro hnone g hg hid
    exact hnone _ (hlt g hg) ⟨g, hg, by simpa using hid⟩
  · rintro hnone other - ⟨g, hg, hboth⟩
    exact hnone g hg (Bool.and_eq_true _ _ ▸ hboth).1

/-! ## Resolved properties -/

/-- The classes of one model stand among those of the other in the same order, and the same relates
them. -/
structure Keeps (f : ClassId → ClassId) (m m' : Model) : Prop where
  strictMono : StrictMono f
  positions : ∀ name ∈ m.classNames, m'.orderedNames.idxOf name = f (m.orderedNames.idxOf name)
  associations : List.Forall₂ Association.Alike m.associations m'.associations
  generalizations : m.generalizations = m'.generalizations

namespace Keeps

variable (h : Keeps f m m')
include h

lemma resolvedType_eq {t : TypeRef} (ht : m.Declares t) :
    resolvedType m'.orderedNames (some t) = (resolvedType m.orderedNames (some t)).renumber f := by
  cases t with
  | primitive q => rfl
  | ofEnumeration name => rfl
  | ofClass name => simp only [resolvedType, AttributeType.renumber, h.positions name ht]

lemma corresponds_resolvedAttribute {p q : Property} (hp : m.SoundAttribute p)
    (hpq : p.AlikeAsAttribute q) :
    (resolvedAttribute m.orderedNames p).Corresponds f (resolvedAttribute m'.orderedNames q) where
  name := hpq.name.symm
  type := by
    obtain ⟨t, ht, hd⟩ := hp.typed
    simp only [resolvedAttribute, ← hpq.type, ht, h.resolvedType_eq hd]
  required := decide_eq_decide.2 hpq.demands.symm

lemma corresponds_resolvedEnd {p q : Property} (hp : m.SoundEnd p) (hpq : p.AlikeAsEnd q) :
    (resolvedEnd m.orderedNames p).Corresponds f (resolvedEnd m'.orderedNames q) := by
  obtain ⟨name, htype, hname⟩ := hp.typed
  obtain ⟨⟨μ, hμ, -⟩, ν, hν, -⟩ := hpq.valid
  have hmandatory : μ.isMandatory = true ↔ ν.isMandatory = true := by
    rw [← Property.demands_iff hμ, hpq.demands, Property.demands_iff hν]
  have hmany : μ.isMany = true ↔ ν.isMany = true := by
    rw [← Property.admitsMany_iff hμ, hpq.admitsMany, Property.admitsMany_iff hν]
  constructor
  · exact hpq.name.symm
  · simp only [resolvedEnd, Property.className_eq htype, Property.className_eq (hpq.type ▸ htype),
      h.positions name hname]
  · simp only [resolvedEnd, Property.effectiveMultiplicity, hμ, hν, Option.getD_some,
      Bool.eq_iff_iff.2 hmandatory]
  · simp only [resolvedEnd, Property.effectiveMultiplicity, hμ, hν, Option.getD_some,
      Bool.eq_iff_iff.2 hmany]

/-! ## Relationships -/

lemma precedes_eq {x y x' y' : RelationshipEnd} (hx : x.Corresponds f x')
    (hy : y.Corresponds f y') : x'.precedes y' = x.precedes y := by
  simp only [RelationshipEnd.precedes, hx.classId, hy.classId, hx.role, hy.role,
    h.strictMono.lt_iff_lt, Bool.beq_eq_decide_eq, h.strictMono.injective.eq_iff]

lemma corresponds_relate (name : String) {x y x' y' : RelationshipEnd} (hx : x.Corresponds f x')
    (hy : y.Corresponds f y') : (relate name x y).Corresponds f (relate name x' y') := by
  unfold relate
  rw [h.precedes_eq hx hy]
  split_ifs
  · exact ⟨rfl, fun side => by cases side <;> assumption⟩
  · exact ⟨rfl, fun side => by cases side <;> assumption⟩

lemma rel_relationship? {a b : Association} (ha : a.ends.length = 2 → ∀ p ∈ a.ends, m.SoundEnd p)
    (hab : a.Alike b) : Option.Rel (Relationship.Corresponds f) (relationship? m.orderedNames a)
      (relationship? m'.orderedNames b) := by
  by_cases hlen : a.ends.length = 2
  · obtain ⟨p, q, hends⟩ := List.length_eq_two.1 hlen
    have hforall := hab.ends hlen
    rw [hends] at hforall
    obtain ⟨p', q', hp, hq, hends'⟩ : ∃ p' q', p.AlikeAsEnd p' ∧ q.AlikeAsEnd q' ∧
        b.ends = [p', q'] := by
      generalize b.ends = ends at hforall ⊢
      cases hforall with
      | cons hp hrest =>
        cases hrest with
        | cons hq hnil => cases hnil; exact ⟨_, _, hp, hq, rfl⟩
    simp only [relationship?, hends, hends', ← hab.name]
    exact .some (h.corresponds_relate _ (h.corresponds_resolvedEnd (ha hlen p (by simp [hends])) hp)
      (h.corresponds_resolvedEnd (ha hlen q (by simp [hends])) hq))
  · have ha : a.isBinary = false := beq_eq_false_iff_ne.2 hlen
    have hb : b.isBinary = false := hab.isBinary_eq ▸ ha
    rw [relationship?_of_not_isBinary ha, relationship?_of_not_isBinary hb]
    exact .none

lemma orderedAssociations_alike :
    List.Forall₂ Association.Alike m.orderedAssociations m'.orderedAssociations :=
  forall₂_sortedByName (fun _ _ hab => hab.name) h.associations

lemma relationships_correspond (hm : m.Sound) :
    List.Forall₂ (Relationship.Corresponds f) m.resolved.relationships
      m'.resolved.relationships := by
  have hmem := (List.forall₂_and_left _ _).2
    ⟨fun a (ha : a ∈ m.orderedAssociations) => mem_sortedByName.1 ha, h.orderedAssociations_alike⟩
  exact List.rel_filterMap (fun a b hab => h.rel_relationship? (hm.ends a hab.1) hab.2) hmem

lemma skipped_eq : m'.resolved.skipped = m.resolved.skipped := by
  have hfiltered := List.rel_filter (p := fun a => !a.isBinary) (q := fun a => !a.isBinary)
    (fun a b hab => by simp only [hab.isBinary_eq]) h.orderedAssociations_alike
  exact (map_eq_map_of_forall₂ (fun a b hab => hab.name) hfiltered).symm

/-! ## Classes -/

lemma generalizations_resolved_eq (hm : m.Sound) :
    m'.generalizations.map (resolvedGeneralization m'.orderedNames) =
      (m.generalizations.map (resolvedGeneralization m.orderedNames)).map (Prod.map f f) := by
  rw [← h.generalizations, List.map_map]
  refine List.map_congr_left fun g hg => ?_
  obtain ⟨hgeneral, hspecific⟩ := hm.declared g hg
  simp only [resolvedGeneralization, Function.comp_apply, Prod.map, h.positions _ hgeneral,
    h.positions _ hspecific]

lemma corresponds_entryAt (hm : m.Sound) (hm' : m'.Sound) {d d' : ClassDecl} (id : ClassId)
    (hd : d ∈ m.classes) (halike : d.Alike d') :
    (m.entryAt id d).Corresponds f (m'.entryAt (f id) d') where
  id := rfl
  name := halike.name.symm
  isAbstract := halike.isAbstract.symm
  attributes := by
    have hmem := (List.forall₂_and_left _ _).2 ⟨hm.attributes d hd, halike.attributes⟩
    exact List.rel_map (fun p q hpq => h.corresponds_resolvedAttribute hpq.1 hpq.2) hmem
  general := by
    have hspecific : ∀ x : ClassId × ClassId, (f x.2 == f id) = (x.2 == id) := fun x => by
      rw [Bool.eq_iff_iff, beq_iff_eq, beq_iff_eq, h.strictMono.injective.eq_iff]
    simp only [entryAt, h.generalizations_resolved_eq hm, List.filter_map, Function.comp_def,
      Prod.map, hspecific, List.getLast?_map, Option.map_map]
  specifics := by
    have hgeneral : ∀ x : ClassId × ClassId, (f x.1 == f id) = (x.1 == id) := fun x => by
      rw [Bool.eq_iff_iff, beq_iff_eq, beq_iff_eq, h.strictMono.injective.eq_iff]
    simp only [isEmpty_specifics hm, isEmpty_specifics hm', h.generalizations_resolved_eq hm,
      List.any_map, Function.comp_def, Prod.map, hgeneral]

/-- Classes that follow each other in both models correspond if the first of them do. -/
lemma entriesAt_correspond (hm : m.Sound) (hm' : m'.Sound) {ds ds' : List ClassDecl}
    (hds : List.Forall₂ ClassDecl.Alike ds ds') (hsub : ds ⊆ m.classes) (n n' : ClassId)
    (hplace : ∀ i < ds.length, f (n + i) = n' + i) :
    List.Forall₂ (ClassEntry.Corresponds f) ((ds.zipIdx n).map fun (d, id) => m.entryAt id d)
      ((ds'.zipIdx n').map fun (d, id) => m'.entryAt id d) := by
  induction hds generalizing n n' with
  | nil => exact .nil
  | @cons d d' ds ds' halike _ ih =>
    obtain ⟨hd, hsub⟩ := List.cons_subset.1 hsub
    have hn : f n = n' := hplace 0 (Nat.succ_pos _)
    simp only [List.zipIdx_cons, List.map_cons]
    have hfirst := h.corresponds_entryAt hm hm' n hd halike
    refine .cons (hn ▸ hfirst) (ih hsub (n + 1) (n' + 1) fun i hi => ?_)
    rw [Nat.add_assoc, Nat.add_comm 1, Nat.add_assoc, Nat.add_comm 1]
    exact hplace (i + 1) (Nat.succ_lt_succ hi)

end Keeps

/-! ## Alike models -/

namespace Alike

variable (h : m.Alike m')
include h

lemma classNames_eq : m'.classNames = m.classNames :=
  (map_eq_map_of_forall₂ (fun _ _ hde => hde.name) h.classes).symm

lemma orderedClasses_alike : List.Forall₂ ClassDecl.Alike m.orderedClasses m'.orderedClasses :=
  forall₂_sortedByName (fun _ _ hde => hde.name) h.classes

lemma orderedNames_eq : m'.orderedNames = m.orderedNames :=
  (map_eq_map_of_forall₂ (fun _ _ hde => hde.name) h.orderedClasses_alike).symm

lemma declares_iff (t : TypeRef) : m'.Declares t ↔ m.Declares t := by
  cases t with
  | primitive q => exact Iff.rfl
  | ofClass name => simp only [Declares, h.classNames_eq]
  | ofEnumeration name => simp only [Declares, enumerationNames, h.enumerations]

/-- A declared multiplicity is the effective one. -/
lemma soundAttribute {p q : Property} (hp : m.SoundAttribute p) (hpq : p.AlikeAsAttribute q) :
    m'.SoundAttribute q where
  typed := by
    obtain ⟨t, ht, hd⟩ := hp.typed
    exact ⟨t, hpq.type ▸ ht, (h.declares_iff t).2 hd⟩
  valid μ hμ := by
    have hvalid := hpq.valid.2
    rwa [Property.effectiveMultiplicity, hμ] at hvalid

lemma soundEnd {p q : Property} (hp : m.SoundEnd p) (hpq : p.AlikeAsEnd q) : m'.SoundEnd q where
  typed := by
    obtain ⟨name, ht, hname⟩ := hp.typed
    exact ⟨name, hpq.type ▸ ht, h.classNames_eq ▸ hname⟩
  valid := hpq.valid.2

theorem sound (hm : m.Sound) : m'.Sound where
  typeNames := by
    rw [h.classNames_eq, enumerationNames, ← h.enumerations]
    exact hm.typeNames
  tableNames c' hc' d' hd' htable := by
    obtain ⟨c, hc, hcc⟩ := exists_mem_of_forall₂ h.classes hc'
    obtain ⟨d, hd, hdd⟩ := exists_mem_of_forall₂ h.classes hd'
    rw [← hcc.name, ← hdd.name] at htable ⊢
    exact hm.tableNames c hc d hd htable
  attributeNames c' hc' := by
    obtain ⟨c, hc, hcc⟩ := exists_mem_of_forall₂ h.classes hc'
    rw [← map_eq_map_of_forall₂ (fun _ _ hpq => hpq.name) hcc.attributes]
    exact hm.attributeNames c hc
  attributes c' hc' q hq := by
    obtain ⟨c, hc, hcc⟩ := exists_mem_of_forall₂ h.classes hc'
    obtain ⟨p, hp, hpq⟩ := exists_mem_of_forall₂ hcc.attributes hq
    exact h.soundAttribute (hm.attributes c hc p hp) hpq
  literals := h.enumerations ▸ hm.literals
  associationNames := by
    rw [← map_eq_map_of_forall₂ (fun _ _ hab => hab.name) h.associations]
    exact hm.associationNames
  ends b hb hlen q hq := by
    obtain ⟨a, ha, hab⟩ := exists_mem_of_forall₂ h.associations hb
    have hlen' := hab.sameEnds.length_eq.trans hlen
    obtain ⟨p, hp, hpq⟩ := exists_mem_of_forall₂ (hab.ends hlen') hq
    exact h.soundEnd (hm.ends a ha hlen' p hp) hpq
  declared := by
    rw [← h.generalizations, h.classNames_eq]
    exact hm.declared
  single := h.generalizations ▸ hm.single
  acyclic := by
    have hgeneral : m'.HasGeneral = m.HasGeneral := by
      funext specific general
      simp only [HasGeneral, h.generalizations]
    exact hgeneral ▸ hm.acyclic

/-! ## Their catalogs -/

theorem keeps : Keeps id m m' where
  strictMono := strictMono_id
  positions name _ := by rw [h.orderedNames_eq, id]
  associations := h.associations
  generalizations := h.generalizations

variable (hm : m.Sound)
include hm

lemma classes_correspond :
    List.Forall₂ (ClassEntry.Corresponds id) m.resolved.classes m'.resolved.classes := by
  rw [classes_resolved, classes_resolved]
  exact h.keeps.entriesAt_correspond hm (h.sound hm) h.orderedClasses_alike
    m.orderedClasses_perm.subset 0 0 fun i _ => rfl

theorem embeds : m.resolved.Embeds id m'.resolved where
  injective := Function.injective_id
  entries := rel_getElem?_of_forall₂ (h.classes_correspond hm)
  relationships := h.keeps.relationships_correspond hm

lemma fieldDefect?_eq_none (hfields : m.resolved.fieldDefect? = none) :
    m'.resolved.fieldDefect? = none := by
  have hc := hm.coherent_resolved
  have hc' := (h.sound hm).coherent_resolved
  rw [hc.fieldDefect?_eq_none_iff] at hfields
  rw [hc'.fieldDefect?_eq_none_iff]
  intro i hi
  have hlt : i < m.resolved.classes.length := (h.classes_correspond hm).length_eq ▸ hi
  exact (h.embeds hm).flatMap_ownFieldNames_eq hc hc' i ▸ hfields i hlt

theorem layout_eq :
    m'.resolved.layout m'.resolved.placements = m.resolved.layout m.resolved.placements := by
  have hc := hm.coherent_resolved
  have hc' := (h.sound hm).coherent_resolved
  have hnames : m'.resolved.classes.map (fun entry => tableName entry.name) =
      m.resolved.classes.map fun entry => tableName entry.name := by
    refine (map_eq_map_of_forall₂ (fun e e' he => ?_) (h.classes_correspond hm)).symm
    rw [he.name]
  simp only [Catalog.layout, (h.embeds hm).tables_eq (h.classes_correspond hm) hc hc',
    (h.embeds hm).joinTables_eq hc', hnames, hc.joinTables_placements]

theorem compiled_eq (o : Options) : m'.resolved.compiled o = m.resolved.compiled o := by
  have hc := hm.coherent_resolved
  have hc' := (h.sound hm).coherent_resolved
  have hclasses := h.classes_correspond hm
  have hplacements : m'.resolved.placements = m.resolved.placements := by
    refine NameTable.ext ?_
    rw [(h.embeds hm).entries_placements_eq hc hc']
    simp only [Placement.renumber_id, List.map_id_fun', id]
  have htable : (m'.resolved.contracts m'.resolved.placements o).contracts =
      (m.resolved.contracts m.resolved.placements o).contracts := by
    refine NameTable.ext ?_
    rw [hc.entries_contracts, hc'.entries_contracts, (h.embeds hm).contracts_eq hclasses hc hc']
  have henumerations : m'.resolved.enumerations = m.resolved.enumerations := by
    simp only [resolved, h.enumerations]
  have hcontracts : m'.resolved.contracts m'.resolved.placements o =
      m.resolved.contracts m.resolved.placements o := by
    simp only [Catalog.contracts, henumerations] at htable ⊢
    rw [htable]
  have hplans := (h.embeds hm).plans_eq (o := o) hclasses hc hc' (List.Subset.refl _)
  have hlayout := h.layout_eq hm
  have hname : m'.resolved.name = m.resolved.name := h.name.symm
  rw [hplacements] at hlayout hcontracts hplans
  rw [hcontracts] at hplans
  simp only [Catalog.compiled, Catalog.plans, hplacements, hlayout, hplans, hcontracts, hname,
    h.keeps.skipped_eq]

end Alike

lemma Alike.compile_of_compile (h : m.Alike m') {o : Options} {k : Compiled}
    (hk : m.compile o order = .ok k) : m'.compile o order' = .ok k := by
  obtain ⟨hm, hfields, hcolumns, rfl⟩ := compile_eq_ok_iff.1 hk
  refine compile_eq_ok_iff.2 ⟨h.sound hm, h.fieldDefect?_eq_none hm hfields, ?_,
    (h.compiled_eq hm o).symm⟩
  rw [Catalog.columnDefect?_eq_none_iff_layout] at hcolumns ⊢
  rwa [h.layout_eq hm]

/-- The same is compiled from alike models, or nothing from either. -/
theorem compile_eq_ok_iff_of_alike (h : m.Alike m') (o : Options) (k : Compiled) :
    m.compile o order = .ok k ↔ m'.compile o order' = .ok k :=
  ⟨h.compile_of_compile, h.symm.compile_of_compile⟩

/-- A workshop in which everything has a multiplicity. -/
def workshop : Model where
  name := "Workshop"
  classes := [
    ⟨"Machine", [⟨"label", some (.primitive .string), some .one⟩,
      ⟨"notes", some (.primitive .string), some .many⟩], false⟩,
    ⟨"Order", [⟨"machine", some (.ofClass "Machine"), some .optional⟩], false⟩]
  enumerations := []
  associations := [
    ⟨"parts", [⟨"part", some (.ofClass "Machine"), some .many⟩,
      ⟨"whole", some (.ofClass "Machine"), some .optional⟩]⟩,
    ⟨"serves", [⟨"orders", some (.ofClass "Order"), some ⟨1, .unbounded⟩⟩,
      ⟨"machines", some (.ofClass "Machine"), some ⟨1, .bounded 2⟩⟩]⟩,
    ⟨"notice", [⟨"order", some (.ofClass "Order"), none⟩]⟩]
  generalizations := []

/-- The same workshop with other bounds. -/
def boundedWorkshop : Model where
  name := "Workshop"
  classes := [
    ⟨"Machine", [⟨"label", some (.primitive .string), none⟩,
      ⟨"notes", some (.primitive .string), some ⟨0, .bounded 5⟩⟩], false⟩,
    ⟨"Order", [⟨"machine", some (.ofClass "Machine"), some .many⟩], false⟩]
  enumerations := []
  associations := [
    ⟨"parts", [⟨"part", some (.ofClass "Machine"), some ⟨0, .bounded 7⟩⟩,
      ⟨"whole", some (.ofClass "Machine"), some .optional⟩]⟩,
    ⟨"serves", [⟨"orders", some (.ofClass "Order"), some ⟨2, .bounded 3⟩⟩,
      ⟨"machines", some (.ofClass "Machine"), some ⟨4, .unbounded⟩⟩]⟩,
    ⟨"notice", [⟨"order", some (.ofClass "Order"), some ⟨3, .bounded 0⟩⟩]⟩]
  generalizations := []

open Property (alikeAsAttribute_of alikeAsEnd_of) in
lemma workshop_alike : workshop.Alike boundedWorkshop where
  name := rfl
  classes := by
    have hlabel := alikeAsAttribute_of (p := workshop.classes[0].attributes[0])
      (q := boundedWorkshop.classes[0].attributes[0]) ⟨rfl, rfl⟩ (by decide) (by decide) (by decide)
    have hnotes := alikeAsAttribute_of (p := workshop.classes[0].attributes[1])
      (q := boundedWorkshop.classes[0].attributes[1]) ⟨rfl, rfl⟩ (by decide) (by decide) (by decide)
    have hmachine := alikeAsAttribute_of (p := workshop.classes[1].attributes[0])
      (q := boundedWorkshop.classes[1].attributes[0]) ⟨rfl, rfl⟩ (by decide) (by decide) (by decide)
    exact .cons ⟨rfl, rfl, .cons hlabel (.cons hnotes .nil)⟩
      (.cons ⟨rfl, rfl, .cons hmachine .nil⟩ .nil)
  enumerations := rfl
  associations := by
    have hpart := alikeAsEnd_of (p := workshop.associations[0].ends[0])
      (q := boundedWorkshop.associations[0].ends[0]) ⟨rfl, rfl⟩ rfl rfl (by decide) (by decide)
      (by decide) (by decide)
    have hwhole := alikeAsEnd_of (p := workshop.associations[0].ends[1])
      (q := boundedWorkshop.associations[0].ends[1]) ⟨rfl, rfl⟩ rfl rfl (by decide) (by decide)
      (by decide) (by decide)
    have horders := alikeAsEnd_of (p := workshop.associations[1].ends[0])
      (q := boundedWorkshop.associations[1].ends[0]) ⟨rfl, rfl⟩ rfl rfl (by decide) (by decide)
      (by decide) (by decide)
    have hmachines := alikeAsEnd_of (p := workshop.associations[1].ends[1])
      (q := boundedWorkshop.associations[1].ends[1]) ⟨rfl, rfl⟩ rfl rfl (by decide) (by decide)
      (by decide) (by decide)
    exact .cons (Association.alike_of_ends rfl (.cons hpart (.cons hwhole .nil)))
      (.cons (Association.alike_of_ends rfl (.cons horders (.cons hmachines .nil)))
        (.cons ⟨rfl, .cons ⟨rfl, rfl⟩ .nil, fun hlen => absurd hlen (by decide)⟩ .nil))
  generalizations := rfl

theorem compile_workshop_eq_bounded : ∃ k, workshop.compile {} = .ok k ∧
    boundedWorkshop.compile {} = .ok k := by
  obtain ⟨k, hk⟩ := exists_compiled_of_isOk (m := workshop) (o := {}) (by decide +kernel)
  exact ⟨k, hk, (compile_eq_ok_iff_of_alike workshop_alike _ k).1 hk⟩

end Model

end Blueprint
