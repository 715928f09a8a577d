import Blueprint.Proofs.Acceptance
import Mathlib.Data.List.Permutation

/-!
# The order of declarations

Models that declare the same in another order are compiled to the same, or neither is compiled.
Being sound does not depend on the order, and sorting by distinct names forgets it. The ends of an
association are put in order by class and role, which leaves open only how two ends stand that have
the same class and the same role; no model that is compiled has such an association.
-/
namespace Blueprint

/-- The associations have the same name, and the same ends in some order. -/
structure Association.Matches (a b : Association) : Prop where
  name : a.name = b.name
  ends : a.ends.Perm b.ends

namespace Model

/-- The models declare the same in some order, and the same generalizations however often. -/
structure SameDeclarations (m m' : Model) : Prop where
  name : m.name = m'.name
  classes : m.classes.Perm m'.classes
  enumerations : m.enumerations.Perm m'.enumerations
  associations : ∃ as, m.associations.Perm as ∧
    List.Forall₂ Association.Matches as m'.associations
  generalizations : ∀ g, g ∈ m.generalizations ↔ g ∈ m'.generalizations

end Model

/-! ## Associations with their ends in some order -/

namespace Association.Matches

variable {a b : Association}

theorem symm (h : a.Matches b) : b.Matches a := ⟨h.name.symm, h.ends.symm⟩

lemma ends_eq_pair (h : a.Matches b) {p q : Property} (hends : a.ends = [p, q]) :
    b.ends = [p, q] ∨ b.ends = [q, p] :=
  List.perm_pair.1 (hends ▸ h.ends.symm)

lemma isBinary_eq (h : a.Matches b) : a.isBinary = b.isBinary := by
  simp [isBinary, h.ends.length_eq]

end Association.Matches

namespace Model

lemma relate_comm (name : String) {x y : RelationshipEnd}
    (h : x.classId = y.classId → x.role ≠ y.role) : relate name x y = relate name y x := by
  have hprec : x.precedes y = !y.precedes x := by
    rcases lt_trichotomy x.classId y.classId with hlt | heq | hgt
    · simp [RelationshipEnd.precedes, hlt, hlt.not_gt, hlt.ne']
    · have hrole : x.role ≤ y.role ↔ ¬ y.role ≤ x.role := by
        constructor
        · exact fun hxy hyx => h heq (Std.le_antisymm hxy hyx)
        · exact fun hyx => Std.le_total.resolve_right hyx
      simp only [RelationshipEnd.precedes, heq, lt_irrefl, beq_self_eq_true, hrole,
        decide_false, decide_not, Bool.true_and, Bool.false_or]
    · simp [RelationshipEnd.precedes, hgt, hgt.not_gt, hgt.ne']
  unfold relate
  rw [hprec]
  cases y.precedes x <;> rfl

variable {m m' : Model} {order order' : StartOrder}

/-! ## What does not depend on the order -/

namespace SameDeclarations

theorem symm (h : SameDeclarations m m') : SameDeclarations m' m where
  name := h.name.symm
  classes := h.classes.symm
  enumerations := h.enumerations.symm
  associations := by
    obtain ⟨as, hperm, hmatch⟩ := h.associations
    have hflip : List.Forall₂ Association.Matches m'.associations as :=
      hmatch.flip.imp fun _ _ hab => hab.symm
    have hcomp : Relation.Comp (List.Forall₂ Association.Matches) List.Perm m'.associations
        m.associations :=
      ⟨as, hflip, hperm.symm⟩
    rwa [List.forall₂_comp_perm_eq_perm_comp_forall₂] at hcomp
  generalizations g := (h.generalizations g).symm

variable (h : SameDeclarations m m')
include h

lemma classNames_perm : m.classNames.Perm m'.classNames := h.classes.map _

lemma enumerationNames_perm : m.enumerationNames.Perm m'.enumerationNames := h.enumerations.map _

lemma associationNames_perm :
    (m.associations.map (·.name)).Perm (m'.associations.map (·.name)) := by
  obtain ⟨as, hperm, hmatch⟩ := h.associations
  rw [← map_eq_map_of_forall₂ (fun _ _ hab => hab.name) hmatch]
  exact hperm.map _

lemma exists_matching {b : Association} (hb : b ∈ m'.associations) :
    ∃ a ∈ m.associations, a.Matches b := by
  obtain ⟨as, hperm, hmatch⟩ := h.associations
  obtain ⟨a, ha, hab⟩ := exists_mem_of_forall₂ hmatch hb
  exact ⟨a, hperm.mem_iff.2 ha, hab⟩

lemma hasGeneral_eq : m.HasGeneral = m'.HasGeneral := by
  funext specific general
  exact propext (h.generalizations ⟨general, specific⟩)

lemma declares_iff (t : TypeRef) : m.Declares t ↔ m'.Declares t := by
  cases t with
  | primitive q => exact Iff.rfl
  | ofClass name => exact h.classNames_perm.mem_iff
  | ofEnumeration name => exact h.enumerationNames_perm.mem_iff

lemma soundAttribute {p : Property} (hp : m.SoundAttribute p) : m'.SoundAttribute p := by
  obtain ⟨t, ht, hd⟩ := hp.typed
  exact ⟨⟨t, ht, (h.declares_iff t).1 hd⟩, hp.valid⟩

lemma soundEnd {p : Property} (hp : m.SoundEnd p) : m'.SoundEnd p := by
  obtain ⟨name, ht, hd⟩ := hp.typed
  exact ⟨⟨name, ht, h.classNames_perm.mem_iff.1 hd⟩, hp.valid⟩

/-- Every rule of a sound model is kept in any order. -/
theorem sound (hm : m.Sound) : m'.Sound where
  typeNames := (h.classNames_perm.append h.enumerationNames_perm).nodup_iff.1 hm.typeNames
  tableNames c hc d hd :=
    hm.tableNames c (h.classes.mem_iff.2 hc) d (h.classes.mem_iff.2 hd)
  attributeNames c hc := hm.attributeNames c (h.classes.mem_iff.2 hc)
  attributes c hc p hp := h.soundAttribute (hm.attributes c (h.classes.mem_iff.2 hc) p hp)
  literals e he := hm.literals e (h.enumerations.mem_iff.2 he)
  associationNames := h.associationNames_perm.nodup_iff.1 hm.associationNames
  ends b hb hlen p hp := by
    obtain ⟨a, ha, hab⟩ := h.exists_matching hb
    exact h.soundEnd (hm.ends a ha (hab.ends.length_eq.trans hlen) p (hab.ends.mem_iff.2 hp))
  declared g hg := by
    obtain ⟨hgen, hspec⟩ := hm.declared g ((h.generalizations g).2 hg)
    exact ⟨h.classNames_perm.mem_iff.1 hgen, h.classNames_perm.mem_iff.1 hspec⟩
  single g hg g' hg' :=
    hm.single g ((h.generalizations g).2 hg) g' ((h.generalizations g').2 hg')
  acyclic := h.hasGeneral_eq ▸ hm.acyclic

end SameDeclarations

namespace Sound

variable (hm : m.Sound)
include hm

/-- In which order the ends were declared does not matter. -/
lemma relationship?_eq_of_matches (hfields : m.resolved.fieldDefect? = none) {a b : Association}
    (ha : a ∈ m.associations) (hab : a.Matches b) :
    relationship? m.orderedNames a = relationship? m.orderedNames b := by
  ext r
  rw [relationship?_eq_some_iff, relationship?_eq_some_iff, ← hab.name]
  have hswap : ∀ p q, a.ends = [p, q] → relate a.name (resolvedEnd m.orderedNames p)
      (resolvedEnd m.orderedNames q) = relate a.name (resolvedEnd m.orderedNames q)
      (resolvedEnd m.orderedNames p) := by
    intro p q hends
    exact relate_comm _ fun hid => hm.roles_ne_of_classId_eq hfields ha (.inl hends) hid
  constructor
  · rintro ⟨p, q, hends, rfl⟩
    rcases hab.ends_eq_pair hends with hb | hb
    · exact ⟨p, q, hb, rfl⟩
    · exact ⟨q, p, hb, (hswap p q hends).symm⟩
  · rintro ⟨p, q, hends, rfl⟩
    rcases hab.symm.ends_eq_pair hends with ha' | ha'
    · exact ⟨p, q, ha', rfl⟩
    · exact ⟨q, p, ha', hswap q p ha'⟩

end Sound

/-! ## The catalogs -/

namespace SameDeclarations

variable (h : SameDeclarations m m') (hm : m.Sound)
include h hm

lemma orderedClasses_eq : m.orderedClasses = m'.orderedClasses :=
  sortedByName_eq_of_perm h.classes hm.classNames_nodup

lemma orderedNames_eq : m.orderedNames = m'.orderedNames := by
  rw [orderedNames, h.orderedClasses_eq hm, orderedNames]

lemma general?_eq (id : ClassId) : m.resolved.general? id = m'.resolved.general? id := by
  ext general
  rw [hm.general?_resolved_iff, (h.sound hm).general?_resolved_iff, h.orderedNames_eq hm,
    h.hasGeneral_eq]

lemma entryAt_eq {id : ClassId} {d : ClassDecl} (hd : m.orderedClasses[id]? = some d) :
    m.entryAt id d = m'.entryAt id d := by
  have hgeneral : (m.entryAt id d).general = (m'.entryAt id d).general := by
    have heq := h.general?_eq hm id
    simpa [Catalog.general?, entry?_resolved, ← h.orderedClasses_eq hm, hd] using heq
  have hspecifics : (m.entryAt id d).specifics = (m'.entryAt id d).specifics := by
    simp only [entryAt, ← h.orderedClasses_eq hm, ← h.orderedNames_eq hm]
    refine List.filter_congr fun other _ => ?_
    rw [Bool.eq_iff_iff]
    simp [h.generalizations]
  simp only [entryAt, ← h.orderedNames_eq hm] at hgeneral hspecifics ⊢
  rw [hgeneral, hspecifics]

lemma orderedAssociations_match :
    List.Forall₂ (fun a b => a ∈ m.associations ∧ a.Matches b) m.orderedAssociations
      m'.orderedAssociations := by
  obtain ⟨as, hperm, hmatch⟩ := h.associations
  have hmem : List.Forall₂ (fun a b => a ∈ m.associations ∧ a.Matches b) as m'.associations :=
    (List.forall₂_and_left _ _).2 ⟨fun a ha => hperm.mem_iff.2 ha, hmatch⟩
  rw [orderedAssociations, sortedByName_eq_of_perm hperm hm.associationNames]
  exact forall₂_sortedByName (fun a b hab => hab.2.name) hmem

/-- The catalogs are equal as soon as the fields of one of them do not repeat. -/
theorem resolved_eq (hfields : m.resolved.fieldDefect? = none) : m.resolved = m'.resolved := by
  have hclasses : m.resolved.classes = m'.resolved.classes := by
    rw [classes_resolved, classes_resolved, ← h.orderedClasses_eq hm]
    refine List.map_congr_left fun ⟨d, id⟩ hd => ?_
    exact h.entryAt_eq hm (List.mem_zipIdx_iff_getElem?.1 hd)
  have henumerations : m.resolved.enumerations = m'.resolved.enumerations :=
    sortedByName_eq_of_perm h.enumerations hm.enumerationNames_nodup
  have hmatch := h.orderedAssociations_match hm
  have hrelationships : m.resolved.relationships = m'.resolved.relationships := by
    simp only [resolved, ← h.orderedNames_eq hm]
    have hmap := map_eq_map_of_forall₂
      (fun a b hab => hm.relationship?_eq_of_matches hfields hab.1 hab.2) hmatch
    simpa only [List.filterMap_map, Function.id_comp] using congrArg (List.filterMap id) hmap
  have hskipped : m.resolved.skipped = m'.resolved.skipped := by
    refine map_eq_map_of_forall₂ (fun a b hab => hab.2.name) (List.rel_filter ?_ hmatch)
    intro a b hab
    simp [hab.2.isBinary_eq]
  have hname : m.resolved.name = m'.resolved.name := h.name
  cases hr : m.resolved
  cases hr' : m'.resolved
  simp_all only

end SameDeclarations

lemma SameDeclarations.compile_of_compile (h : SameDeclarations m m') {o : Options} {k : Compiled}
    (hk : m.compile o order = .ok k) : m'.compile o order' = .ok k := by
  obtain ⟨hm, hfields, hcolumns, rfl⟩ := compile_eq_ok_iff.1 hk
  have hcatalog := h.resolved_eq hm hfields
  rw [hcatalog] at hfields hcolumns ⊢
  exact compile_eq_ok_iff.2 ⟨h.sound hm, hfields, hcolumns, rfl⟩

/-- The same is compiled from models that declare the same, or nothing from either. -/
theorem compile_eq_ok_iff_of_sameDeclarations (h : SameDeclarations m m') (o : Options)
    (k : Compiled) : m.compile o order = .ok k ↔ m'.compile o order' = .ok k :=
  ⟨h.compile_of_compile, h.symm.compile_of_compile⟩

/-- A library whose readers recommend books to each other. -/
def library : Model where
  name := "Library"
  classes := [
    ⟨"Reader", [⟨"name", some (.primitive .string), none⟩], false⟩,
    ⟨"Book", [⟨"genre", some (.ofEnumeration "Genre"), some .optional⟩], true⟩,
    ⟨"Novel", [], false⟩]
  enumerations := [⟨"Genre", ["crime", "travel"]⟩, ⟨"Shelf", []⟩]
  associations := [
    ⟨"lends", [⟨"borrower", some (.ofClass "Reader"), some .optional⟩,
      ⟨"loans", some (.ofClass "Book"), some .many⟩]⟩,
    ⟨"advises", [⟨"adviser", some (.ofClass "Reader"), some .many⟩,
      ⟨"advised", some (.ofClass "Reader"), some .many⟩]⟩]
  generalizations := [⟨"Book", "Novel"⟩]

/-- The same library in another order, its generalization declared twice. -/
def reorderedLibrary : Model where
  name := "Library"
  classes := [
    ⟨"Novel", [], false⟩,
    ⟨"Reader", [⟨"name", some (.primitive .string), none⟩], false⟩,
    ⟨"Book", [⟨"genre", some (.ofEnumeration "Genre"), some .optional⟩], true⟩]
  enumerations := [⟨"Shelf", []⟩, ⟨"Genre", ["crime", "travel"]⟩]
  associations := [
    ⟨"advises", [⟨"advised", some (.ofClass "Reader"), some .many⟩,
      ⟨"adviser", some (.ofClass "Reader"), some .many⟩]⟩,
    ⟨"lends", [⟨"borrower", some (.ofClass "Reader"), some .optional⟩,
      ⟨"loans", some (.ofClass "Book"), some .many⟩]⟩]
  generalizations := [⟨"Book", "Novel"⟩, ⟨"Book", "Novel"⟩]

lemma sameDeclarations_reorderedLibrary : SameDeclarations library reorderedLibrary where
  name := rfl
  classes := by decide
  enumerations := by decide
  associations := by
    refine ⟨library.associations.reverse, by decide, .cons ⟨rfl, by decide⟩ (.cons ⟨rfl, ?_⟩ .nil)⟩
    exact .refl _
  generalizations := by simp [library, reorderedLibrary]

theorem compile_library_eq_reordered : ∃ k, library.compile {} = .ok k ∧
    reorderedLibrary.compile {} = .ok k := by
  obtain ⟨k, hk⟩ := exists_compiled_of_isOk (m := library) (o := {}) (by decide +kernel)
  exact ⟨k, hk, (compile_eq_ok_iff_of_sameDeclarations sameDeclarations_reorderedLibrary _ k).1 hk⟩

end Model

end Blueprint
