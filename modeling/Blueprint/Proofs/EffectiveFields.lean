import Blueprint.Proofs.RelationshipFields

/-!
# Effective fields

The effective fields of a class are put together from the contracts along its chain, which name each
other. They are what the declarations along the chain of generals give, the root's first: for each
class its attributes and then a field for each end at which it stands. In what is compiled no two
have one name, and a model that is rejected for a repeated field is one where they would.
-/
namespace Blueprint

/-! ## Fields as they are declared -/

/-- The type that a field gets from a declared one. -/
def TypeRef.fieldType : TypeRef → FieldType
  | primitive p => .primitive p
  | ofEnumeration name => .ofEnumeration name
  | ofClass name => .reference name

/-- The field is that of the attribute. A value is required unless the attribute may have none. -/
structure Field.IsAttributeOf (f : Field) (p : Property) : Prop where
  name : f.name = p.name
  type : p.type.map (·.fieldType) = some f.type
  required : f.required = true ↔ ∀ μ, p.multiplicity = some μ → 0 < μ.min
  origin : f.origin = .ofAttribute

instance (p q : Property) : Decidable (p.Precedes q) := inferInstanceAs (Decidable (_ ∨ _))

/-- The ends of an association with two, each with the end opposite to it, and the one that goes
before the other first. -/
def Association.facing (a : Association) : List (Property × Property) :=
  match a.ends with
  | [p, q] => if p.Precedes q then [(p, q), (q, p)] else [(q, p), (p, q)]
  | _ => []

namespace Association

variable {a : Association} {p q : Property}

lemma facing_of_faces (h : a.Faces .first p q) : a.facing = [(p, q), (q, p)] := by
  have hprecedes : p.Precedes q := h.2
  unfold facing
  rcases h.1 with hends | hends
  · rw [hends]
    exact if_pos hprecedes
  · rw [hends]
    exact if_neg hprecedes.asymm

lemma facing_of_not_isBinary (h : a.isBinary = false) : a.facing = [] := by
  unfold facing
  split
  · next p q hends => simp [isBinary, hends] at h
  · rfl

end Association

namespace Model

variable (m : Model)

/-- The ends at a class in the order of the associations, each with its association and with the end
opposite to it. -/
def endsAt (className : String) : List (Association × Property × Property) :=
  m.orderedAssociations.flatMap fun a =>
    (a.facing.filter fun e => e.1.type == some (.ofClass className)).map fun e => (a, e)

/-- The names of the fields that a class collects. -/
def fieldNames (className : String) : List String :=
  ((m.class? className).map fun d => d.attributes.map (·.name)).getD [] ++
    (m.endsAt className).map fun e => e.2.2.name

/-- The fields of a class: those of its attributes as they are declared, and then those of the ends
at which it stands. -/
def Collects (ps : Placements) (className : String) (fields : List Field) : Prop :=
  ∃ d attributes relationships, m.class? className = some d ∧
    fields = attributes ++ relationships ∧
    List.Forall₂ Field.IsAttributeOf attributes d.attributes ∧
    List.Forall₂ (fun f e => f.Mirrors className ps e.1 e.2.1 e.2.2) relationships
      (m.endsAt className)

variable {m} {o : Options} {k : Compiled} {ps : Placements} {id : ClassId} {className : String}
  {order : StartOrder}
  {d : ClassDecl} {a : Association} {fields : List Field}

lemma Collects.map_name (h : m.Collects ps className fields) :
    fields.map (·.name) = m.fieldNames className := by
  obtain ⟨d, attributes, relationships, hd, rfl, hattributes, hrelationships⟩ := h
  rw [List.map_append, fieldNames, hd, Option.map_some, Option.getD_some,
    map_eq_map_of_forall₂ (fun _ _ h => h.name) hattributes,
    map_eq_map_of_forall₂ (fun _ _ h => h.name) hrelationships]

/-! ## Contributed names -/

lemma map_name_facing_perm (a : Association) (className : String) :
    ((a.facing.filter fun e => e.1.type == some (.ofClass className)).map fun e => e.2.name).Perm
      (a.rolesFacing className) := by
  unfold Association.facing Association.rolesFacing
  rcases a.ends with _ | ⟨p, _ | ⟨q, _ | ⟨x, rest⟩⟩⟩
  · exact .nil
  · exact .nil
  · by_cases hprecedes : p.Precedes q <;>
      by_cases hp : p.type = some (.ofClass className) <;>
      by_cases hq : q.type = some (.ofClass className) <;>
      simp [hp, hq, hprecedes, List.Perm.swap]
  · exact .nil

namespace Sound

variable (hm : m.Sound)
include hm

lemma class?_name (hd : d ∈ m.classes) : m.class? d.name = some d :=
  find?_eq_some_of_nodup hm.classNames_nodup hd

/-- A class collects what it contributes, in an order of its own. -/
lemma fieldNames_perm (hd : d ∈ m.classes) : (m.fieldNames d.name).Perm (m.fieldsOf d.name) := by
  rw [fieldNames, hm.class?_name hd, fieldsOf, hm.filter_classes_eq hd, List.flatMap_singleton,
    endsAt, List.map_flatMap]
  simp only [List.map_map, Function.comp_def]
  exact .append_left _ (.flatMap (sortedByName_perm _ _) fun a _ => map_name_facing_perm a d.name)

lemma flatMap_fieldNames_perm {chain : List String} (hchain : chain ⊆ m.classNames) :
    (chain.reverse.flatMap m.fieldNames).Perm (chain.flatMap m.fieldsOf) := by
  refine .flatMap (List.reverse_perm chain) fun name hname => ?_
  obtain ⟨d, hd, rfl⟩ := List.mem_map.1 (hchain (by simpa using hname))
  exact hm.fieldNames_perm hd

/-! ## Collected fields -/

lemma isAttributeOf_attributeField {p : Property} (h : m.SoundAttribute p) :
    (m.resolved.attributeField (resolvedAttribute m.orderedNames p)).IsAttributeOf p where
  name := rfl
  type := by
    obtain ⟨t, ht, hdeclared⟩ := h.typed
    cases t with
    | primitive q => simp [Catalog.attributeField, resolvedAttribute, resolvedType, ht,
        TypeRef.fieldType]
    | ofEnumeration name => simp [Catalog.attributeField, resolvedAttribute, resolvedType, ht,
        TypeRef.fieldType]
    | ofClass name =>
      have hname := hm.className_idxOf hdeclared
      simp [Catalog.attributeField, resolvedAttribute, resolvedType, ht, TypeRef.fieldType, hname]
  required := by
    unfold Catalog.attributeField Attribute.isRequired resolvedAttribute
    cases hμ : p.multiplicity with
    | none => simp [Property.effectiveMultiplicity, hμ, Multiplicity.isMandatory, Multiplicity.one]
    | some μ => simp [Property.effectiveMultiplicity, hμ, Multiplicity.isMandatory]
  origin := rfl

variable {r : Relationship} {side : Side} {p q : Property}

lemma mirrors_of_relationship? (ha : a ∈ m.associations)
    (hr : relationship? m.orderedNames a = some r) (h : a.Faces side p q) :
    (m.resolved.relationshipField o r side).Mirrors
      (m.resolved.className (r.endAt side).classId) m.resolved.placements a p q := by
  obtain ⟨r', hr', hname', hmirrors⟩ := hm.exists_field_of_faces o ha h
  have hname : r.name = a.name := by
    obtain ⟨_, _, -, rfl⟩ := relationship?_eq_some_iff.1 hr
    exact name_relate _ _ _
  have hmem := mem_relationships_resolved.2 ⟨a, ha, hr⟩
  obtain rfl := hm.coherent_resolved.relationship_inj hmem hr' (hname.trans hname'.symm)
  exact hmirrors

/-- A side is at the class that is the type of the end there, and its field is for that end. -/
lemma side_of_faces (o : Options) (ha : a ∈ m.associations)
    (hr : relationship? m.orderedNames a = some r) (hid : m.orderedNames[id]? = some className)
    (h : a.Faces side p q) :
    ((r.endAt side).classId == id) = (p.type == some (.ofClass className)) ∧
      (p.type = some (.ofClass className) →
        (m.resolved.relationshipField o r side).Mirrors className m.resolved.placements a p q) := by
  have hc := hm.coherent_resolved
  have hmirrors := hm.mirrors_of_relationship? (o := o) ha hr h
  have hside := hc.ends r (mem_relationships_resolved.2 ⟨a, ha, hr⟩) side
  have hlt := lt_of_orderedNames_getElem? hid
  have hclass : (r.endAt side).classId = id ↔ p.type = some (.ofClass className) := by
    rw [hmirrors.ofClass, ← className_resolved hid]
    constructor
    · rintro rfl
      rfl
    · exact fun htype => hc.className_inj hside hlt (TypeRef.ofClass.inj (Option.some.inj htype))
  refine ⟨?_, fun htype => ?_⟩
  · rw [Bool.eq_iff_iff, beq_iff_eq, beq_iff_eq]
    exact hclass
  · rwa [hclass.2 htype, className_resolved hid] at hmirrors

variable (hfields : m.resolved.fieldDefect? = none)
include hfields

/-- An association gives the class at a position one field for each end at which it stands. -/
lemma mirrors_facing (o : Options) (ha : a ∈ m.associations)
    (hid : m.orderedNames[id]? = some className) :
    List.Forall₂ (fun f e => f.Mirrors className m.resolved.placements e.1 e.2.1 e.2.2)
      ((relationship? m.orderedNames a).toList.flatMap fun r =>
        (r.sidesOf id).map (m.resolved.relationshipField o r))
      ((a.facing.filter fun e => e.1.type == some (.ofClass className)).map fun e => (a, e)) := by
  cases hbinary : a.isBinary with
  | false =>
    rw [relationship?_of_not_isBinary hbinary, Association.facing_of_not_isBinary hbinary]
    exact .nil
  | true =>
    obtain ⟨p, q, hfaces⟩ := hm.exists_faces hfields ha hbinary .first
    obtain ⟨r, hr⟩ : ∃ r, relationship? m.orderedNames a = some r := by
      obtain ⟨x, y, hends⟩ := List.length_eq_two.1 (beq_iff_eq.1 hbinary)
      exact ⟨_, relationship?_eq_some_iff.2 ⟨x, y, hends, rfl⟩⟩
    obtain ⟨hfirst, hfirstField⟩ := hm.side_of_faces o ha hr hid hfaces
    obtain ⟨hsecond, hsecondField⟩ := hm.side_of_faces o ha hr hid hfaces.symm
    rw [Side.opposite] at hsecond hsecondField
    rw [hr, Association.facing_of_faces hfaces, Option.toList_some, List.flatMap_singleton,
      Relationship.sidesOf]
    -- both ends stand at the class, as where it is associated with itself, or one of them, or none
    by_cases hp : p.type = some (.ofClass className) <;>
      by_cases hq : q.type = some (.ofClass className)
    · simp [hfirst, hsecond, hp, hq, hfirstField hp, hsecondField hq]
    · simp [hfirst, hsecond, hp, hq, hfirstField hp]
    · simp [hfirst, hsecond, hp, hq, hsecondField hq]
    · simp [hfirst, hsecond, hp, hq]

theorem collects_fieldsAt (o : Options) (hid : id < m.resolved.classes.length) :
    m.Collects m.resolved.placements (m.resolved.className id) (m.resolved.fieldsAt o id) := by
  have hentry := Catalog.entry?_of_lt hid
  obtain ⟨d, hd, heq⟩ := exists_decl_of_entry? hentry
  rw [heq] at hentry
  have hname : m.resolved.className id = d.name := Catalog.className_eq hentry
  refine ⟨d, (m.entryAt id d).attributes.map m.resolved.attributeField,
    (m.resolved.endsOf id).map fun e => m.resolved.relationshipField o e.1 e.2,
    hname ▸ hm.class?_name hd, ?_, ?_, ?_⟩
  · rw [Catalog.fieldsAt, hentry]
    rfl
  · rw [entryAt, List.map_map]
    refine List.forall₂_map_left_iff.2 (List.forall₂_same.2 fun p hp => ?_)
    exact hm.isAttributeOf_attributeField (hm.attributes d hd p hp)
  · rw [map_endsOf_resolved, endsAt]
    exact forall₂_flatMap fun a ha =>
      hm.mirrors_facing hfields o (mem_sortedByName.1 ha) (orderedNames_getElem? hid)

end Sound

/-! ## Fields along a chain -/

lemma map_name_flatten {chain : List String} {parts : List (List Field)}
    (h : List.Forall₂ (m.Collects ps) chain parts) :
    parts.flatten.map (·.name) = chain.flatMap m.fieldNames := by
  rw [List.map_flatten, ← List.flatMap_def]
  exact (flatMap_eq_flatMap_of_forall₂ (fun _ _ h => h.map_name.symm) h).symm

namespace Sound

variable (hm : m.Sound)
include hm

lemma ascent_subset {name : String} {chain : List String} (hname : name ∈ m.classNames)
    (h : Ascent m.HasGeneral name chain) : chain ⊆ m.classNames := by
  induction h with
  | top _ => simpa using hname
  | step hgeneral _ ih => exact List.cons_subset.2 ⟨hname, ih (hm.declared _ hgeneral).1⟩

/-- The check of the fields passes exactly if no chain collects a name twice. -/
theorem fieldDefect?_eq_none_iff_fieldNames :
    m.resolved.fieldDefect? = none ↔ ∀ d ∈ m.classes, ∀ chain,
      Ascent m.HasGeneral d.name chain → (chain.reverse.flatMap m.fieldNames).Nodup := by
  have hnodup : ∀ d ∈ m.classes, ∀ chain, Ascent m.HasGeneral d.name chain →
      ((chain.reverse.flatMap m.fieldNames).Nodup ↔ (chain.flatMap m.fieldsOf).Nodup) := by
    intro d hd chain hchain
    have hsub := hm.ascent_subset (List.mem_map_of_mem hd) hchain
    exact (hm.flatMap_fieldNames_perm hsub).nodup_iff
  rw [hm.fieldDefect?_eq_none_iff]
  constructor
  · intro h d hd chain hchain
    obtain ⟨chain', hchain', hnd⟩ := h d hd
    obtain rfl := hchain.unique hm.general_unique hchain'
    exact (hnodup d hd chain hchain).2 hnd
  · intro h d hd
    obtain ⟨chain, hchain⟩ := Ascent.exists_of_wellFounded hm.wellFounded d.name
    exact ⟨chain, hchain, (hnodup d hd chain hchain).1 (h d hd chain hchain)⟩

theorem ofModel_eq_duplicateField_iff :
    (∃ ofClass field declaredBy,
      Catalog.ofModel m order = .error (.duplicateField ofClass field declaredBy)) ↔
      m.resolved.fieldDefect? ≠ none := by
  have hdefect : m.defect? order = none := defect?_eq_none_iff.2 hm
  constructor
  · rintro ⟨ofClass, field, declaredBy, h⟩
    rcases Catalog.ofModel_eq_error_iff.1 h with h | ⟨-, h⟩
    · simp [hdefect] at h
    · simp [h]
  · intro h
    obtain ⟨defect, hfields⟩ := Option.ne_none_iff_exists'.1 h
    obtain ⟨entry, -, hentry⟩ := List.exists_of_findSome?_eq_some hfields
    obtain ⟨⟨field, declaredBy, ofClass⟩, -, rfl⟩ := Option.map_eq_some_iff.1 hentry
    exact ⟨ofClass, field, declaredBy, Catalog.ofModel_eq_error_iff.2 (.inr ⟨hm, hfields⟩)⟩

/-- The chain of contracts collects the fields along the chain of generals. -/
theorem exists_collected (hfields : m.resolved.fieldDefect? = none) (o : Options)
    (hd : d ∈ m.classes) :
    ∃ chain, Ascent m.HasGeneral d.name chain ∧ ∃ parts,
      (m.resolved.contracts m.resolved.placements o).effectiveFields d.name = parts.flatten ∧
        List.Forall₂ (m.Collects m.resolved.placements) chain.reverse parts := by
  have hc := hm.coherent_resolved
  obtain ⟨id, hid, hname⟩ := exists_position hd
  have heffective := hc.effectiveFields_eq (o := o) hid
  rw [hname, List.flatMap_def] at heffective
  have hchain := (hm.ascent_iff hid).2 rfl
  rw [hname] at hchain
  refine ⟨_, hchain, _, heffective, ?_⟩
  rw [List.reverse_reverse]
  refine List.forall₂_map_left_iff.2 (List.forall₂_map_right_iff.2 (List.forall₂_same.2 ?_))
  exact fun i hi => hm.collects_fieldsAt hfields o (hc.lt_of_mem_lineage hid hi)

end Sound

/-- In what is compiled from a model the effective fields of a class are what the classes along its
chain of generals collect, the root first, and no two have one name. A model that passes the checks
by itself is rejected for a repeated field exactly if some chain collects a name twice. -/
theorem effective_fields_are_not_repeated (m : Model) (o : Options) (order : StartOrder) :
    (∀ k, m.compile o order = .ok k → ∀ d ∈ m.classes,
      ∃ chain, Ascent m.HasGeneral d.name chain ∧
      ∃ parts, k.contracts.effectiveFields d.name = parts.flatten ∧
        List.Forall₂ (m.Collects k.placements) chain.reverse parts ∧
        (k.contracts.effectiveFields d.name).map (·.name) = chain.reverse.flatMap m.fieldNames ∧
        ((k.contracts.effectiveFields d.name).map (·.name)).Nodup) ∧
    (m.defect? order = none →
      ((∃ d ∈ m.classes, ∃ chain, Ascent m.HasGeneral d.name chain ∧
        ¬ (chain.reverse.flatMap m.fieldNames).Nodup) ↔
      ∃ ofClass field declaredBy,
        Catalog.ofModel m order = .error (.duplicateField ofClass field declaredBy))) := by
  constructor
  · intro k hk d hd
    obtain ⟨hm, hfields, -, rfl⟩ := compile_eq_ok_iff.1 hk
    obtain ⟨chain, hchain, parts, heffective, hparts⟩ := hm.exists_collected hfields o hd
    have hnames : (((m.resolved.compiled o).contracts.effectiveFields d.name).map (·.name)) =
        chain.reverse.flatMap m.fieldNames :=
      (congrArg _ heffective).trans (map_name_flatten hparts)
    refine ⟨chain, hchain, parts, heffective, hparts, hnames, ?_⟩
    rw [hnames]
    exact hm.fieldDefect?_eq_none_iff_fieldNames.1 hfields d hd chain hchain
  · intro hdefect
    have hm := defect?_eq_none_iff.1 hdefect
    rw [hm.ofModel_eq_duplicateField_iff, ne_eq, hm.fieldDefect?_eq_none_iff_fieldNames]
    simp only [not_forall, exists_prop]

/-- Parts of machines, of which engines are some and motors of engines some. Parts consist of other
parts. -/
def machines (motorAttributes : List Property) : Model where
  name := "Machines"
  classes := [
    ⟨"Motor", motorAttributes, false⟩,
    ⟨"Engine", [⟨"fuel", some (.primitive .string), some .optional⟩], true⟩,
    ⟨"Part", [⟨"number", some (.primitive .integer), none⟩], true⟩]
  enumerations := []
  associations := [
    ⟨"contains", [⟨"whole", some (.ofClass "Part"), some .optional⟩,
      ⟨"pieces", some (.ofClass "Part"), some .many⟩]⟩]
  generalizations := [⟨"Engine", "Motor"⟩, ⟨"Part", "Engine"⟩]

def poweredMachines : Model := machines [⟨"power", some (.primitive .float), none⟩]

/-- A motor counts its pieces, which it has from being a part. -/
def countedMachines : Model := machines [⟨"pieces", some (.primitive .integer), none⟩]

theorem motor_fields_are_not_repeated :
    (∃ k, poweredMachines.compile {} = .ok k ∧
      (k.contracts.effectiveFields "Motor").map (·.name) =
        ["number", "whole", "pieces", "fuel", "power"] ∧
      ((k.contracts.effectiveFields "Motor").map (·.name)).Nodup) ∧
    countedMachines.defect? = none ∧ ∃ ofClass field declaredBy,
      Catalog.ofModel countedMachines = .error (.duplicateField ofClass field declaredBy) := by
  have hchain : ∀ attributes, Ascent (machines attributes).HasGeneral "Motor"
      ["Motor", "Engine", "Part"] := by
    intro attributes
    refine .step (y := "Engine") (.head _) (.step (y := "Part") (.tail _ (.head _)) (.top ?_))
    simp [HasGeneral, machines]
  constructor
  · obtain ⟨k, hk⟩ := exists_compiled_of_isOk (m := poweredMachines) (o := {}) (by decide +kernel)
    obtain ⟨-, -, -, -, -, -, hnd⟩ := 
      (effective_fields_are_not_repeated poweredMachines {} .declared).1 k hk
        poweredMachines.classes[0] (List.getElem_mem _)
    obtain ⟨-, -, -, rfl⟩ := compile_eq_ok_iff.1 hk
    exact ⟨_, hk, by decide +kernel, hnd⟩
  · have hdefect : countedMachines.defect? = none := by decide +kernel
    have hrepeats : ¬ (["Motor", "Engine", "Part"].reverse.flatMap
        countedMachines.fieldNames).Nodup := by decide +kernel
    refine ⟨hdefect,
      ((effective_fields_are_not_repeated countedMachines {} .declared).2 hdefect).1 ?_⟩
    exact ⟨countedMachines.classes[0], List.getElem_mem _, _, hchain _, hrepeats⟩

end Model

end Blueprint
