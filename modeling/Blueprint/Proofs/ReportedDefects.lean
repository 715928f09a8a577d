import Blueprint.Proofs.Columns
import Blueprint.Proofs.CycleSearch
import Blueprint.Proofs.Exclusivity

/-!
# Reported defects

A model is rejected for a defect that it has. Each cause names declarations, and for each the
declarations that it names are really at fault: what is said to come twice does, what is said to be
unknown is mentioned and not declared, and so on. Of two declarations that clash each is there for
itself, also where the same class declares both.
-/
namespace Blueprint

open Relation (TransGen ReflTransGen)

/-! ## What needs a column -/

/-- The name of the column or reference that an attribute becomes. -/
def Property.columnName (p : Property) : String :=
  match p.type with
  | some (.ofClass _) => p.name ++ "_id"
  | _ => p.name

/-- What a column in the table of a class is for. -/
inductive ColumnNeed where
  | identity
  | discriminator
  | ofAttribute (p : Property)
  /-- A reference that the class holds, to the end of that role. -/
  | reference (association role : String)
  deriving DecidableEq

namespace ColumnNeed

def column : ColumnNeed → String
  | identity => "id"
  | discriminator => "type"
  | ofAttribute p => p.columnName
  | reference _ role => role ++ "_id"

/-- The field that is named where two columns clash. -/
def field : ColumnNeed → String
  | identity => "id"
  | discriminator => "type"
  | ofAttribute p => p.name
  | reference _ role => role

end ColumnNeed

/-- The class at the end `own` holds the reference to the end `opposite`. Where both ends admit one
only, it is held at the second of them if the first one demands an instance and the second does not,
and otherwise at the first. -/
structure Association.HoldsReference (a : Association) (own opposite : Property) : Prop where
  joins : a.Joins own opposite
  single : opposite.AdmitsOne
  settled : own.AdmitsOne →
    a.Faces .first own opposite ∧ (own.Demands → opposite.Demands) ∨
      a.Faces .second own opposite ∧ opposite.Demands ∧ ¬ own.Demands

namespace Model

variable (m : Model)

/-- The table of the class has a column for that. -/
def Needs (d : ClassDecl) : ColumnNeed → Prop
  | .identity => True
  | .discriminator => (∃ specific, m.HasGeneral specific d.name) ∧
      ∀ general, ¬ m.HasGeneral d.name general
  | .ofAttribute p => p ∈ d.attributes
  | .reference association role => ∃ a ∈ m.associations, a.name = association ∧
      ∃ own opposite, a.HoldsReference own opposite ∧
        own.type = some (.ofClass d.name) ∧ opposite.name = role

/-! ## What is wrong with a model -/

/-- The property is an end of the association of that name, which has two ends. -/
def HasEnd (association : String) (p : Property) : Prop :=
  ∃ a ∈ m.associations, a.name = association ∧ a.ends.length = 2 ∧ p ∈ a.ends

/-- The property is an attribute of the class of that name, or an end of the association. -/
def Owns (owner : String) (p : Property) : Prop :=
  (∃ d ∈ m.classes, d.name = owner ∧ p ∈ d.attributes) ∨ m.HasEnd owner p

/-- Something that goes by the name mentions a type: a property has it, or one class of a
generalization mentions the other. -/
inductive Mentions : String → TypeRef → Prop
  | ofProperty {owner : String} {p : Property} {t : TypeRef} (howner : m.Owns owner p)
      (htype : p.type = some t) : Mentions (owner ++ "." ++ p.name) t
  | general {specific general : String} (h : m.HasGeneral specific general) :
      Mentions specific (.ofClass general)
  | specific {specific general : String} (h : m.HasGeneral specific general) :
      Mentions general (.ofClass specific)

/-- The model has the defect. -/
def Has : Defect → Prop
  | .untypedProperty owner property =>
    ∃ p, m.Owns owner p ∧ p.name = property ∧ p.type = none
  | .duplicateType name => 2 ≤ (m.classNames ++ m.enumerationNames).count name
  | .duplicateTable table first second => first ≠ second ∧
      first ∈ m.classNames ∧ second ∈ m.classNames ∧
      tableName first = table ∧ tableName second = table
  | .duplicateAssociation name => 2 ≤ (m.associations.map (·.name)).count name
  | .duplicateAttribute ofClass name => ∃ d ∈ m.classes, d.name = ofClass ∧
      2 ≤ (d.attributes.map (·.name)).count name
  | .duplicateLiteral enumeration literal => ∃ e ∈ m.enumerations, e.name = enumeration ∧
      2 ≤ e.literals.count literal
  | .unknownClass referencedBy name =>
    name ∉ m.classNames ∧ m.Mentions referencedBy (.ofClass name)
  | .unknownEnumeration referencedBy name =>
    name ∉ m.enumerationNames ∧ m.Mentions referencedBy (.ofEnumeration name)
  | .endNotClass association role => ∃ p t, m.HasEnd association p ∧ p.name = role ∧
      p.type = some t ∧ ∀ name, t ≠ .ofClass name
  | .missingMultiplicity association role =>
    ∃ p, m.HasEnd association p ∧ p.name = role ∧ p.multiplicity = none
  | .invalidMultiplicity owner property μ =>
    ∃ p, m.Owns owner p ∧ p.name = property ∧ p.multiplicity = some μ ∧ ¬ μ.Valid
  | .multipleGenerals specific first second => first ≠ second ∧
      m.HasGeneral specific first ∧ m.HasGeneral specific second
  | .generalizationCycle through => TransGen m.HasGeneral through through
  | .duplicateField ofClass field declaredBy => ofClass ∈ m.classNames ∧
      ReflTransGen m.HasGeneral ofClass declaredBy ∧
      field ∈ m.fieldsOf ofClass ∧ field ∈ m.fieldsOf declaredBy ∧
      (declaredBy = ofClass → 2 ≤ (m.fieldsOf ofClass).count field)
  | .duplicateColumn table column first second => ∃ d ∈ m.classes, tableName d.name = table ∧
      ∃ x y, x ≠ y ∧ m.Needs d x ∧ m.Needs d y ∧ x.column = column ∧ y.column = column ∧
        x.field = first ∧ y.field = second

variable {m} {defect : Defect} {a : Association} {d : ClassDecl} {p : Property}
  {order : StartOrder}

/-! ## Names of types and tables -/

lemma has_of_typeNameDefect? (h : m.typeNameDefect? = some defect) : m.Has defect := by
  obtain ⟨name, hrepeat, rfl⟩ := Option.map_eq_some_iff.1 h
  exact two_le_count_of_firstRepeat hrepeat

/-- The names of the two classes are different since no class name comes twice. -/
lemma has_of_tableNameDefect? (hnd : m.classNames.Nodup) (h : m.tableNameDefect? = some defect) :
    m.Has defect := by
  obtain ⟨⟨table, first, second⟩, hclash, rfl⟩ := Option.map_eq_some_iff.1 h
  have hsub := sublist_of_firstClash_nil hclash
  have htable : ∀ x ∈ [(table, first), (table, second)],
      x.2 ∈ m.classNames ∧ tableName x.2 = x.1 := by
    intro x hx
    obtain ⟨d, hd, rfl⟩ := List.mem_map.1 (hsub.subset hx)
    exact ⟨List.mem_map_of_mem hd, rfl⟩
  obtain ⟨hfirst, hfirstTable⟩ := htable _ (.head _)
  obtain ⟨hsecond, hsecondTable⟩ := htable _ (.tail _ (.head _))
  refine ⟨?_, hfirst, hsecond, hfirstTable, hsecondTable⟩
  have hnames : [first, second].Sublist m.classNames := by
    simpa [classNames, Function.comp_def] using hsub.map Prod.snd
  simpa using hnd.sublist hnames

/-! ## Properties -/

lemma has_of_multiplicityDefect? {owner : String} (howner : m.Owns owner p)
    (h : p.multiplicityDefect? owner = some defect) : m.Has defect := by
  unfold Property.multiplicityDefect? at h
  cases hμ : p.multiplicity with
  | none => simp [hμ] at h
  | some μ =>
    by_cases hvalid : μ.isValid = true
    · simp [hμ, hvalid] at h
    · obtain rfl : Defect.invalidMultiplicity owner p.name μ = defect := by
        simpa [hμ, hvalid] using h
      exact ⟨p, howner, rfl, hμ, fun hv => hvalid (μ.isValid_iff.2 hv)⟩

lemma has_of_attributeDefect? (hd : d ∈ m.classes) (hp : p ∈ d.attributes)
    (h : m.attributeDefect? d [] p = some defect) : m.Has defect := by
  have howner : m.Owns d.name p := .inl ⟨d, hd, rfl, hp⟩
  simp only [attributeDefect?, List.any_nil, Bool.false_eq_true, if_false, declaresClass_iff,
    declaresEnumeration_iff] at h
  rcases htype : p.type with _ | (q | name | name)
  · obtain rfl : Defect.untypedProperty d.name p.name = defect := by simpa [htype] using h
    exact ⟨p, howner, rfl, htype⟩
  · exact has_of_multiplicityDefect? howner (by simpa [htype] using h)
  · by_cases hname : name ∈ m.classNames
    · exact has_of_multiplicityDefect? howner (by simpa [htype, hname] using h)
    · obtain rfl : Defect.unknownClass (d.name ++ "." ++ p.name) name = defect := by
        simpa [htype, hname] using h
      exact ⟨hname, .ofProperty howner htype⟩
  · by_cases hname : name ∈ m.enumerationNames
    · exact has_of_multiplicityDefect? howner (by simpa [htype, hname] using h)
    · obtain rfl : Defect.unknownEnumeration (d.name ++ "." ++ p.name) name = defect := by
        simpa [htype, hname] using h
      exact ⟨hname, .ofProperty howner htype⟩

lemma has_of_classDefect? (hd : d ∈ m.classes) (h : m.classDefect? d = some defect) :
    m.Has defect := by
  obtain ⟨p, hp, hdefect | ⟨hclash, hcount⟩⟩ := exists_of_findSome?_withPrior Property.name
    (fun prior p => attributeDefect?_eq d prior p) h
  · exact has_of_attributeDefect? hd hp hdefect
  · obtain rfl := Option.some.inj hclash
    exact ⟨d, hd, rfl, by simpa using hcount⟩

lemma has_of_endDefect? (ha : a ∈ m.associations) (hbinary : a.ends.length = 2) (hp : p ∈ a.ends)
    (h : m.endDefect? a p = some defect) : m.Has defect := by
  have hend : m.HasEnd a.name p := ⟨a, ha, rfl, hbinary, hp⟩
  unfold endDefect? at h
  rcases htype : p.type with _ | (q | name | name)
  · obtain rfl : Defect.untypedProperty a.name p.name = defect := by simpa [htype] using h
    exact ⟨p, .inr hend, rfl, htype⟩
  · obtain rfl : Defect.endNotClass a.name p.name = defect := by simpa [htype] using h
    exact ⟨p, _, hend, rfl, htype, by simp⟩
  · by_cases hname : name ∈ m.classNames
    · have hdeclared : m.declaresClass name = true := (m.declaresClass_iff name).2 hname
      by_cases hμ : p.multiplicity = none
      · obtain rfl : Defect.missingMultiplicity a.name p.name = defect := by
          simpa [htype, hdeclared, hμ] using h
        exact ⟨p, hend, rfl, hμ⟩
      · exact has_of_multiplicityDefect? (.inr hend) (by simpa [htype, hdeclared, hμ] using h)
    · have hunknown : ¬ m.declaresClass name = true := fun hd =>
        hname ((m.declaresClass_iff name).1 hd)
      obtain rfl : Defect.unknownClass (a.name ++ "." ++ p.name) name = defect := by
        simpa [htype, hunknown] using h
      exact ⟨hname, .ofProperty (.inr hend) htype⟩
  · obtain rfl : Defect.endNotClass a.name p.name = defect := by simpa [htype] using h
    exact ⟨p, _, hend, rfl, htype, by simp⟩

lemma has_of_associationDefects (h : ((withPrior [] m.associations).findSome? fun (prior, a) =>
    m.associationDefect? prior a) = some defect) : m.Has defect := by
  obtain ⟨a, ha, hdefect | ⟨hclash, hcount⟩⟩ := exists_of_findSome?_withPrior Association.name
    (fun prior a => associationDefect?_eq prior a) h
  · by_cases hbinary : a.ends.length = 2
    · have hends : a.ends.findSome? (m.endDefect? a) = some defect := by
        simpa [associationDefect?, Association.isBinary, hbinary] using hdefect
      obtain ⟨p, hp, hdefect⟩ := List.exists_of_findSome?_eq_some hends
      exact has_of_endDefect? ha hbinary hp hdefect
    · simp [associationDefect?, Association.isBinary, hbinary] at hdefect
  · obtain rfl := Option.some.inj hclash
    simpa [Has] using hcount

/-! ## Generalizations -/

/-- All that has been recorded when a generalization is added has been declared. -/
lemma has_of_addParents {parents : Parents} {gs : List Generalization}
    (hparents : ∀ specific general, parents.lookup specific = some general →
      m.HasGeneral specific general)
    (hgs : gs ⊆ m.generalizations) (h : m.addParents parents gs = .error defect) :
    m.Has defect := by
  induction gs generalizing parents with
  | nil => simp [addParents] at h
  | cons g gs ih =>
    obtain ⟨hg, hrest⟩ := List.cons_subset.1 hgs
    have hdeclared : m.HasGeneral g.specific g.general := hg
    simp only [addParents, Bool.not_eq_true', ← Bool.not_eq_true, declaresClass_iff] at h
    by_cases hgeneral : g.general ∈ m.classNames
    · by_cases hspecific : g.specific ∈ m.classNames
      · simp only [hgeneral, hspecific, not_true_eq_false, if_false] at h
        cases hl : parents.lookup g.specific with
        | none =>
          rw [hl] at h
          refine ih (fun specific general hlookup => ?_) hrest h
          rcases (lookup_append_new hl specific general).1 hlookup with hlookup | ⟨rfl, rfl⟩
          · exact hparents specific general hlookup
          · exact hdeclared
        | some general =>
          by_cases hsame : general = g.general
          · exact ih hparents hrest (by simpa [hl, hsame] using h)
          · obtain rfl : Defect.multipleGenerals g.specific general g.general = defect := by
              simpa [hl, hsame] using h
            exact ⟨hsame, hparents _ _ hl, hdeclared⟩
      · obtain rfl : Defect.unknownClass g.general g.specific = defect := by
          simpa [hgeneral, hspecific] using h
        exact ⟨hspecific, .specific hdeclared⟩
    · obtain rfl : Defect.unknownClass g.specific g.general = defect := by
        simpa [hgeneral] using h
      exact ⟨hgeneral, .general hdeclared⟩

lemma has_of_generalizationDefect? (h : m.generalizationDefect? order = some defect) :
    m.Has defect := by
  cases hall : m.addParents [] m.generalizations with
  | error other =>
    obtain rfl : other = defect := by simpa [generalizationDefect?, hall] using h
    exact has_of_addParents (by simp) (List.Subset.refl _) hall
  | ok all =>
    have hcycle := (generalizationDefect?_eq_map hall order).symm.trans h
    obtain ⟨name, -, rfl⟩ := Option.map_eq_some_iff.1 hcycle
    exact transGen_of_generalizationDefect? h hall

/-- What the checks of a model by itself find is there. -/
theorem has_of_defect? (h : m.defect? order = some defect) : m.Has defect := by
  simp only [defect?, Option.or_eq_some_iff] at h
  rcases h with ((((h | ⟨htypes, h⟩) | ⟨-, h⟩) | ⟨-, h⟩) | ⟨-, h⟩) | ⟨-, h⟩
  · exact has_of_typeNameDefect? h
  · have hnd := (List.nodup_append.1 (typeNameDefect?_eq_none_iff.1 htypes)).1
    exact has_of_tableNameDefect? hnd h
  · obtain ⟨d, hd, hdefect⟩ := List.exists_of_findSome?_eq_some h
    exact has_of_classDefect? hd hdefect
  · obtain ⟨e, he, hdefect⟩ := List.exists_of_findSome?_eq_some h
    obtain ⟨literal, hrepeat, rfl⟩ := Option.map_eq_some_iff.1 hdefect
    exact ⟨e, he, rfl, two_le_count_of_firstRepeat hrepeat⟩
  · exact has_of_associationDefects h
  · exact has_of_generalizationDefect? h

end Model

/-! ## Fields -/

namespace Catalog

/-- The field is declared by the class at `i` and again by the one at `j`, which is below it. If they
are the same it is declared twice there. -/
structure Clash (c : Catalog) (field : String) (i j : ClassId) : Prop where
  above : i ∈ c.lineage j
  first : field ∈ c.ownFieldNames i
  second : field ∈ c.ownFieldNames j
  twice : i = j → 2 ≤ (c.ownFieldNames j).count field

variable {c : Catalog} {field first second : String} {id i : ClassId}

lemma Coherent.clash_self (hc : c.Coherent) (h : 2 ≤ (c.ownFieldNames i).count field) :
    c.Clash field i i := by
  have hmem := List.count_pos_iff.1 (Nat.lt_of_lt_of_le Nat.two_pos h)
  have habove : i ∈ c.lineage i := by
    rw [hc.lineage_eq_ancestors_append]
    exact List.mem_append_right _ (List.mem_singleton_self i)
  exact ⟨habove, hmem, hmem, fun _ => h⟩

/-- Two fields of one name along a lineage are of one class, or of two of which the first is above
the second. -/
theorem Coherent.exists_clash_of_chainFields (hc : c.Coherent)
    (h : [(field, first), (field, second)].Sublist (c.chainFields id)) :
    ∃ i j, i ∈ c.lineage id ∧ j ∈ c.lineage id ∧
      c.className i = first ∧ c.className j = second ∧ c.Clash field i j := by
  rcases sublist_flatMap_pair h with ⟨i, hi, hsub⟩ | ⟨i, j, hsub, hfirst, hsecond⟩
  · have hclass : ∀ x ∈ [(field, first), (field, second)], c.className i = x.2 := by
      intro x hx
      obtain ⟨_, -, rfl⟩ := List.mem_map.1 (hsub.subset hx)
      rfl
    have hcount : 2 ≤ (c.ownFieldNames i).count field := by
      rw [two_le_count_iff_sublist]
      simpa [Function.comp_def] using hsub.map Prod.fst
    exact ⟨i, i, hi, hi, hclass _ (.head _), hclass _ (.tail _ (.head _)), hc.clash_self hcount⟩
  · obtain ⟨_, hfieldi, heq⟩ := List.mem_map.1 hfirst
    obtain ⟨rfl, rfl⟩ := Prod.mk.inj heq
    obtain ⟨_, hfieldj, heq⟩ := List.mem_map.1 hsecond
    obtain ⟨rfl, rfl⟩ := Prod.mk.inj heq
    have hbelow := List.pairwise_iff_forall_sublist.1 (hc.pairwise_lineage id) hsub
    have hne : i ≠ j := List.pairwise_iff_forall_sublist.1 (hc.nodup_lineage id) hsub
    exact ⟨i, j, hsub.subset (.head _), hsub.subset (.tail _ (.head _)), rfl, rfl,
      hbelow.1, hfieldi, hfieldj, fun hsame => absurd hsame hne⟩

end Catalog

namespace Model.Sound

variable {m : Model} {defect : Defect} (hm : m.Sound)
include hm

lemma reaches_of_mem_lineage {id i : ClassId} (hid : id < m.resolved.classes.length)
    (h : i ∈ m.resolved.lineage id) :
    ReflTransGen m.HasGeneral (m.resolved.className id) (m.resolved.className i) := by
  have hascent := (hm.ascent_iff hid).2 rfl
  refine hascent.reaches ?_
  rw [List.mem_reverse]
  exact List.mem_map_of_mem h

theorem has_of_fieldDefect? (h : m.resolved.fieldDefect? = some defect) : m.Has defect := by
  have hc := hm.coherent_resolved
  obtain ⟨entry, hentry, hdefect⟩ := List.exists_of_findSome?_eq_some h
  obtain ⟨⟨field, declaredBy, ofClass⟩, hfound, rfl⟩ := Option.map_eq_some_iff.1 hdefect
  obtain ⟨i, j, hi, hj, rfl, rfl, hclash⟩ :=
    hc.exists_clash_of_chainFields (sublist_of_firstClash_nil hfound)
  have hilt := hc.lt_of_mem_lineage (hc.id_lt hentry) hi
  have hjlt := hc.lt_of_mem_lineage (hc.id_lt hentry) hj
  have hfieldsi := hm.ownFieldNames_perm (orderedNames_getElem? hilt)
  have hfieldsj := hm.ownFieldNames_perm (orderedNames_getElem? hjlt)
  refine ⟨mem_orderedNames.1 (List.mem_of_getElem? (orderedNames_getElem? hjlt)),
    hm.reaches_of_mem_lineage hjlt hclash.above, hfieldsj.subset hclash.second,
    hfieldsi.subset hclash.first, fun hsame => ?_⟩
  rw [← hfieldsj.count_eq]
  exact hclash.twice (hc.className_inj hilt hjlt hsame)

end Model.Sound

/-! ## Columns -/

lemma Relationship.mandatory_of_owner {r : Relationship} {side : Side}
    (h : r.ownerSide? = some side) (hsingle : (r.endAt side).multiplicity.isMany = false) :
    match side with
    | .first => r.first.multiplicity.isMandatory = true → r.second.multiplicity.isMandatory = true
    | .second => r.second.multiplicity.isMandatory = false ∧
        r.first.multiplicity.isMandatory = true := by
  have hopposite := isMany_opposite_of_owner h
  cases side with
  | first =>
    have hfirst : r.first.multiplicity.isMany = false := hsingle
    have hsecond : r.second.multiplicity.isMany = false := hopposite
    simp only [ownerSide?, hfirst, hsecond, Multiplicity.isOptional_eq] at h
    cases hμ : r.first.multiplicity.isMandatory <;>
      cases hν : r.second.multiplicity.isMandatory <;> simp [hμ, hν] at h ⊢
  | second =>
    have hfirst : r.first.multiplicity.isMany = false := hopposite
    have hsecond : r.second.multiplicity.isMany = false := hsingle
    simp only [ownerSide?, hfirst, hsecond, Multiplicity.isOptional_eq] at h
    cases hμ : r.first.multiplicity.isMandatory <;>
      cases hν : r.second.multiplicity.isMandatory <;> simp [hμ, hν] at h ⊢

namespace Model

variable {m : Model} {defect : Defect} {a : Association} {d : ClassDecl} {order : StartOrder}

/-- What the columns of the table of a class are for, in their order. -/
def columnNeeds (m : Model) (id : ClassId) (d : ClassDecl) : List ColumnNeed :=
  .identity :: ((if (m.entryAt id d).isHierarchyRoot then [.discriminator] else []) ++
    (d.attributes.map .ofAttribute ++
      (m.resolved.placements.ownedBy id).map fun key => .reference key.association key.role))

lemma columnName_resolvedAttribute (names : List String) (p : Property) :
    (resolvedAttribute names p).columnName = p.columnName := by
  unfold resolvedAttribute Property.columnName
  rcases p.type with _ | (q | name | name) <;> rfl

lemma producedColumns_entryAt (m : Model) (id : ClassId) (d : ClassDecl) :
    Catalog.producedColumns m.resolved.placements (m.entryAt id d) =
      (m.columnNeeds id d).map fun x => (x.column, x.field) := by
  have hroot : ((if (m.entryAt id d).isHierarchyRoot then [ColumnNeed.discriminator] else []).map
      fun x => (x.column, x.field)) =
      if (m.entryAt id d).isHierarchyRoot then [(discriminatorColumn, discriminatorColumn)]
      else [] := by
    split <;> rfl
  have hattributes : (m.entryAt id d).attributes.map (fun a => (a.columnName, a.name)) =
      d.attributes.map fun p => (p.columnName, p.name) := by
    rw [entryAt, List.map_map]
    refine List.map_congr_left fun p _ => ?_
    rw [Function.comp_apply, columnName_resolvedAttribute]
    rfl
  rw [Catalog.producedColumns_eq, columnNeeds, List.map_cons, List.map_append, List.map_append,
    hroot, hattributes, List.map_map, List.map_map]
  rfl

lemma holdsReference_of_owner {c : Catalog} {r : Relationship} {side : Side}
    {own opposite : Property} (howner : r.ownerSide? = some side)
    (hfaces : a.Faces side own opposite) (hown : c.IsEnd (r.endAt side) own)
    (hopposite : c.IsEnd (r.endAt side.opposite) opposite) : a.HoldsReference own opposite where
  joins := hfaces.1
  single := (Property.admitsOne_iff hopposite.multiplicity).2 (r.isMany_opposite_of_owner howner)
  settled hsingle := by
    have hmandatory := r.mandatory_of_owner howner
      ((Property.admitsOne_iff hown.multiplicity).1 hsingle)
    rw [Property.demands_iff hown.multiplicity, Property.demands_iff hopposite.multiplicity]
    cases side with
    | first => exact .inl ⟨hfaces, hmandatory⟩
    | second => exact .inr ⟨hfaces, hmandatory.2, Bool.eq_false_iff.1 hmandatory.1⟩

namespace Sound

variable (hm : m.Sound)
include hm

/-- No two columns of a table are for the same, since attributes and associations have their names
to themselves. -/
lemma nodup_columnNeeds (hd : d ∈ m.classes) (id : ClassId) : (m.columnNeeds id d).Nodup := by
  have hattributes : (d.attributes.map ColumnNeed.ofAttribute).Nodup :=
    (List.Nodup.of_map _ (hm.attributeNames d hd)).map fun p q h => ColumnNeed.ofAttribute.inj h
  have hkeys : ((m.resolved.placements.ownedBy id).map fun key =>
      ColumnNeed.reference key.association key.role).Nodup := by
    have hstrict := hm.coherent_resolved.associations_ownedBy_strict id
    refine List.pairwise_map.2 ((List.pairwise_map.1 hstrict).imp fun hlt heq => ?_)
    exact Std.ne_of_lt hlt (ColumnNeed.reference.inj heq).1
  have hdisjoint : (d.attributes.map ColumnNeed.ofAttribute).Disjoint
      ((m.resolved.placements.ownedBy id).map fun key =>
        ColumnNeed.reference key.association key.role) := by
    simp [List.disjoint_left]
  have hrest := List.nodup_append'.2 ⟨hattributes, hkeys, hdisjoint⟩
  unfold columnNeeds
  split <;> simp [hrest]

variable (hfields : m.resolved.fieldDefect? = none)
include hfields

omit hfields in
/-- The discriminator is in the table of a class that is generalized by none and generalizes one. -/
lemma needs_discriminator {id : ClassId} (hentry : m.resolved.entry? id = some (m.entryAt id d))
    (hroot : (m.entryAt id d).isHierarchyRoot = true) : m.Needs d .discriminator := by
  have hid : m.orderedNames[id]? = some d.name :=
    orderedNames_getElem?_eq_some_iff.2 ⟨_, hentry, rfl⟩
  obtain ⟨htop, hspecifics⟩ : (m.entryAt id d).general = none ∧ (m.entryAt id d).specifics ≠ [] := by
    simpa [ClassEntry.isHierarchyRoot] using hroot
  constructor
  · obtain ⟨i, hi⟩ := List.exists_mem_of_ne_nil _ hspecifics
    obtain ⟨specific, general, -, hname, hgeneral⟩ :=
      hm.general?_resolved_iff.1 ((hm.mem_specifics_iff hentry).1 hi)
    obtain rfl := Option.some.inj (hid.symm.trans hname)
    exact ⟨specific, hgeneral⟩
  · intro general hgeneral
    obtain ⟨i, hi⟩ := List.mem_iff_getElem?.1 (mem_orderedNames.2 (hm.declared _ hgeneral).1)
    have hsome := hm.general?_resolved_iff.2 ⟨_, _, hid, hi, hgeneral⟩
    simp [Catalog.general?, hentry, htop] at hsome

/-- A reference that a class holds stores an association at one end of which the class is. -/
lemma exists_holdsReference_of_mem {id : ClassId} {key : ForeignKey}
    (h : key ∈ m.resolved.placements.ownedBy id) :
    ∃ a ∈ m.associations, a.name = key.association ∧ ∃ own opposite,
      a.HoldsReference own opposite ∧ own.type = some (.ofClass (m.resolved.className id)) ∧
        opposite.name = key.role := by
  have hc := hm.coherent_resolved
  obtain ⟨rfl, hget⟩ := hc.mem_ownedBy_iff.1 h
  obtain ⟨r, hr, hname, hplace⟩ := hc.get?_placements_eq_some_iff.1 hget
  obtain ⟨side, howner, rfl⟩ := Catalog.owner_of_place_eq hplace
  obtain ⟨a, ha, hassociation, own, opposite, hfaces, hown, hopposite⟩ :=
    hm.exists_faces_of_mem hfields hr side
  exact ⟨a, ha, hassociation.symm.trans hname, own, opposite,
    holdsReference_of_owner howner hfaces hown hopposite, hown.type, hopposite.role.symm⟩

lemma needs_of_mem_columnNeeds {id : ClassId}
    (hentry : m.resolved.entry? id = some (m.entryAt id d)) {x : ColumnNeed}
    (h : x ∈ m.columnNeeds id d) : m.Needs d x := by
  have hname : m.resolved.className id = d.name := Catalog.className_eq hentry
  simp only [columnNeeds, List.mem_cons, List.mem_append, List.mem_map] at h
  rcases h with rfl | h | ⟨p, hp, rfl⟩ | ⟨key, hkey, rfl⟩
  · trivial
  · by_cases hroot : (m.entryAt id d).isHierarchyRoot = true
    · obtain rfl : x = .discriminator := by simpa [hroot] using h
      exact hm.needs_discriminator hentry hroot
    · simp [hroot] at h
  · exact hp
  · obtain ⟨a, ha, hassociation, own, opposite, hholds, htype, hrole⟩ :=
      hm.exists_holdsReference_of_mem hfields hkey
    exact ⟨a, ha, hassociation, own, opposite, hholds, hname ▸ htype, hrole⟩

/-- Columns with one name are for two different needs of the class. -/
theorem has_of_columnDefect?
    (h : m.resolved.columnDefect? m.resolved.placements = some defect) : m.Has defect := by
  obtain ⟨entry, hmem, hdefect⟩ := List.exists_of_findSome?_eq_some h
  obtain ⟨⟨column, first, second⟩, hclash, rfl⟩ := Option.map_eq_some_iff.1 hdefect
  obtain ⟨id, hentry⟩ := List.mem_iff_getElem?.1 hmem
  obtain ⟨d, hd, rfl⟩ := exists_decl_of_entry? hentry
  rw [producedColumns_entryAt] at hclash
  obtain ⟨needs, hsub, heq⟩ := List.sublist_map_iff.1 (sublist_of_firstClash_nil hclash)
  obtain ⟨x, y, rfl⟩ : ∃ x y, needs = [x, y] := by
    refine List.length_eq_two.1 ?_
    simpa using (congrArg List.length heq).symm
  obtain ⟨⟨hx, hfirst⟩, hy, hsecond⟩ : (column = x.column ∧ first = x.field) ∧
      column = y.column ∧ second = y.field := by simpa using heq
  have hne : x ≠ y := by simpa using (hm.nodup_columnNeeds hd id).sublist hsub
  exact ⟨d, hd, rfl, x, y, hne,
    hm.needs_of_mem_columnNeeds hfields hentry (hsub.subset (.head _)),
    hm.needs_of_mem_columnNeeds hfields hentry (hsub.subset (.tail _ (.head _))),
    hx.symm, hy.symm, hfirst.symm, hsecond.symm⟩

end Sound

lemma has_of_ofModel (h : Catalog.ofModel m order = .error defect) : m.Has defect := by
  rcases Catalog.ofModel_eq_error_iff.1 h with h | ⟨hm, h⟩
  · exact has_of_defect? h
  · exact hm.has_of_fieldDefect? h

/-- If no catalog is made of a model, or nothing is compiled from it, the model has the defect that
is reported, in whatever order its cycles are searched for. -/
theorem reported_defects_are_present (m : Model) (o : Options) (order : StartOrder) :
    (∀ defect, Catalog.ofModel m order = .error defect → m.Has defect) ∧
      ∀ defect, m.compile o order = .error defect → m.Has defect := by
  refine ⟨fun defect h => has_of_ofModel h, fun defect h => ?_⟩
  rcases compile_eq_error_iff_ofModel.1 h with h | ⟨hm, hfields, hcolumns⟩
  · exact has_of_ofModel h
  · exact hm.has_of_columnDefect? hfields hcolumns

/-- A harbour where ferries are ships, and ships lie at berths. -/
def harbour (shipAttributes ferryAttributes : List Property) : Model where
  name := "Harbour"
  classes := [
    ⟨"Ship", shipAttributes, false⟩,
    ⟨"Ferry", ferryAttributes, false⟩,
    ⟨"Berth", [⟨"depth", some (.primitive .float), none⟩], false⟩]
  enumerations := []
  associations := [
    ⟨"lies", [⟨"berth", some (.ofClass "Berth"), some .one⟩,
      ⟨"ships", some (.ofClass "Ship"), some .many⟩]⟩]
  generalizations := [⟨"Ship", "Ferry"⟩]

/-- Ferries have the berth of a ship and one of their own. -/
def ferryBerths : Model := harbour [] [⟨"berth", some (.primitive .string), none⟩]

/-- Ships have the number of a berth next to the reference to it. -/
def numberedBerths : Model := harbour [⟨"berth_id", some (.primitive .integer), none⟩] []

theorem harbour_berths_clash :
    Catalog.ofModel ferryBerths = .error (.duplicateField "Ferry" "berth" "Ship") ∧
    ferryBerths.Has (.duplicateField "Ferry" "berth" "Ship") ∧
    numberedBerths.compile {} = .error (.duplicateColumn "ship" "berth_id" "berth_id" "berth") ∧
    numberedBerths.Has (.duplicateColumn "ship" "berth_id" "berth_id" "berth") := by
  have hfield : Catalog.ofModel ferryBerths =
      .error (.duplicateField "Ferry" "berth" "Ship") := by rfl
  have hcolumn : numberedBerths.compile {} =
      .error (.duplicateColumn "ship" "berth_id" "berth_id" "berth") := by rfl
  exact ⟨hfield, (reported_defects_are_present _ {} .declared).1 _ hfield,
    hcolumn, (reported_defects_are_present _ {} .declared).2 _ hcolumn⟩

end Model

end Blueprint
