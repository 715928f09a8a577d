import Blueprint.Compiled
import Blueprint.Proofs.Resolution

/-!
# Accepted models

A catalog is made of a model exactly if the model is well formed. The checks of a model by itself
amount to its soundness; what is left is that the fields of the catalog along a lineage are, up to
their order, those that the classes along the chain of generals contribute. What is compiled from a
model follows from its resolved catalog, if its fields and its columns do not repeat.
-/
namespace Blueprint

open Model (resolvedEnd relationship? relate)

namespace Catalog

variable {c : Catalog} {m : Model} {order : StartOrder}

/-- A catalog is made of a sound model whose fields do not repeat, and it is the resolved one. -/
theorem ofModel_eq_ok_iff :
    ofModel m order = .ok c ↔ m.Sound ∧ m.resolved.fieldDefect? = none ∧ c = m.resolved := by
  rw [← Model.defect?_eq_none_iff]
  unfold ofModel
  cases hd : m.defect? order with
  | some defect => simp
  | none =>
    rw [Model.assemble_eq_ok (Model.defect?_eq_none_iff.1 hd)]
    cases hf : m.resolved.fieldDefect? with
    | some defect => simp [hf]
    | none => simp [hf, eq_comm]

/-- Assembling a model that passes its checks succeeds, so that nothing but a repeated field is left
to reject it for. -/
theorem ofModel_eq_error_iff {defect : Defect} : ofModel m order = .error defect ↔
    m.defect? order = some defect ∨ m.Sound ∧ m.resolved.fieldDefect? = some defect := by
  rw [← Model.defect?_eq_none_iff]
  unfold ofModel
  cases hd : m.defect? order with
  | some other => simp
  | none =>
    rw [Model.assemble_eq_ok (Model.defect?_eq_none_iff.1 hd)]
    cases hf : m.resolved.fieldDefect? <;> simp [hf]

lemma ownFieldNames_eq (id : ClassId) : c.ownFieldNames id =
    ((c.entry? id).map fun entry => entry.attributes.map (·.name)).getD [] ++
      (c.endsOf id).map fun e => (e.1.endAt e.2.opposite).role := rfl

lemma map_fst_chainFields (id : ClassId) :
    (c.chainFields id).map (·.1) = (c.lineage id).flatMap c.ownFieldNames := by
  simp [chainFields, List.map_flatMap, Function.comp_def]

theorem fieldDefect?_eq_none_iff :
    c.fieldDefect? = none ↔
      ∀ entry ∈ c.classes, ((c.lineage entry.id).flatMap c.ownFieldNames).Nodup := by
  simp [fieldDefect?, firstClash_nil_eq_none_iff, map_fst_chainFields]

/-- Classes are meant by their positions. -/
theorem Coherent.fieldDefect?_eq_none_iff (hc : c.Coherent) :
    c.fieldDefect? = none ↔
      ∀ id < c.classes.length, ((c.lineage id).flatMap c.ownFieldNames).Nodup := by
  rw [Catalog.fieldDefect?_eq_none_iff]
  constructor
  · intro h id hid
    have hnd := h _ (List.getElem_mem hid)
    rwa [hc.ids id _ (entry?_of_lt hid)] at hnd
  · intro h entry hentry
    obtain ⟨id, hid, rfl⟩ := List.mem_iff_getElem.1 hentry
    rw [hc.ids id _ (entry?_of_lt hid)]
    exact h id hid

end Catalog

namespace Model

variable {m : Model} {order order' : StartOrder} {id : ClassId} {name : String}

/-! ## Fields of one class -/

lemma map_role_sidesOf_perm (name : String) (x y : RelationshipEnd) (id : ClassId) :
    (((relate name x y).sidesOf id).map fun side =>
      ((relate name x y).endAt side.opposite).role).Perm
      ((if x.classId = id then [y.role] else []) ++ if y.classId = id then [x.role] else []) := by
  unfold relate
  split_ifs with hle hx hy hy <;>
    simp_all [Relationship.sidesOf, Relationship.endAt, Side.opposite, List.Perm.swap]

namespace Sound

variable (hm : m.Sound)
include hm

/-- An association gives a class as fields the roles that face it. -/
lemma roles_relationship?_perm {a : Association} (ha : a ∈ m.associations)
    (hid : m.orderedNames[id]? = some name) :
    ((relationship? m.orderedNames a).toList.flatMap fun r =>
      (r.sidesOf id).map fun side => (r.endAt side.opposite).role).Perm (a.rolesFacing name) := by
  unfold relationship? Association.rolesFacing
  split
  · next p q hends =>
    obtain ⟨hp, hq⟩ := hm.soundEnd_of_joins ha (.inl hends)
    have hperm := map_role_sidesOf_perm a.name (resolvedEnd m.orderedNames p)
      (resolvedEnd m.orderedNames q) id
    simp only [hm.classId_resolvedEnd_eq_iff hp hid, hm.classId_resolvedEnd_eq_iff hq hid] at hperm
    simpa [hends] using hperm
  · next hends => simp

lemma filter_classes_eq {d : ClassDecl} (hd : d ∈ m.classes) :
    m.classes.filter (·.name == d.name) = [d] := filter_eq_singleton_of_nodup hm.classNames_nodup hd

/-- The fields of a class in the catalog are those that it contributes to the model. -/
theorem ownFieldNames_perm (hid : m.orderedNames[id]? = some name) :
    (m.resolved.ownFieldNames id).Perm (m.fieldsOf name) := by
  obtain ⟨d, hd, rfl⟩ : ∃ d, m.orderedClasses[id]? = some d ∧ d.name = name := by
    simpa [orderedNames] using hid
  have hmem : d ∈ m.classes := m.orderedClasses_perm.mem_iff.1 (List.mem_of_getElem? hd)
  have hattributes : ((m.resolved.entry? id).map fun entry =>
      entry.attributes.map (·.name)).getD [] = d.attributes.map (·.name) := by
    simp [entry?_resolved, hd, entryAt, resolvedAttribute, Function.comp_def]
  rw [Catalog.ownFieldNames_eq, hattributes, map_endsOf_resolved, fieldsOf,
    hm.filter_classes_eq hmem, List.flatMap_singleton]
  refine List.Perm.append_left _ (List.Perm.flatMap (sortedByName_perm _ _) fun a ha => ?_)
  exact hm.roles_relationship?_perm (mem_sortedByName.1 ha) hid

/-! ## Chains of generals -/

/-- The chain of a class in the model is its lineage in the catalog, from the other end. -/
theorem ascent_iff (hid : id < m.resolved.classes.length) {chain : List String} :
    Ascent m.HasGeneral (m.resolved.className id) chain ↔
      chain = ((m.resolved.lineage id).map m.resolved.className).reverse := by
  have hc := hm.coherent_resolved
  obtain ⟨ids, hids⟩ := hc.exists_ascent id
  have hlt : ∀ i ∈ ids, i < m.resolved.classes.length := fun i hi =>
    hc.lt_of_mem_lineage hid (by simpa [hc.lineage_eq hids] using hi)
  have hnames : Ascent m.HasGeneral (m.resolved.className id) (ids.map m.resolved.className) := by
    refine hids.map ?_ ?_
    · intro i j hij
      obtain ⟨s, g, hs, hg, hsg⟩ := hm.general?_resolved_iff.1 hij
      rwa [className_resolved hs, className_resolved hg]
    · intro i hi htop general hgeneral
      obtain ⟨j, hj⟩ := List.mem_iff_getElem?.1 (mem_orderedNames.2 (hm.declared _ hgeneral).1)
      exact htop j (hm.general?_resolved_iff.2
        ⟨_, _, orderedNames_getElem? (hlt i hi), hj, hgeneral⟩)
  rw [hc.lineage_eq hids, List.map_reverse, List.reverse_reverse]
  exact ⟨fun h => h.unique hm.general_unique hnames, fun h => h ▸ hnames⟩

/-- The fields of the catalog along a lineage are those contributed along the chain. -/
theorem lineage_fields_perm (hid : id < m.resolved.classes.length) :
    ((m.resolved.lineage id).flatMap m.resolved.ownFieldNames).Perm
      (((m.resolved.lineage id).map m.resolved.className).reverse.flatMap m.fieldsOf) := by
  have hlt := fun i hi => hm.coherent_resolved.lt_of_mem_lineage (x := i) hid hi
  rw [← List.map_reverse, List.flatMap_map]
  refine List.Perm.flatMap (List.reverse_perm _).symm fun i hi => ?_
  exact hm.ownFieldNames_perm (orderedNames_getElem? (hlt i (by simpa using hi)))

theorem fieldDefect?_eq_none_iff :
    m.resolved.fieldDefect? = none ↔
      ∀ c ∈ m.classes,
        ∃ chain, Ascent m.HasGeneral c.name chain ∧ (chain.flatMap m.fieldsOf).Nodup := by
  rw [hm.coherent_resolved.fieldDefect?_eq_none_iff]
  constructor
  · intro h c hc
    obtain ⟨id, hid, hname⟩ := exists_position hc
    have hnd := (hm.lineage_fields_perm hid).nodup_iff.1 (h id hid)
    exact ⟨_, (hname ▸ hm.ascent_iff hid).2 rfl, hnd⟩
  · intro h id hid
    obtain ⟨c, hc, hname⟩ := exists_class_of_lt hid
    obtain ⟨chain, hchain, hnd⟩ := h c hc
    obtain rfl := (hm.ascent_iff hid).1 (hname ▸ hchain)
    exact (hm.lineage_fields_perm hid).nodup_iff.2 hnd

/-! ## Fields that do not repeat -/

/-- The fields that one class contributes are distinct if those along its lineage are. -/
lemma nodup_fieldsOf (hfields : m.resolved.fieldDefect? = none) {name : String}
    (hname : name ∈ m.classNames) : (m.fieldsOf name).Nodup := by
  obtain ⟨d, hd, rfl⟩ := List.mem_map.1 hname
  obtain ⟨chain, hchain, hnd⟩ := hm.fieldDefect?_eq_none_iff.1 hfields d hd
  cases hchain with
  | top _ => simpa using hnd
  | step _ _ => exact (List.nodup_append.1 (by simpa using hnd)).1

/-- Two ends at the same class have different roles, since each role is a field of the class. -/
lemma roles_ne (hfields : m.resolved.fieldDefect? = none) {a : Association}
    (ha : a ∈ m.associations) {p q : Property} (hends : a.ends = [p, q])
    (hclass : p.className = q.className) : p.name ≠ q.name := by
  obtain ⟨hp, hq⟩ := hm.soundEnd_of_joins ha (.inl hends)
  obtain ⟨name, htp, hd⟩ := hp.typed
  obtain ⟨other, htq, -⟩ := hq.typed
  rw [Property.className_eq htp, Property.className_eq htq] at hclass
  subst hclass
  have hsub : (a.rolesFacing name).Sublist (m.associations.flatMap (·.rolesFacing name)) := by
    rw [List.flatMap_def]
    exact List.sublist_flatten_of_mem (List.mem_map_of_mem ha)
  have hnd := (hm.nodup_fieldsOf hfields hd).sublist (hsub.trans (List.sublist_append_right _ _))
  simpa [Association.rolesFacing, hends, htp, htq, eq_comm] using hnd

/-- So do the ends of the catalog that stand at one class. -/
lemma roles_ne_of_classId_eq (hfields : m.resolved.fieldDefect? = none) {a : Association}
    (ha : a ∈ m.associations) {p q : Property} (hjoins : a.Joins p q)
    (hid : (resolvedEnd m.orderedNames p).classId = (resolvedEnd m.orderedNames q).classId) :
    p.name ≠ q.name := by
  obtain ⟨name, ht, hd⟩ := (hm.soundEnd_of_joins ha hjoins).1.typed
  have hclass : p.className = q.className :=
    (List.idxOf_inj (by simpa [Property.className_eq ht])).1 hid
  rcases hjoins with hends | hends
  · exact hm.roles_ne hfields ha hends hclass
  · exact (hm.roles_ne hfields ha hends hclass.symm).symm

end Sound

/-- What is compiled from a model, if anything is. -/
theorem compile_eq_ok_iff {o : Options} {k : Compiled} :
    m.compile o order = .ok k ↔ m.Sound ∧ m.resolved.fieldDefect? = none ∧
      m.resolved.columnDefect? m.resolved.placements = none ∧ k = m.resolved.compiled o := by
  unfold compile
  constructor
  · intro h
    split at h
    · simp at h
    · next c hc =>
      obtain ⟨hm, hfields, rfl⟩ := Catalog.ofModel_eq_ok_iff.1 hc
      split at h
      · simp at h
      · next hcolumns => exact ⟨hm, hfields, hcolumns, (Except.ok.inj h).symm⟩
  · rintro ⟨hm, hfields, hcolumns, rfl⟩
    rw [Catalog.ofModel_eq_ok_iff.2 ⟨hm, hfields, rfl⟩]
    simp only [hcolumns]

/-- Why nothing is compiled from a model. -/
theorem compile_eq_error_iff_ofModel {o : Options} {defect : Defect} :
    m.compile o order = .error defect ↔ Catalog.ofModel m order = .error defect ∨
      m.Sound ∧ m.resolved.fieldDefect? = none ∧
        m.resolved.columnDefect? m.resolved.placements = some defect := by
  unfold compile
  cases hc : Catalog.ofModel m order with
  | error other =>
    have hnot : ¬ (m.Sound ∧ m.resolved.fieldDefect? = none) := fun ⟨hm, hfields⟩ => by
      simp [Catalog.ofModel_eq_ok_iff.2 ⟨hm, hfields, rfl⟩] at hc
    simp [← and_assoc, hnot]
  | ok c =>
    obtain ⟨hm, hfields, rfl⟩ := Catalog.ofModel_eq_ok_iff.1 hc
    cases hcolumns : m.resolved.columnDefect? m.resolved.placements <;>
      simp [hm, hfields, hcolumns]

/-- A model that is compiled has a catalog, the resolved one. -/
lemma ofModel_of_compile {o : Options} {k : Compiled} (h : m.compile o order = .ok k) :
    Catalog.ofModel m order' = .ok m.resolved := by
  obtain ⟨hm, hfields, -, -⟩ := compile_eq_ok_iff.1 h
  exact Catalog.ofModel_eq_ok_iff.2 ⟨hm, hfields, rfl⟩

/-- Whether a given model is compiled can be computed. -/
lemma exists_compiled_of_isOk {o : Options} (h : (m.compile o).isOk = true) :
    ∃ k, m.compile o = .ok k := by
  cases hk : m.compile o with
  | error defect => simp [hk, Except.isOk, Except.toBool] at h
  | ok k => exact ⟨k, rfl⟩

/-- A catalog is made of a model exactly if the model is well formed. -/
theorem exists_catalog_iff_wellFormed (m : Model) (order : StartOrder) :
    (∃ c, Catalog.ofModel m order = .ok c) ↔ m.WellFormed := by
  simp only [Catalog.ofModel_eq_ok_iff]
  constructor
  · rintro ⟨_, hm, hfields, -⟩
    exact ⟨hm, hm.fieldDefect?_eq_none_iff.1 hfields⟩
  · intro h
    exact ⟨_, h.toSound, h.toSound.fieldDefect?_eq_none_iff.2 h.fields, rfl⟩

end Model

end Blueprint
