import Blueprint.Proofs.AlikeModels
import Blueprint.Proofs.TableNames

/-!
# Adding an unrelated class

A class that nothing relates to the classes of a model can be added to it, at any place among them.
It moves the classes behind it in the order of names, and its table uses one name more, but neither
shows: what is derived for the other classes and for the associations stays as it is, and what is
derived for the new class stands at the place of its name.
-/
namespace Blueprint

/-- The second list has one item more than the first, at the place of its name. -/
def Inserts {α : Type} (ν : α → String) (x : α) (xs ys : List α) : Prop :=
  ∃ before after, xs = before ++ after ∧ ys = before ++ x :: after ∧
    (∀ y ∈ before, ν y < ν x) ∧ ∀ y ∈ after, ν x < ν y

lemma inserts_of_pairwise {α : Type} {ν : α → String} {x : α} {before after : List α}
    (h : ((before ++ x :: after).map ν).Pairwise (· < ·)) :
    Inserts ν x (before ++ after) (before ++ x :: after) := by
  rw [List.pairwise_map, List.pairwise_append, List.pairwise_cons] at h
  exact ⟨before, after, rfl, rfl, fun y hy => h.2.2 y hy x (.head _), h.2.1.1⟩

/-- The positions with one of them left out. -/
def skipping (j i : ℕ) : ℕ := if i < j then i else i + 1

lemma strictMono_skipping (j : ℕ) : StrictMono (skipping j) := by
  intro i i' hlt
  unfold skipping
  split_ifs <;> omega

lemma skipping_ne (j i : ℕ) : skipping j i ≠ j := by
  unfold skipping
  split_ifs <;> omega

lemma rel_getElem?_skipping {α β : Type} {R : α → β → Prop} {xs ys : List α} {xs' ys' : List β}
    (hxs : List.Forall₂ R xs xs') (hys : List.Forall₂ R ys ys') (x : β) (i : ℕ) :
    Option.Rel R (xs ++ ys)[i]? (xs' ++ x :: ys')[skipping xs.length i]? := by
  unfold skipping
  split_ifs with hi
  · rw [List.getElem?_append_left hi, List.getElem?_append_left (hxs.length_eq ▸ hi)]
    exact rel_getElem?_of_forall₂ hxs i
  · have hle := Nat.le_of_not_lt hi
    rw [List.getElem?_append_right hle, List.getElem?_append_right (by rw [← hxs.length_eq]; omega),
      ← hxs.length_eq, Nat.succ_sub hle, List.getElem?_cons_succ]
    exact rel_getElem?_of_forall₂ hys _

namespace Catalog

/-! ## A class more in a catalog -/

/-- The second catalog has the classes of the first in the same order, and one more at a position
that none of them gets. It is not related to any. -/
structure Adds (f : ClassId → ClassId) (entry : ClassEntry) (c c' : Catalog) : Prop
    extends c.Embeds f c' where
  classes : ∃ before after before' after', c.classes = before ++ after ∧
    c'.classes = before' ++ entry :: after' ∧
    List.Forall₂ (ClassEntry.Corresponds f) before before' ∧
    List.Forall₂ (ClassEntry.Corresponds f) after after'
  apart : ∀ id, f id ≠ entry.id
  general : entry.general = none
  specifics : entry.specifics = []

namespace Adds

variable {f : ClassId → ClassId} {entry : ClassEntry} {c c' : Catalog} {o : Options}
  (h : c.Adds f entry c') (hc : c.Coherent) (hc' : c'.Coherent)
include h

lemma exists_relationship {r' : Relationship} (hr' : r' ∈ c'.relationships) :
    ∃ r ∈ c.relationships, r.Corresponds f r' := exists_mem_of_forall₂ h.relationships hr'

/-- A class of the second catalog is the new one or has its like in the first. -/
lemma eq_or_exists_entry {e' : ClassEntry} (he' : e' ∈ c'.classes) :
    e' = entry ∨ ∃ e ∈ c.classes, e.Corresponds f e' := by
  obtain ⟨before, after, before', after', hclasses, hclasses', hbefore, hafter⟩ := h.classes
  rw [hclasses', List.mem_append, List.mem_cons] at he'
  rcases he' with he' | rfl | he'
  · obtain ⟨e, he, hcorresponds⟩ := exists_mem_of_forall₂ hbefore he'
    exact .inr ⟨e, hclasses ▸ List.mem_append_left _ he, hcorresponds⟩
  · exact .inl rfl
  · obtain ⟨e, he, hcorresponds⟩ := exists_mem_of_forall₂ hafter he'
    exact .inr ⟨e, hclasses ▸ List.mem_append_right _ he, hcorresponds⟩

lemma mem_classes : entry ∈ c'.classes := by
  obtain ⟨_, _, _, _, -, hclasses', -⟩ := h.classes
  simp [hclasses']

lemma endsOf_eq_nil : c'.endsOf entry.id = [] := by
  refine List.eq_nil_iff_forall_not_mem.2 fun e he => ?_
  obtain ⟨hr', hid⟩ := mem_endsOf.1 he
  obtain ⟨r, -, hr⟩ := h.exists_relationship hr'
  rw [(hr.ends e.2).classId] at hid
  exact h.apart _ hid

lemma ownedBy_eq_nil (hc' : c'.Coherent) : c'.placements.ownedBy entry.id = [] := by
  rw [hc'.ownedBy_placements, List.flatMap_eq_nil_iff]
  intro r' hr'
  obtain ⟨r, -, hr⟩ := h.exists_relationship hr'
  have hnone : ∀ side ∈ r'.ownerSide?.toList, ¬ ((r'.endAt side).classId == entry.id) = true := by
    intro side _ hid
    rw [(hr.ends side).classId, beq_iff_eq] at hid
    exact h.apart _ hid
  rw [List.filter_eq_nil_iff.2 hnone, List.map_nil]

lemma lineage_eq_singleton (hc' : c'.Coherent) : c'.lineage entry.id = [entry.id] := by
  refine hc'.lineage_of_top ?_
  rw [general?, hc'.entry?_id h.mem_classes, Option.bind_some, h.general]

/-! ## What is checked -/

/-- The new class has no fields but its attributes. -/
theorem fieldDefect?_eq_none (hc : c.Coherent) (hc' : c'.Coherent)
    (hnd : (entry.attributes.map (·.name)).Nodup) (hfields : c.fieldDefect? = none) :
    c'.fieldDefect? = none := by
  rw [Catalog.fieldDefect?_eq_none_iff] at hfields ⊢
  intro e' he'
  rcases h.eq_or_exists_entry he' with rfl | ⟨e, he, hcorresponds⟩
  · simpa [h.lineage_eq_singleton hc', ownFieldNames, hc'.entry?_id he', h.endsOf_eq_nil] using hnd
  · rw [hcorresponds.id, h.flatMap_ownFieldNames_eq hc hc']
    exact hfields e he

theorem columnDefect?_eq_none (hc : c.Coherent) (hc' : c'.Coherent)
    (hnd : (identityColumn :: entry.attributes.map (·.columnName)).Nodup)
    (hcolumns : c.columnDefect? c.placements = none) :
    c'.columnDefect? c'.placements = none := by
  rw [Catalog.columnDefect?_eq_none_iff] at hcolumns ⊢
  intro e' he'
  rcases h.eq_or_exists_entry he' with rfl | ⟨e, he, hcorresponds⟩
  · have hroot : e'.isHierarchyRoot = false := by
      simp [ClassEntry.isHierarchyRoot, h.specifics]
    simpa [map_fst_producedColumns, hroot, h.ownedBy_eq_nil hc'] using hnd
  · rw [← columnNames_nodup_iff (c := c'), h.table_eq hc hc' hcorresponds, columnNames_nodup_iff]
    exact hcolumns e he

/-! ## What is derived -/

theorem toValue_placements (hc : c.Coherent) (hc' : c'.Coherent) :
    c'.placements.toValue = c.placements.toValue := by
  rw [Placements.toValue, h.entries_placements_eq hc hc', List.map_map, Placements.toValue]
  simp only [Function.comp_def, Placement.toValue_renumber]

/-- What is made of some of the classes has one item more if the new class is among them. -/
lemma inserts_map {α : Type} (ν : α → String) (g g' : ClassEntry → α) (p : ClassEntry → Bool)
    (hp : p entry = true) (hc' : c'.Coherent) (hname : ∀ e ∈ c'.classes, ν (g' e) = e.name)
    (hg : ∀ es es', es ⊆ c.classes → List.Forall₂ (ClassEntry.Corresponds f) es es' →
      (es'.filter p).map g' = (es.filter p).map g) :
    Inserts ν (g' entry) ((c.classes.filter p).map g) ((c'.classes.filter p).map g') := by
  obtain ⟨before, after, before', after', hclasses, hclasses', hbefore, hafter⟩ := h.classes
  have hpairwise : (((c'.classes.filter p).map g').map ν).Pairwise (· < ·) := by
    have hnames : ∀ e ∈ c'.classes.filter p, (ν ∘ g') e = e.name := fun e he =>
      hname e (List.mem_filter.1 he).1
    rw [List.map_map, List.map_congr_left hnames]
    exact hc'.classNames.sublist (List.filter_sublist.map _)
  rw [hclasses', List.filter_append, List.filter_cons_of_pos hp, List.map_append, List.map_cons,
    hg _ _ (by simp [hclasses]) hbefore, hg _ _ (by simp [hclasses]) hafter] at hpairwise ⊢
  rw [hclasses, List.filter_append, List.map_append]
  exact inserts_of_pairwise hpairwise

theorem inserts_tables (hc : c.Coherent) (hc' : c'.Coherent) :
    Inserts (·.ofClass) (c'.table c'.placements entry) (c.layout c.placements).tables
      (c'.layout c'.placements).tables := by
  have hinserts := h.inserts_map Table.ofClass (c.table c.placements) (c'.table c'.placements)
    (fun _ => true) rfl hc' (fun _ _ => rfl)
    (fun es es' _ hes => by simpa only [List.filter_true] using h.tables_eq hes hc hc')
  simpa only [List.filter_true, layout] using hinserts

theorem inserts_contracts (hc : c.Coherent) (hc' : c'.Coherent) :
    Inserts (·.1) (entry.name, c'.contract c'.placements o entry)
      (c.contracts c.placements o).contracts.entries
      (c'.contracts c'.placements o).contracts.entries := by
  have hinserts := h.inserts_map Prod.fst (fun e => (e.name, c.contract c.placements o e))
    (fun e => (e.name, c'.contract c'.placements o e)) (fun _ => true) rfl hc' (fun _ _ => rfl)
    (fun es es' _ hes => by simpa only [List.filter_true] using h.contracts_eq hes hc hc')
  simpa only [List.filter_true, hc.entries_contracts, hc'.entries_contracts] using hinserts

theorem inserts_plans (hc : c.Coherent) (hc' : c'.Coherent) (hconcrete : entry.isAbstract = false) :
    Inserts (·.ofClass) (c'.plan (c'.contracts c'.placements o) entry.id)
      (c.plans (c.contracts c.placements o)) (c'.plans (c'.contracts c'.placements o)) := by
  refine h.inserts_map Plan.ofClass _ _ (fun e => !e.isAbstract) (by simp [hconcrete]) hc' ?_
    fun es es' hsub hes => h.plans_eq hes hc hc' hsub
  intro e he
  rw [plan, className_eq (hc'.entry?_id he)]

theorem plans_eq_of_isAbstract (hc : c.Coherent) (hc' : c'.Coherent)
    (habstract : entry.isAbstract = true) :
    c'.plans (c'.contracts c'.placements o) = c.plans (c.contracts c.placements o) := by
  obtain ⟨before, after, before', after', hclasses, hclasses', hbefore, hafter⟩ := h.classes
  rw [plans, plans, hclasses', hclasses, List.filter_append, List.filter_append,
    List.filter_cons_of_neg (by simp [habstract]), List.map_append, List.map_append,
    h.plans_eq hbefore hc hc' (by simp [hclasses]), h.plans_eq hafter hc hc' (by simp [hclasses])]

/-- No join table gives up its name for that of the new table if it had another name before. -/
theorem joinTables_eq (hc : c.Coherent) (hc' : c'.Coherent)
    (hfree : tableName entry.name ∉ (c.joinTables c.placements).map (·.name)) :
    c'.joinTables c'.placements = c.joinTables c.placements := by
  rw [hc.joinTables_placements] at hfree ⊢
  rw [h.toEmbeds.joinTables_eq hc']
  refine joinTablesFrom_of_used (fun s => ?_) hfree
  obtain ⟨before, after, before', after', hclasses, hclasses', hbefore, hafter⟩ := h.classes
  have hnames : ∀ {es es'}, List.Forall₂ (ClassEntry.Corresponds f) es es' →
      es'.map (fun e => tableName e.name) = es.map fun e => tableName e.name := fun hes =>
    (map_eq_map_of_forall₂ (fun _ _ he => by rw [he.name]) hes).symm
  simp only [hclasses, hclasses', List.map_append, List.map_cons, hnames hbefore, hnames hafter,
    List.mem_append, List.mem_cons]
  exact or_left_comm

end Adds

end Catalog

/-! ## A class more in a model -/

/-- The class can be added to the model without getting in the way of anything. Nothing that is
looked at in an accepted model relates to it, since it would have to be declared. -/
structure ClassDecl.UnrelatedTo (d : ClassDecl) (m : Model) (k : Compiled) : Prop where
  name : d.name ∉ m.classNames ++ m.enumerationNames
  tableName : tableName d.name ∉
    k.storage.tables.map (·.name) ++ k.storage.joinTables.map (·.name)
  primitive : ∀ p ∈ d.attributes, ∃ q, p.type = some (.primitive q)
  attributeNames : (d.attributes.map (·.name)).Nodup
  ne_id : ∀ p ∈ d.attributes, p.name ≠ "id"
  valid : ∀ p ∈ d.attributes, p.effectiveMultiplicity.Valid

lemma ClassDecl.UnrelatedTo.tableName_ne {d : ClassDecl} {m : Model} {o : Options}
    (hd : d.UnrelatedTo m (m.resolved.compiled o)) {c : ClassDecl} (hc : c ∈ m.classes) :
    Blueprint.tableName c.name ≠ Blueprint.tableName d.name := by
  intro heq
  obtain ⟨id, hid, hname⟩ := Model.exists_position hc
  have hentry := Catalog.entry?_of_lt hid
  refine hd.tableName (List.mem_append_left _ (List.mem_map.2 ?_))
  refine ⟨_, List.mem_map_of_mem (List.getElem_mem hid), ?_⟩
  rw [← heq, ← hname, Catalog.className_eq hentry]
  rfl

lemma Model.attributeNames_entryAt (m : Model) (id : ClassId) (d : ClassDecl) :
    (m.entryAt id d).attributes.map (·.name) = d.attributes.map (·.name) := by
  simp [entryAt, resolvedAttribute, Function.comp_def]

/-- The columns of its table are those of its attributes, besides the identity. -/
lemma ClassDecl.UnrelatedTo.nodup_columnNames {d : ClassDecl} {m : Model} {k : Compiled}
    (hd : d.UnrelatedTo m k) (m' : Model) (id : ClassId) :
    (identityColumn :: (m'.entryAt id d).attributes.map (·.columnName)).Nodup := by
  have hnames : (m'.entryAt id d).attributes.map (·.columnName) = d.attributes.map (·.name) := by
    simp only [Model.entryAt, List.map_map]
    refine List.map_congr_left fun p hp => ?_
    obtain ⟨q, hq⟩ := hd.primitive p hp
    simp [Model.resolvedAttribute, Model.resolvedType, hq, Attribute.columnName]
  rw [hnames]
  refine List.nodup_cons.2 ⟨fun hid => ?_, hd.attributeNames⟩
  obtain ⟨p, hp, hname⟩ := List.mem_map.1 hid
  exact hd.ne_id p hp hname

/-- What is compiled has a class more, at the place of its name. The rest is the same. -/
structure Compiled.AddsClass (d : ClassDecl) (k k' : Compiled) : Prop where
  name : k'.name = k.name
  placements : k'.placements.toValue = k.placements.toValue
  enumerations : k'.contracts.enumerations = k.contracts.enumerations
  skipped : k'.skipped = k.skipped
  joinTables : k'.storage.joinTables = k.storage.joinTables
  tables : ∃ t, t.ofClass = d.name ∧ Inserts (·.ofClass) t k.storage.tables k'.storage.tables
  contracts : ∃ contract, contract.ofClass = d.name ∧
    Inserts (·.1) (d.name, contract) k.contracts.contracts.entries k'.contracts.contracts.entries
  plans : if d.isAbstract then k'.plans = k.plans
    else ∃ p, p.ofClass = d.name ∧ Inserts (·.ofClass) p k.plans k'.plans

namespace Model

variable {m : Model} {d : ClassDecl} {before after : List ClassDecl} {o : Options} {k : Compiled}
  {order order' : StartOrder}

/-- The model with a class more, declared between others. -/
def withClass (m : Model) (before : List ClassDecl) (d : ClassDecl) (after : List ClassDecl) :
    Model := { m with classes := before ++ d :: after }

section Added

variable (hclasses : m.classes = before ++ after)
include hclasses

lemma mem_classes_withClass {c : ClassDecl} :
    c ∈ (m.withClass before d after).classes ↔ c = d ∨ c ∈ m.classes := by
  simp only [withClass, hclasses, List.mem_append, List.mem_cons, or_left_comm]

lemma classNames_withClass_perm :
    (m.withClass before d after).classNames.Perm (d.name :: m.classNames) := by
  simp only [classNames, withClass, hclasses, List.map_append, List.map_cons]
  exact List.perm_middle

lemma declares_withClass {t : TypeRef} (ht : m.Declares t) :
    (m.withClass before d after).Declares t := by
  cases t with
  | primitive q => trivial
  | ofClass name => exact (classNames_withClass_perm hclasses).mem_iff.2 (.tail _ ht)
  | ofEnumeration name => exact ht

end Added

namespace Sound

variable (hm : m.Sound)
include hm

/-! ### The declarations of a sound model are alike to themselves -/

lemma association_alike {a : Association} (ha : a ∈ m.associations) : a.Alike a where
  name := rfl
  sameEnds := List.forall₂_same.2 fun _ _ => ⟨rfl, rfl⟩
  ends hlen := List.forall₂_same.2 fun p hp => by
    have hvalid := (hm.ends a ha hlen p hp).valid
    exact ⟨⟨rfl, rfl⟩, ⟨hvalid, hvalid⟩, Iff.rfl, Iff.rfl⟩

lemma class_alike {c : ClassDecl} (hc : c ∈ m.classes) : c.Alike c where
  name := rfl
  isAbstract := rfl
  attributes := List.forall₂_same.2 fun p hp => by
    have hvalid : p.effectiveMultiplicity.Valid := by
      cases hμ : p.multiplicity with
      | none =>
        rw [Property.effectiveMultiplicity, hμ, Option.getD_none]
        exact (Multiplicity.isValid_iff _).1 rfl
      | some μ =>
        simpa [Property.effectiveMultiplicity, hμ] using (hm.attributes c hc p hp).valid μ hμ
    exact ⟨⟨rfl, rfl⟩, ⟨hvalid, hvalid⟩, Iff.rfl⟩

/-! ### The model with the class -/

variable (hclasses : m.classes = before ++ after) (hd : d.UnrelatedTo m (m.resolved.compiled o))
include hclasses hd

theorem sound_withClass : (m.withClass before d after).Sound where
  typeNames := by
    have hperm := (classNames_withClass_perm (d := d) hclasses).append_right m.enumerationNames
    exact hperm.nodup_iff.2 (List.nodup_cons.2 ⟨hd.name, hm.typeNames⟩)
  tableNames c hc c' hc' htable := by
    rcases (mem_classes_withClass hclasses).1 hc with rfl | hold <;>
      rcases (mem_classes_withClass hclasses).1 hc' with rfl | hold'
    · rfl
    · exact absurd htable.symm (hd.tableName_ne hold')
    · exact absurd htable (hd.tableName_ne hold)
    · exact hm.tableNames c hold c' hold' htable
  attributeNames c hc := by
    rcases (mem_classes_withClass hclasses).1 hc with rfl | hc
    · exact hd.attributeNames
    · exact hm.attributeNames c hc
  attributes c hc p hp := by
    rcases (mem_classes_withClass hclasses).1 hc with rfl | hc
    · obtain ⟨q, hq⟩ := hd.primitive p hp
      refine ⟨⟨_, hq, trivial⟩, fun μ hμ => ?_⟩
      simpa [Property.effectiveMultiplicity, hμ] using hd.valid p hp
    · obtain ⟨t, ht, hdeclares⟩ := (hm.attributes c hc p hp).typed
      exact ⟨⟨t, ht, declares_withClass hclasses hdeclares⟩, (hm.attributes c hc p hp).valid⟩
  literals := hm.literals
  associationNames := hm.associationNames
  ends a ha hlen p hp := by
    obtain ⟨name, ht, hname⟩ := (hm.ends a ha hlen p hp).typed
    exact ⟨⟨name, ht, (classNames_withClass_perm hclasses).mem_iff.2 (.tail _ hname)⟩,
      (hm.ends a ha hlen p hp).valid⟩
  declared g hg := by
    have hmem := fun name => (classNames_withClass_perm (d := d) hclasses).mem_iff (a := name)
    exact ⟨(hmem _).2 (.tail _ (hm.declared g hg).1), (hmem _).2 (.tail _ (hm.declared g hg).2)⟩
  single := hm.single
  acyclic := hm.acyclic

lemma exists_orderedClasses_eq : ∃ lower upper, m.orderedClasses = lower ++ upper ∧
    (m.withClass before d after).orderedClasses = lower ++ d :: upper :=
  exists_sortedByName_eq hclasses (hm.sound_withClass hclasses hd).classNames_nodup

variable {lower upper : List ClassDecl} (hordered : m.orderedClasses = lower ++ upper)
  (hordered' : (m.withClass before d after).orderedClasses = lower ++ d :: upper)
include hordered hordered'

omit hclasses in
/-- The classes behind the new one move by one position. -/
lemma keeps_withClass : Keeps (skipping lower.length) m (m.withClass before d after) where
  strictMono := strictMono_skipping _
  positions name hname := by
    have hne : d.name ≠ name := fun heq => hd.name (List.mem_append_left _ (heq ▸ hname))
    rw [orderedNames, hordered', orderedNames, hordered, List.map_append, List.map_append,
      List.map_cons]
    by_cases hlower : name ∈ lower.map (·.name)
    · have hlt := List.idxOf_lt_length_of_mem hlower
      rw [List.length_map] at hlt
      rw [List.idxOf_append_of_mem hlower, List.idxOf_append_of_mem hlower, skipping, if_pos hlt]
    · rw [List.idxOf_append_of_notMem hlower, List.idxOf_append_of_notMem hlower,
        List.idxOf_cons_ne _ hne, List.length_map, skipping, if_neg (by omega)]
      rfl
  associations := List.forall₂_same.2 fun _ ha => hm.association_alike ha
  generalizations := rfl

theorem adds_withClass :
    m.resolved.Adds (skipping lower.length) ((m.withClass before d after).entryAt lower.length d)
      (m.withClass before d after).resolved := by
  have hm' := hm.sound_withClass hclasses hd
  have hkeeps := hm.keeps_withClass hd hordered hordered'
  have hsub : lower ⊆ m.classes ∧ upper ⊆ m.classes :=
    List.append_subset.1 (hordered ▸ m.orderedClasses_perm.subset)
  have halike : ∀ ds ⊆ m.classes, List.Forall₂ ClassDecl.Alike ds ds := fun ds hds =>
    List.forall₂_same.2 fun _ hc => hm.class_alike (hds hc)
  have hlower := hkeeps.entriesAt_correspond hm hm' (halike lower hsub.1) hsub.1
    0 0 fun i hi => by simp [skipping, hi]
  have hupper := hkeeps.entriesAt_correspond hm hm' (halike upper hsub.2) hsub.2
    lower.length (lower.length + 1) fun i _ => by
      rw [skipping, if_neg (Nat.not_lt.2 (Nat.le_add_right _ _)), Nat.add_right_comm]
  have hapart : ∀ x ∈ (m.withClass before d after).generalizations.map
      (resolvedGeneralization (m.withClass before d after).orderedNames),
      x.1 ≠ lower.length ∧ x.2 ≠ lower.length := by
    intro x hx
    rw [hkeeps.generalizations_resolved_eq hm] at hx
    obtain ⟨y, -, rfl⟩ := List.mem_map.1 hx
    exact ⟨skipping_ne _ _, skipping_ne _ _⟩
  have hentries := m.classes_resolved
  have hentries' := (m.withClass before d after).classes_resolved
  rw [hordered, List.zipIdx_append, List.map_append, Nat.zero_add] at hentries
  rw [hordered', List.zipIdx_append, List.zipIdx_cons, List.map_append, List.map_cons,
    Nat.zero_add] at hentries'
  refine {
    injective := hkeeps.strictMono.injective
    entries := fun id => ?_
    relationships := hkeeps.relationships_correspond hm
    classes := ⟨_, _, _, _, hentries, hentries', hlower, hupper⟩
    apart := skipping_ne _
    general := ?_
    specifics := ?_ }
  · have hrel := rel_getElem?_skipping hlower hupper
      ((m.withClass before d after).entryAt lower.length d) id
    rwa [← hentries, ← hentries', List.length_map, List.length_zipIdx] at hrel
  · simp only [entryAt]
    rw [List.filter_eq_nil_iff.2 fun x hx => by simpa using (hapart x hx).2]
    rfl
  · rw [← List.isEmpty_iff, isEmpty_specifics hm', Bool.not_eq_true', List.any_eq_false]
    exact fun x hx => by simpa using (hapart x hx).1

/-- The new class stands at its place in what is compiled, and the rest is derived as before. -/
theorem addsClass_compiled : (m.resolved.compiled o).AddsClass d
    ((m.withClass before d after).resolved.compiled o) := by
  have hadds := hm.adds_withClass hclasses hd hordered hordered'
  have hc := hm.coherent_resolved
  have hc' := (hm.sound_withClass hclasses hd).coherent_resolved
  have hfree : tableName d.name ∉ (m.resolved.joinTables m.resolved.placements).map (·.name) :=
    fun hmem => hd.tableName (List.mem_append_right _ hmem)
  have henumerations : (m.withClass before d after).resolved.enumerations =
      m.resolved.enumerations := rfl
  have hname : (m.withClass before d after).orderedNames[lower.length]? = some d.name := by
    simp [orderedNames, hordered']
  exact {
    name := rfl
    placements := hadds.toValue_placements hc hc'
    enumerations := congrArg (List.map Catalog.enumeration) henumerations
    skipped := (hm.keeps_withClass hd hordered hordered').skipped_eq
    joinTables := hadds.joinTables_eq hc hc' hfree
    tables := ⟨_, rfl, hadds.inserts_tables hc hc'⟩
    contracts := ⟨_, rfl, hadds.inserts_contracts hc hc'⟩
    plans := by
      split
      · next habstract => exact hadds.plans_eq_of_isAbstract hc hc' habstract
      · next hconcrete =>
        exact ⟨_, className_resolved hname,
          hadds.inserts_plans hc hc' (Bool.eq_false_iff.2 hconcrete)⟩ }

end Sound

/-- A class that has nothing to do with the classes of an accepted model can be declared anywhere
among them. The model is still accepted, and all that changes is that the table of the class, its
contract and, unless it is abstract, its plan come in at the place of its name. -/
theorem compile_withClass (hk : m.compile o order = .ok k) (hclasses : m.classes = before ++ after)
    (hd : d.UnrelatedTo m k) :
    ∃ k', (m.withClass before d after).compile o order' = .ok k' ∧ k.AddsClass d k' := by
  obtain ⟨hm, hfields, hcolumns, rfl⟩ := compile_eq_ok_iff.1 hk
  have hm' := hm.sound_withClass hclasses hd
  obtain ⟨lower, upper, hordered, hordered'⟩ := hm.exists_orderedClasses_eq hclasses hd
  have hadds := hm.adds_withClass hclasses hd hordered hordered'
  have hc := hm.coherent_resolved
  have hc' := hm'.coherent_resolved
  have hnames := (m.withClass before d after).attributeNames_entryAt lower.length d
  have hfields' := hadds.fieldDefect?_eq_none hc hc' (hnames ▸ hd.attributeNames) hfields
  have hcolumns' := hadds.columnDefect?_eq_none hc hc' (hd.nodup_columnNames _ _) hcolumns
  exact ⟨_, compile_eq_ok_iff.2 ⟨hm', hfields', hcolumns', rfl⟩,
    hm.addsClass_compiled hclasses hd hordered hordered'⟩

/-- Manuals for the workshop, which nothing refers to. -/
def manual : ClassDecl :=
  ⟨"Manual", [⟨"title", some (.primitive .string), none⟩,
    ⟨"pages", some (.primitive .integer), some .many⟩], false⟩

theorem workshop_with_manual : ∃ k k', workshop.compile {} = .ok k ∧
    (workshop.withClass (workshop.classes.take 1) manual (workshop.classes.drop 1)).compile {} =
      .ok k' ∧ k.AddsClass manual k' := by
  obtain ⟨k, hk⟩ := exists_compiled_of_isOk (m := workshop) (o := {}) (by decide +kernel)
  have hunrelated : manual.UnrelatedTo workshop k := by
    obtain ⟨-, -, -, rfl⟩ := compile_eq_ok_iff.1 hk
    exact {
      name := by decide
      tableName := by decide +kernel
      primitive := by simp [manual]
      attributeNames := by decide
      ne_id := by decide
      valid := by
        simp only [manual, Property.effectiveMultiplicity, ← Multiplicity.isValid_iff]
        decide }
  obtain ⟨k', hk', hadds⟩ := compile_withClass hk (List.take_append_drop 1 _).symm hunrelated
  exact ⟨k, k', hk, hk', hadds⟩

end Model

end Blueprint
