import Blueprint.Proofs.CheckedLookups
import Blueprint.Proofs.Closure
import Mathlib.Data.List.Dedup

/-!
# Building catalogs

A model that passes its own checks is always assembled, and a field that comes twice along a chain
is all that it can still be rejected for. The generalizations are entered one by one, each into the
entries of two classes that are there, and every two-ended association becomes a relationship. The
positions that are stored are those of classes, so that no later lookup fails.
-/
namespace Blueprint

/-! ## Entering generalizations -/

namespace Model

/-- The classes before any generalization is entered. -/
def unlinked (classes : List (ClassDecl × List Attribute)) : List ClassEntry :=
  classes.zipIdx.map fun ((decl, attributes), id) =>
    { id
      name := decl.name
      isAbstract := decl.isAbstract
      attributes
      general := none
      specifics := [] }

/-- Enters the positions of a general and of its specific at each other, if there are classes at
both positions. -/
def enter (entries : List ClassEntry) (g : ClassId × ClassId) :
    Except ClassId (List ClassEntry) :=
  if entries.length ≤ g.2 then .error g.2
  else if entries.length ≤ g.1 then .error g.1
  else
    .ok ((entries.modify g.2 fun entry => { entry with general := some g.1 }).modify g.1
      fun entry => { entry with specifics := entry.specifics ++ [g.2] })

/-- The specifics in order, each of them once. -/
def settled (entry : ClassEntry) : ClassEntry :=
  { entry with specifics := (sorted (fun i j => decide (i ≤ j)) entry.specifics).dedup }

/-- An entry once some generalizations are entered. -/
def withEntered (gs : List (ClassId × ClassId)) (entry : ClassEntry) : ClassEntry :=
  { entry with
    general := (gs.filter fun g => g.2 == entry.id).getLast?.map (·.1)
    specifics := (gs.filter fun g => g.1 == entry.id).map (·.2) }

variable {classes : List (ClassDecl × List Attribute)} {before gs : List (ClassId × ClassId)}
  {g : ClassId × ClassId} {n : ℕ}

@[simp] lemma length_unlinked : (unlinked classes).length = classes.length := by simp [unlinked]

lemma id_of_getElem?_unlinked {id : ClassId} {entry : ClassEntry}
    (h : (unlinked classes)[id]? = some entry) : entry.id = id := by
  simp only [unlinked, List.getElem?_map, List.getElem?_zipIdx, Option.map_map,
    Option.map_eq_some_iff] at h
  obtain ⟨x, -, rfl⟩ := h
  simp

lemma map_withEntered_nil : (unlinked classes).map (withEntered []) = unlinked classes := by
  simp [unlinked, withEntered]

/-- One more generalization is entered without a failure. -/
theorem enter_withEntered (hgeneral : g.1 < classes.length) (hspecific : g.2 < classes.length) :
    enter ((unlinked classes).map (withEntered before)) g =
      .ok ((unlinked classes).map (withEntered (before ++ [g]))) := by
  simp only [enter, List.length_map, length_unlinked, Nat.not_le.2 hgeneral, Nat.not_le.2 hspecific,
    if_false]
  refine congrArg Except.ok (List.ext_getElem? fun id => ?_)
  simp only [List.getElem?_modify, List.getElem?_map]
  cases h : (unlinked classes)[id]? with
  | none => simp
  | some entry =>
    have hid := id_of_getElem?_unlinked h
    by_cases hg : g.1 = id <;> by_cases hs : g.2 = id <;>
      simp [withEntered, hid, hg, hs, List.filter_append]

theorem foldlM_enter (hin : ∀ g ∈ gs, g.1 < classes.length ∧ g.2 < classes.length) :
    gs.foldlM enter ((unlinked classes).map (withEntered before)) =
      .ok ((unlinked classes).map (withEntered (before ++ gs))) := by
  induction gs generalizing before with
  | nil => simp [pure, Except.pure]
  | cons g gs ih =>
    obtain ⟨hgeneral, hspecific⟩ := hin g (.head _)
    rw [List.foldlM_cons, enter_withEntered hgeneral hspecific]
    simp only [bind, Except.bind, ih fun g hg => hin g (.tail _ hg)]
    rw [List.append_assoc, List.singleton_append]

lemma foldlM_enter_unlinked (hin : ∀ g ∈ gs, g.1 < classes.length ∧ g.2 < classes.length) :
    gs.foldlM enter (unlinked classes) = .ok ((unlinked classes).map (withEntered gs)) := by
  have hrun : gs.foldlM enter ((unlinked classes).map (withEntered [])) = _ := foldlM_enter hin
  rwa [map_withEntered_nil, List.nil_append] at hrun

lemma dedup_sorted_eq {xs : List ClassId} (h : ∀ x ∈ xs, x < n) :
    (sorted (fun i j => decide (i ≤ j)) xs).dedup = (List.range n).filter (xs.contains ·) := by
  have hsorted : (sorted (fun i j : ℕ => decide (i ≤ j)) xs).Pairwise
      fun i j => decide (i ≤ j) = true :=
    sorted_pairwise (by simpa using Nat.le_total) (by simpa using fun i j k => Nat.le_trans) xs
  simp only [decide_eq_true_eq] at hsorted
  refine List.Perm.eq_of_pairwise (fun i j _ _ => Nat.le_antisymm)
    (hsorted.sublist (List.dedup_sublist _))
    ((List.pairwise_lt_range.imp Nat.le_of_lt).filter _) ?_
  refine (List.perm_ext_iff_of_nodup (List.nodup_dedup _) (List.nodup_range.filter _)).2 fun i => ?_
  simpa using fun hi => h i hi

/-- Entered one by one, the generalizations link the classes as they are linked at once. -/
theorem map_settled_withEntered (hin : ∀ g ∈ gs, g.2 < classes.length) :
    ((unlinked classes).map (withEntered gs)).map settled = linkClasses classes gs := by
  rw [List.map_map, unlinked, List.map_map, linkClasses]
  refine List.map_congr_left fun x _ => ?_
  obtain ⟨⟨decl, attributes⟩, id⟩ := x
  have hspecifics : ∀ x ∈ (gs.filter fun g => g.1 == id).map (·.2), x < classes.length := by
    intro x hx
    obtain ⟨g, hg, rfl⟩ := List.mem_map.1 hx
    exact hin g (List.mem_filter.1 hg).1
  simp only [Function.comp_apply, settled, withEntered, dedup_sorted_eq hspecifics]
  congr 1
  refine List.filter_congr fun other _ => ?_
  rw [Bool.eq_iff_iff]
  simp

/-! ## Catalogs of sound models -/

variable {m : Model} {c : Catalog}

/-- The classes of the catalog come of entering the generalizations of the model one by one, of
which none fails. -/
def EntersInto (m : Model) (c : Catalog) : Prop :=
  ∃ classes gs entries,
    (m.orderedClasses.mapM fun d => do
      return (d, ← d.attributes.mapM (resolveAttribute m.orderedNames d.name))) = .ok classes ∧
    m.generalizations.mapM (resolveGeneralization m.orderedNames) = .ok gs ∧
    gs.foldlM enter (unlinked classes) = .ok entries ∧ c.classes = entries.map settled

/-- What building the catalog of a model comes to: it is assembled, and rejected for nothing but its
fields. No two-ended association is lost, and no position is looked up at which there is no class,
neither for entering the generalizations nor for anything that follows from the catalog. -/
structure Builds (m : Model) (c : Catalog) : Prop where
  assembled : m.assemble = .ok c
  rejected_iff : ∀ order defect, Catalog.ofModel m order = .error defect ↔
    c.fieldDefect? = some defect
  duplicateField : ∀ order defect, Catalog.ofModel m order = .error defect →
    ∃ className field declaredBy, defect = .duplicateField className field declaredBy
  related : ∀ a ∈ m.associations, a.isBinary = true → ∃ r ∈ c.relationships, r.name = a.name ∧
    resolveAssociation m.orderedNames a = .ok (some r)
  kept : (c.relationships.map (·.name)).Perm ((m.associations.filter (·.isBinary)).map (·.name))
  entered : m.EntersInto c
  inRange : c.InRange
  chains : ∀ id < c.classes.length, Catalog.Checked.lineage c id = .ok (c.lineage id) ∧
    Catalog.Checked.ancestors c id = .ok (c.ancestors id) ∧
    Catalog.Checked.root c id = .ok (c.root id)
  fieldDefect? : Catalog.Checked.fieldDefect? c = .ok c.fieldDefect?
  compiled : ∀ o, Catalog.Checked.compiled c o = .ok (c.compiled o)

lemma exists_duplicateField_of_fieldDefect? {defect : Defect} (h : c.fieldDefect? = some defect) :
    ∃ className field declaredBy, defect = .duplicateField className field declaredBy := by
  obtain ⟨entry, -, hentry⟩ := List.exists_of_findSome?_eq_some h
  obtain ⟨⟨field, declaredBy, again⟩, -, rfl⟩ := Option.map_eq_some_iff.1 hentry
  exact ⟨again, field, declaredBy, rfl⟩

namespace Sound

variable (hm : m.Sound)
include hm

theorem inRange_resolved : m.resolved.InRange := by
  have hc := hm.coherent_resolved
  constructor
  case ids => exact fun entry he => hc.id_lt he
  case generals =>
    intro entry he general hg
    refine hc.generals entry.id general ?_
    rw [Catalog.general?, hc.entry?_id he, Option.bind_some, hg]
  case specifics =>
    intro entry he specific hs
    have hgeneral := (hm.mem_specifics_iff (hc.entry?_id he)).1 hs
    obtain ⟨_, hspecific, -⟩ := Option.bind_eq_some_iff.1 hgeneral
    exact (List.getElem?_eq_some_iff.1 hspecific).1
  case attributes =>
    exact fun entry he a ha id ht => hm.lt_of_type_attribute (hc.entry?_id he) ha ht
  case ends => exact hc.ends

theorem entersInto_resolved : m.EntersInto m.resolved := by
  have hlength : m.resolved.classes.length = m.orderedClasses.length := by
    simp [classes_resolved]
  have hin : ∀ g ∈ m.generalizations.map (resolvedGeneralization m.orderedNames),
      g.1 < m.orderedClasses.length ∧ g.2 < m.orderedClasses.length := by
    intro _ hmem
    obtain ⟨g, hg, rfl⟩ := List.mem_map.1 hmem
    obtain ⟨hgeneral, hspecific⟩ := hm.declared g hg
    exact ⟨hlength ▸ idxOf_lt_of_mem hgeneral, hlength ▸ idxOf_lt_of_mem hspecific⟩
  refine ⟨_, _, _, mapM_resolveAttributes_eq_ok hm, mapM_resolveGeneralization_eq_ok hm, ?_,
    (map_settled_withEntered ?_).symm⟩
  · exact foldlM_enter_unlinked (by simpa using hin)
  · simpa using fun g hg => (hin _ (List.mem_map_of_mem hg)).2

end Sound

/-- A model that passes its own checks is built, up to its fields. -/
theorem exists_builds_of_passes {order : StartOrder} (h : m.defect? order = none) :
    ∃ c, m.Builds c := by
  have hm := defect?_eq_none_iff.1 h
  have hrange := hm.inRange_resolved
  have hrejected : ∀ order defect, Catalog.ofModel m order = .error defect ↔
      m.resolved.fieldDefect? = some defect := by
    simp [Catalog.ofModel_eq_error_iff, defect?_eq_none_iff.2 hm, hm]
  refine ⟨m.resolved, ?_⟩
  constructor
  case assembled => exact assemble_eq_ok hm
  case rejected_iff => exact hrejected
  case duplicateField =>
    exact fun order defect hd =>
      exists_duplicateField_of_fieldDefect? ((hrejected order defect).1 hd)
  case related =>
    intro a ha hbinary
    obtain ⟨p, q, hends⟩ := List.length_eq_two.1 (beq_iff_eq.1 hbinary)
    have hr : relationship? m.orderedNames a =
        some (relate a.name (resolvedEnd m.orderedNames p) (resolvedEnd m.orderedNames q)) :=
      relationship?_eq_some_iff.2 ⟨p, q, hends, rfl⟩
    exact ⟨_, mem_relationships_resolved.2 ⟨a, ha, hr⟩, name_relate _ _ _,
      hr ▸ resolveAssociation_eq_ok (hm.ends a ha)⟩
  case kept =>
    rw [names_relationships_resolved]
    exact ((sortedByName_perm _ _).filter _).map _
  case entered => exact hm.entersInto_resolved
  case inRange => exact hrange
  case chains =>
    exact fun id hid => ⟨hrange.checked_lineage_eq_ok hid, hrange.checked_ancestors_eq_ok hid,
      hrange.checked_root_eq_ok hid⟩
  case fieldDefect? => exact hrange.checked_fieldDefect?_eq_ok
  case compiled => exact fun o => hrange.checked_compiled_eq_ok

/-- A club whose players have a name of their own beside that of the person. -/
def roster : Model where
  name := "Roster"
  classes := [
    ⟨"Player", [⟨"name", some (.primitive .string), none⟩,
      ⟨"mentor", some (.ofClass "Player"), some .optional⟩], false⟩,
    ⟨"Person", [⟨"name", some (.primitive .string), none⟩], true⟩,
    ⟨"Club", [], false⟩]
  enumerations := []
  associations := [
    ⟨"transfer", [⟨"from", none, none⟩, ⟨"to", none, none⟩, ⟨"player", none, none⟩]⟩,
    ⟨"squad", [⟨"club", some (.ofClass "Club"), some .one⟩,
      ⟨"players", some (.ofClass "Player"), some .many⟩]⟩]
  generalizations := [⟨"Person", "Player"⟩, ⟨"Person", "Player"⟩]

/-- The roster is rejected, but for nothing else than the name. -/
theorem roster_builds : ∃ c, roster.defect? = none ∧ roster.Builds c ∧
    c.relationships.map (·.name) = ["squad"] ∧
    Catalog.ofModel roster = .error (.duplicateField "Player" "name" "Person") := by
  have hpass : roster.defect? = none := by decide +kernel
  obtain ⟨c, hc⟩ := exists_builds_of_passes hpass
  refine ⟨c, hpass, hc, List.perm_singleton.1 hc.kept, ?_⟩
  rw [hc.rejected_iff]
  obtain rfl : roster.resolved = c := Except.ok.inj
    ((assemble_eq_ok (defect?_eq_none_iff.1 hpass)).symm.trans hc.assembled)
  decide +kernel

end Model

end Blueprint
