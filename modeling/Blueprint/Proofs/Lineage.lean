import Blueprint.Catalog.Basic
import Blueprint.Proofs.Ascent
import Mathlib.Data.List.Perm.Subperm
import Mathlib.Data.List.Range

/-!
# Lineages

What holds of every catalog that a sound model is resolved to, and what it means for the chains of
generals: the bound on their length is never met, so a lineage is the whole chain, and the lineage
of a class is that of its general with the class behind it.
-/
namespace Blueprint.Catalog

/-- Positions and names agree, and chains of generals end. -/
structure Coherent (c : Catalog) : Prop where
  ids : ∀ id entry, c.entry? id = some entry → entry.id = id
  classNames : (c.classes.map (·.name)).Pairwise (· < ·)
  generals : ∀ id general, c.general? id = some general → general < c.classes.length
  grounded : WellFounded fun general id => c.general? id = some general
  relationshipNames : (c.relationships.map (·.name)).Pairwise (· < ·)
  ends : ∀ r ∈ c.relationships, ∀ side, (r.endAt side).classId < c.classes.length

/-- One step up a chain. -/
def Rises (c : Catalog) (id general : ClassId) : Prop := c.general? id = some general

variable {c : Catalog} {id i general : ClassId} {chain : List ClassId} {steps : ℕ}

lemma entry?_of_lt (hid : id < c.classes.length) : c.entry? id = some c.classes[id] :=
  List.getElem?_eq_getElem hid

lemma general_getElem (hid : id < c.classes.length) : c.classes[id].general = c.general? id := by
  rw [general?, entry?_of_lt hid, Option.bind_some]

lemma className_eq {entry : ClassEntry} (h : c.entry? id = some entry) :
    c.className id = entry.name := by
  simp [className, h]

theorem upwards_eq (h : Ascent c.Rises id chain) (hsteps : chain.length ≤ steps + 1) :
    c.upwards steps id = chain := by
  induction h generalizing steps with
  | @top id htop =>
    have hnone : c.general? id = none := Option.eq_none_iff_forall_ne_some.2 htop
    cases steps <;> simp [upwards, hnone]
  | @step id general chain hrise hchain ih =>
    cases steps with
    | zero =>
      cases hchain <;> simp at hsteps
    | succ steps =>
      have hsome : c.general? id = some general := hrise
      simp only [List.length_cons] at hsteps
      simp only [upwards, hsome, ih (Nat.succ_le_succ_iff.1 hsteps)]

namespace Coherent

variable (hc : c.Coherent)
include hc

/-- An entry is found by its own identity. -/
lemma entry?_id {entry : ClassEntry} (h : entry ∈ c.classes) : c.entry? entry.id = some entry := by
  obtain ⟨i, hi⟩ := List.mem_iff_getElem?.1 h
  rwa [hc.ids i entry hi]

lemma id_lt {entry : ClassEntry} (h : entry ∈ c.classes) : entry.id < c.classes.length :=
  (List.getElem?_eq_some_iff.1 (hc.entry?_id h)).1

lemma nodup_classNames : (c.classes.map (·.name)).Nodup := hc.classNames.imp fun h => Std.ne_of_lt h

theorem className_inj {i j : ClassId} (hi : i < c.classes.length) (hj : j < c.classes.length)
    (h : c.className i = c.className j) : i = j := by
  have hname : ∀ x, x < c.classes.length →
      (c.classes.map (·.name))[x]? = some (c.className x) := by
    intro x hx
    simp [className, entry?, hx]
  refine (List.getElem?_inj (by simpa) hc.nodup_classNames).1 ?_
  rw [hname i hi, hname j hj, h]

lemma lt_of_mem_ascent {x : ClassId} (h : Ascent c.Rises id chain) (hid : id < c.classes.length)
    (hx : x ∈ chain) : x < c.classes.length := by
  induction h with
  | top _ => exact List.mem_singleton.1 hx ▸ hid
  | step hrise _ ih =>
    rcases List.mem_cons.1 hx with rfl | hx
    · exact hid
    · exact ih (hc.generals _ _ hrise) hx

/-- A chain of classes of the catalog has no more of them than there are. -/
theorem length_le_of_lt (h : Ascent c.Rises id chain) (hid : id < c.classes.length) :
    chain.length ≤ c.classes.length := by
  have hsub : chain ⊆ List.range c.classes.length := fun _ hx =>
    List.mem_range.2 (hc.lt_of_mem_ascent h hid hx)
  simpa using ((h.nodup hc.grounded).subperm hsub).length_le

lemma length_le_of_ascent (h : Ascent c.Rises id chain) :
    chain.length ≤ c.classes.length + 1 := by
  cases h with
  | top _ => simp
  | step hrise hchain => simpa using hc.length_le_of_lt hchain (hc.generals _ _ hrise)

/-- The lineage is the whole chain, its top first. -/
theorem lineage_eq (h : Ascent c.Rises id chain) : c.lineage id = chain.reverse := by
  rw [lineage, upwards_eq h (hc.length_le_of_ascent h)]

theorem exists_ascent (id : ClassId) : ∃ chain, Ascent c.Rises id chain :=
  Ascent.exists_of_wellFounded hc.grounded id

theorem lineage_of_top (h : c.general? id = none) : c.lineage id = [id] :=
  hc.lineage_eq (.top fun _ hrise => by simp [Rises, h] at hrise)

theorem lineage_of_general (h : c.general? id = some general) :
    c.lineage id = c.lineage general ++ [id] := by
  obtain ⟨chain, hchain⟩ := hc.exists_ascent general
  rw [hc.lineage_eq hchain, hc.lineage_eq (.step h hchain), List.reverse_cons]

theorem lineage_eq_ancestors_append (id : ClassId) : c.lineage id = c.ancestors id ++ [id] := by
  cases h : c.general? id with
  | none => simp [ancestors, hc.lineage_of_top h]
  | some general => simp [ancestors, hc.lineage_of_general h]

theorem nodup_lineage (id : ClassId) : (c.lineage id).Nodup := by
  obtain ⟨chain, hchain⟩ := hc.exists_ascent id
  rw [hc.lineage_eq hchain, List.nodup_reverse]
  exact hchain.nodup hc.grounded

lemma not_mem_ancestors (id : ClassId) : id ∉ c.ancestors id := by
  intro h
  have hnd := hc.nodup_lineage id
  rw [hc.lineage_eq_ancestors_append] at hnd
  exact (List.nodup_append.1 hnd).2.2 id h id (by simp) rfl

/-- The lineage of a class on the way is a part of the lineage. -/
lemma lineage_subset (h : i ∈ c.lineage id) : c.lineage i ⊆ c.lineage id := by
  obtain ⟨chain, hchain⟩ := hc.exists_ascent id
  induction hchain with
  | @top id htop =>
    have hnone : c.general? id = none := Option.eq_none_iff_forall_ne_some.2 htop
    rw [hc.lineage_of_top hnone, List.mem_singleton] at h
    exact h ▸ List.Subset.refl _
  | @step id general chain hrise _ ih =>
    rw [hc.lineage_of_general hrise, List.mem_append, List.mem_singleton] at h
    rcases h with h | rfl
    · rw [hc.lineage_of_general hrise]
      exact List.subset_append_of_subset_left _ (ih h)
    · exact List.Subset.refl _

/-- Each class of a lineage is an ancestor of those that come after it, and none of them is one of
its own. -/
lemma pairwise_lineage (id : ClassId) :
    (c.lineage id).Pairwise fun i j => i ∈ c.lineage j ∧ j ∉ c.lineage i := by
  obtain ⟨chain, hchain⟩ := hc.exists_ascent id
  induction hchain with
  | @top id htop =>
    have hnone : c.general? id = none := Option.eq_none_iff_forall_ne_some.2 htop
    rw [hc.lineage_of_top hnone]
    exact List.pairwise_singleton _ _
  | @step id general chain hrise _ ih =>
    have hlineage := hc.lineage_of_general hrise
    have hnot : id ∉ c.lineage general := by
      simpa [ancestors, hlineage] using hc.not_mem_ancestors id
    rw [hlineage]
    refine List.pairwise_append.2 ⟨ih, List.pairwise_singleton _ _, fun i hi j hj => ?_⟩
    obtain rfl := List.mem_singleton.1 hj
    refine ⟨?_, fun hmem => hnot (hc.lineage_subset hi hmem)⟩
    rw [hlineage]
    exact List.mem_append_left _ hi

theorem lt_of_mem_lineage {x : ClassId} (hid : id < c.classes.length) (hx : x ∈ c.lineage id) :
    x < c.classes.length := by
  obtain ⟨chain, hchain⟩ := hc.exists_ascent id
  rw [hc.lineage_eq hchain, List.mem_reverse] at hx
  exact hc.lt_of_mem_ascent hchain hid hx

end Coherent

end Blueprint.Catalog
