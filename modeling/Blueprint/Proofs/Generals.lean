import Blueprint.Model.Check
import Blueprint.Proofs.Ascent
import Blueprint.Proofs.Names
import Mathlib.Data.List.Perm.Subperm

/-!
# Generals and their cycles

A walk up the generals is never cut off by the bound on its steps: it reaches a class without a
general, from which no cycle is in reach, or it returns to a class that lies on a cycle. So the
walks from all classes with a general find a cycle exactly if there is one. The generals of a model
can be collected exactly if they are declared and no class has two of them.
-/
namespace Blueprint

open Relation (TransGen ReflTransGen)

/-! ## Walks -/

namespace Parents

variable {parents : Parents} {starts visited : List String} {steps : ℕ} {start current : String}

/-- One step of a walk. -/
def Leads (parents : Parents) (specific general : String) : Prop :=
  parents.lookup specific = some general

/-- No class is visited twice before the walk returns, so it runs out of classes before it runs out
of steps. -/
theorem walk_ne_unfinished (hnd : visited.Nodup) (hsub : visited ⊆ parents.map (·.1))
    (hsteps : parents.length < steps + visited.length) :
    parents.walk steps visited current ≠ .unfinished := by
  induction steps generalizing visited current with
  | zero =>
    have hle := (hnd.subperm hsub).length_le
    rw [List.length_map] at hle
    omega
  | succ steps ih =>
    simp only [walk]
    cases h : parents.lookup current with
    | none => simp
    | some general =>
      by_cases hv : current ∈ visited
      · simp [hv]
      · simp only [List.contains_eq_mem, decide_eq_true_eq, hv, if_false]
        refine ih (List.nodup_cons.2 ⟨hv, hnd⟩) ?_ ?_
        · exact List.cons_subset.2 ⟨mem_map_fst_of_lookup h, hsub⟩
        · simp only [List.length_cons]
          omega

theorem walkFrom_ne_unfinished : parents.walkFrom start ≠ .unfinished :=
  walk_ne_unfinished .nil (List.nil_subset _) (by simp)

/-- The class that a walk returns to is on a cycle, and not only before one. -/
theorem cycle_of_walk_returnsTo {name : String}
    (hreach : ∀ v ∈ visited, TransGen parents.Leads v current)
    (h : parents.walk steps visited current = .returnsTo name) :
    TransGen parents.Leads name name := by
  induction steps generalizing visited current with
  | zero => simp [walk] at h
  | succ steps ih =>
    simp only [walk] at h
    cases hl : parents.lookup current with
    | none => simp [hl] at h
    | some general =>
      by_cases hv : current ∈ visited
      · have he : current = name := by simpa [hl, hv] using h
        exact he ▸ hreach current hv
      · simp only [hl, List.contains_eq_mem, decide_eq_true_eq, hv, if_false] at h
        refine ih (fun v hmem => ?_) h
        rcases List.mem_cons.1 hmem with rfl | hmem
        · exact .single hl
        · exact (hreach v hmem).tail hl

theorem acc_of_walk_ends (h : parents.walk steps visited current = .ends) :
    Acc (fun general specific => parents.Leads specific general) current := by
  induction steps generalizing visited current with
  | zero => simp [walk] at h
  | succ steps ih =>
    refine ⟨_, fun general hg => ?_⟩
    have hl : parents.lookup current = some general := hg
    by_cases hv : current ∈ visited
    · simp [walk, hl, hv] at h
    · have hrest : parents.walk steps (current :: visited) general = .ends := by
        simpa [walk, hl, hv] using h
      exact ih hrest

lemma walkFrom_ends_of_no_cycle (h : ∀ name, ¬ TransGen parents.Leads name name) :
    parents.walkFrom start = .ends := by
  cases hw : parents.walkFrom start with
  | ends => rfl
  | returnsTo name => exact absurd (cycle_of_walk_returnsTo (by simp) hw) (h name)
  | unfinished => exact absurd hw walkFrom_ne_unfinished

lemma mem_keys_of_transGen {name other : String} (h : TransGen parents.Leads name other) :
    name ∈ parents.map (·.1) := by
  obtain ⟨general, hg, -⟩ := TransGen.head'_iff.1 h
  exact mem_map_fst_of_lookup hg

/-- Whatever the order of the starts, walks from all classes with a general find a cycle exactly if
there is one. -/
theorem cycle?_eq_none_iff (hstarts : ∀ name ∈ parents.map (·.1), name ∈ starts) :
    parents.cycle? starts = none ↔ ∀ name, ¬ TransGen parents.Leads name name := by
  simp only [cycle?, List.findSome?_eq_none_iff]
  constructor
  · intro h name hcycle
    have hwalk := h name (hstarts name (mem_keys_of_transGen hcycle))
    cases hw : parents.walkFrom name with
    | ends => exact not_transGen_self_of_acc (acc_of_walk_ends hw) hcycle
    | returnsTo other => simp [hw] at hwalk
    | unfinished => exact absurd hw walkFrom_ne_unfinished
  · intro h start _
    simp [walkFrom_ends_of_no_cycle h]

/-- Without cycles every chain of generals ends. -/
theorem wellFounded_of_no_cycle (h : ∀ name, ¬ TransGen parents.Leads name name) :
    WellFounded fun general specific => parents.Leads specific general :=
  ⟨fun _ => acc_of_walk_ends (walkFrom_ends_of_no_cycle h)⟩

end Parents

/-! ## The generals of a model -/

namespace Model

variable (m : Model)

/-- The model declares the generalization. -/
def HasGeneral (specific general : String) : Prop := ⟨general, specific⟩ ∈ m.generalizations

def classNames : List String := m.classes.map (·.name)

def enumerationNames : List String := m.enumerations.map (·.name)

theorem declaresClass_iff (name : String) :
    m.declaresClass name = true ↔ name ∈ m.classNames := by
  simp [declaresClass, classNames]

theorem declaresEnumeration_iff (name : String) :
    m.declaresEnumeration name = true ↔ name ∈ m.enumerationNames := by
  simp [declaresEnumeration, enumerationNames]

/-- Generalizations that can be added to some generals: they are between declared classes, and
neither they nor the generals before give a class two generals. -/
structure Addable (parents : Parents) (gs : List Generalization) : Prop where
  declared : ∀ g ∈ gs, m.declaresClass g.general ∧ m.declaresClass g.specific
  single : ∀ g ∈ gs, ∀ h ∈ gs, g.specific = h.specific → g.general = h.general
  agrees : ∀ g ∈ gs, ∀ general, parents.lookup g.specific = some general → general = g.general

variable {m} {parents : Parents} {g : Generalization} {gs : List Generalization}
  {order : StartOrder}

lemma addable_nil : m.Addable parents [] := ⟨by simp, by simp, by simp⟩

lemma single_cons (hg : ∀ x ∈ gs, g.specific = x.specific → g.general = x.general)
    (hgs : ∀ x ∈ gs, ∀ y ∈ gs, x.specific = y.specific → x.general = y.general) :
    ∀ x ∈ g :: gs, ∀ y ∈ g :: gs, x.specific = y.specific → x.general = y.general := by
  simp only [List.mem_cons, forall_eq_or_imp]
  exact ⟨⟨fun _ => trivial, hg⟩, fun x hx => ⟨fun he => (hg x hx he.symm).symm, hgs x hx⟩⟩

lemma lookup_append_new (hl : parents.lookup g.specific = none) (specific general : String) :
    (parents ++ [(g.specific, g.general)]).lookup specific = some general ↔
      parents.lookup specific = some general ∨ specific = g.specific ∧ general = g.general := by
  rw [List.lookup_append]
  by_cases he : specific = g.specific
  · subst he
    simp [hl, eq_comm]
  · simp [he]

lemma addable_cons_of_lookup_none (hl : parents.lookup g.specific = none) :
    m.Addable parents (g :: gs) ↔ (m.declaresClass g.general ∧ m.declaresClass g.specific) ∧
      m.Addable (parents ++ [(g.specific, g.general)]) gs := by
  constructor
  · intro h
    refine ⟨h.declared g (.head _), fun x hx => h.declared x (.tail _ hx),
      fun x hx y hy => h.single x (.tail _ hx) y (.tail _ hy), fun x hx general hg => ?_⟩
    rcases (lookup_append_new hl x.specific general).1 hg with hg | ⟨he, rfl⟩
    · exact h.agrees x (.tail _ hx) general hg
    · exact h.single g (.head _) x (.tail _ hx) he.symm
  · rintro ⟨hd, h⟩
    have hsame : ∀ x ∈ gs, g.specific = x.specific → g.general = x.general := fun x hx he =>
      h.agrees x hx g.general ((lookup_append_new hl _ _).2 (.inr ⟨he.symm, rfl⟩))
    refine ⟨?_, single_cons hsame h.single, ?_⟩
    · simpa using ⟨hd, h.declared⟩
    · intro x hx general hg
      rcases List.mem_cons.1 hx with rfl | hx
      · simp [hl] at hg
      · exact h.agrees x hx general ((lookup_append_new hl _ _).2 (.inl hg))

lemma addable_cons_of_lookup_some {general : String}
    (hl : parents.lookup g.specific = some general) :
    m.Addable parents (g :: gs) ↔ (m.declaresClass g.general ∧ m.declaresClass g.specific) ∧
      general = g.general ∧ m.Addable parents gs := by
  constructor
  · intro h
    exact ⟨h.declared g (.head _), h.agrees g (.head _) general hl,
      fun x hx => h.declared x (.tail _ hx),
      fun x hx y hy => h.single x (.tail _ hx) y (.tail _ hy),
      fun x hx => h.agrees x (.tail _ hx)⟩
  · rintro ⟨hd, rfl, h⟩
    have hsame : ∀ x ∈ gs, g.specific = x.specific → g.general = x.general := fun x hx he =>
      h.agrees x hx g.general (he ▸ hl)
    refine ⟨?_, ?_, ?_⟩
    · simpa using ⟨hd, h.declared⟩
    · exact single_cons hsame h.single
    · intro x hx other ho
      rcases List.mem_cons.1 hx with rfl | hx
      · exact Option.some.inj (ho.symm.trans hl)
      · exact h.agrees x hx other ho

theorem exists_addParents_iff :
    (∃ all, m.addParents parents gs = .ok all) ↔ m.Addable parents gs := by
  induction gs generalizing parents with
  | nil => simp [addParents, addable_nil]
  | cons g gs ih =>
    by_cases hgen : m.declaresClass g.general
    · by_cases hspec : m.declaresClass g.specific
      · cases hl : parents.lookup g.specific with
        | none => simp [addParents, hgen, hspec, hl, ih, addable_cons_of_lookup_none hl]
        | some general =>
          by_cases he : general = g.general
          · simp [addParents, hgen, hspec, hl, he, ih, addable_cons_of_lookup_some hl]
          · simp [addParents, hgen, hspec, hl, he, addable_cons_of_lookup_some hl]
      · have hnot : ¬ m.Addable parents (g :: gs) := fun h => hspec (h.declared g (.head _)).2
        simp [addParents, hgen, hspec, hnot]
    · have hnot : ¬ m.Addable parents (g :: gs) := fun h => hgen (h.declared g (.head _)).1
      simp [addParents, hgen, hnot]

/-- Repeated generalizations are added once, and nothing but generalizations is. -/
theorem lookup_addParents {all : Parents} (h : m.addParents parents gs = .ok all)
    (specific general : String) :
    all.lookup specific = some general ↔
      parents.lookup specific = some general ∨ ⟨general, specific⟩ ∈ gs := by
  induction gs generalizing parents with
  | nil =>
    have he : parents = all := by simpa [addParents] using h
    simp [he]
  | cons g gs ih =>
    by_cases hgen : m.declaresClass g.general
    · by_cases hspec : m.declaresClass g.specific
      · cases hl : parents.lookup g.specific with
        | none =>
          rw [ih (by simpa [addParents, hgen, hspec, hl] using h), lookup_append_new hl, or_assoc]
          have heq : specific = g.specific ∧ general = g.general ↔
              (⟨general, specific⟩ : Generalization) = g := by
            rw [and_comm]
            exact ⟨fun ⟨hg, hs⟩ => by rw [hg, hs], fun he => he ▸ ⟨rfl, rfl⟩⟩
          rw [heq, List.mem_cons]
        | some other =>
          by_cases he : other = g.general
          · rw [ih (by simpa [addParents, hgen, hspec, hl, he] using h)]
            constructor
            · exact Or.imp_right (.tail _)
            · rintro (h | h)
              · exact .inl h
              · rcases List.mem_cons.1 h with rfl | h
                · exact .inl (hl.trans (congrArg some he))
                · exact .inr h
          · simp [addParents, hgen, hspec, hl, he] at h
      · simp [addParents, hgen, hspec] at h
    · simp [addParents, hgen] at h

lemma leads_of_addParents {all : Parents} (h : m.addParents [] m.generalizations = .ok all) :
    Parents.Leads all = m.HasGeneral := by
  funext specific general
  exact propext ((lookup_addParents h specific general).trans (by simp [HasGeneral]))

/-- The generals of a model can be collected, and they have no cycle. It makes no difference in
which order the classes are tried. -/
theorem generalizationDefect?_eq_none_iff :
    m.generalizationDefect? order = none ↔
      (∀ g ∈ m.generalizations, m.declaresClass g.general ∧ m.declaresClass g.specific) ∧
      (∀ g ∈ m.generalizations, ∀ h ∈ m.generalizations,
        g.specific = h.specific → g.general = h.general) ∧
      ∀ name, ¬ TransGen m.HasGeneral name name := by
  have hok : (∃ all, m.addParents [] m.generalizations = .ok all) ↔
      m.Addable [] m.generalizations := exists_addParents_iff
  cases h : m.addParents [] m.generalizations with
  | error defect =>
    have hnot : ¬ m.Addable [] m.generalizations := by simpa [h] using hok
    simp only [generalizationDefect?, h, reduceCtorEq, false_iff]
    rintro ⟨hd, hs, -⟩
    exact hnot ⟨hd, hs, by simp⟩
  | ok all =>
    have hadd : m.Addable [] m.generalizations := by simpa [h] using hok
    have hcycle : Parents.cycle? all (order.arrange (all.map (·.1))) = none ↔
        ∀ name, ¬ TransGen all.Leads name name :=
      Parents.cycle?_eq_none_iff fun _ hn => (order.perm _).mem_iff.2 hn
    simp only [generalizationDefect?, h, Option.map_eq_none_iff, hcycle, leads_of_addParents h]
    exact ⟨fun hc => ⟨hadd.declared, hadd.single, hc⟩, fun hall => hall.2.2⟩

/-- The generals of a model that passes have no infinite chain. -/
theorem wellFounded_of_generalizationDefect?_eq_none (h : m.generalizationDefect? order = none) :
    WellFounded fun general specific => m.HasGeneral specific general := by
  have hacyclic := (generalizationDefect?_eq_none_iff.1 h).2.2
  cases hadd : m.addParents [] m.generalizations with
  | error defect => simp [generalizationDefect?, hadd] at h
  | ok all =>
    rw [← leads_of_addParents hadd] at hacyclic ⊢
    exact Parents.wellFounded_of_no_cycle hacyclic

end Model

end Blueprint
