import Blueprint.Proofs.Generals

/-!
# Searching for cycles

The search for a cycle walks up the generals from one class after another, and nothing but the
classes that it has visited stops a walk. Such a walk always stops, after at most one turn more than
there are classes with a general: either at a class without a general, with no cycle in reach, or at
a class that lies on a cycle. So the order in which the classes are tried decides nothing but which
class of a cycle is named.
-/
namespace Blueprint

open Relation (TransGen ReflTransGen)

namespace Parents

variable {parents : Parents} {visited : List String} {current start name : String}
  {steps turns other : ℕ} {w w' : Walk}

/-! ## Walks without a bound -/

/-- A walk that has come from the visited classes to the current one stops after so many turns. -/
inductive Runs (parents : Parents) : List String → String → ℕ → Walk → Prop
  | ends {visited : List String} {current : String} (h : parents.lookup current = none) :
      Runs parents visited current 0 .ends
  | returns {visited : List String} {current general : String} (h : parents.Leads current general)
      (hvisited : current ∈ visited) : Runs parents visited current 1 (.returnsTo current)
  | step {visited : List String} {current general : String} {turns : ℕ} {w : Walk}
      (h : parents.Leads current general) (hnew : current ∉ visited)
      (hrest : Runs parents (current :: visited) general turns w) :
      Runs parents visited current (turns + 1) w

/-- There is only one way for a walk to go. -/
theorem Runs.unique (h : parents.Runs visited current turns w)
    (h' : parents.Runs visited current other w') : turns = other ∧ w = w' := by
  induction h generalizing other w' with
  | ends hnone =>
    cases h' with
    | ends _ => exact ⟨rfl, rfl⟩
    | returns hsome _ => simp [Leads, hnone] at hsome
    | step hsome _ _ => simp [Leads, hnone] at hsome
  | returns hsome hvisited =>
    cases h' with
    | ends hnone => simp [Leads, hnone] at hsome
    | returns _ _ => exact ⟨rfl, rfl⟩
    | step _ hnew _ => exact absurd hvisited hnew
  | step hsome hnew _ ih =>
    cases h' with
    | ends hnone => simp [Leads, hnone] at hsome
    | returns _ hvisited => exact absurd hvisited hnew
    | step hsome' _ hrest' =>
      obtain rfl := Option.some.inj (hsome.symm.trans hsome')
      obtain ⟨rfl, rfl⟩ := ih hrest'
      exact ⟨rfl, rfl⟩

theorem Runs.reaches (h : parents.Runs visited current turns w) (hw : w = .returnsTo name) :
    ReflTransGen parents.Leads current name := by
  induction h with
  | ends _ => simp at hw
  | returns _ _ => rw [Walk.returnsTo.inj hw]
  | step hstep _ _ ih => exact .head hstep (ih hw)

/-- A walk that is not cut off by its bound goes as it would without one. -/
theorem exists_runs_of_walk (h : parents.walk steps visited current ≠ .unfinished) :
    ∃ turns ≤ steps, parents.Runs visited current turns (parents.walk steps visited current) := by
  induction steps generalizing visited current with
  | zero => simp [walk] at h
  | succ steps ih =>
    cases hl : parents.lookup current with
    | none =>
      have hw : parents.walk (steps + 1) visited current = .ends := by simp [walk, hl]
      exact ⟨0, Nat.zero_le _, hw ▸ .ends hl⟩
    | some general =>
      by_cases hv : current ∈ visited
      · have hw : parents.walk (steps + 1) visited current = .returnsTo current := by
          simp [walk, hl, hv]
        exact ⟨1, by omega, hw ▸ .returns hl hv⟩
      · have hw : parents.walk (steps + 1) visited current =
            parents.walk steps (current :: visited) general := by simp [walk, hl, hv]
        rw [hw] at h ⊢
        obtain ⟨turns, hle, hruns⟩ := ih h
        exact ⟨turns + 1, by omega, .step hl hv hruns⟩

/-! ## Where walks stop -/

/-- How the walk from a class goes: when it stops, and that it finds a cycle if one is in reach. -/
structure Walks (parents : Parents) (start : String) (turns : ℕ) (w : Walk) : Prop where
  runs : parents.Runs [] start turns w
  only : ∀ other w', parents.Runs [] start other w' → other = turns ∧ w' = w
  turns_le : turns ≤ parents.length + 1
  walkFrom_eq : parents.walkFrom start = w
  on_cycle : ∀ name, w = .returnsTo name →
    ReflTransGen parents.Leads start name ∧ TransGen parents.Leads name name
  returns_iff : (∃ name, w = .returnsTo name) ↔
    ∃ name, ReflTransGen parents.Leads start name ∧ TransGen parents.Leads name name

/-- What can be reached from a class above which every chain ends is such a class as well. -/
lemma acc_of_reaches (h : Acc (fun general specific => parents.Leads specific general) start)
    (hreach : ReflTransGen parents.Leads start name) :
    Acc (fun general specific => parents.Leads specific general) name := by
  induction hreach with
  | refl => exact h
  | tail _ hstep ih => exact ih.inv hstep

theorem exists_walks (parents : Parents) (start : String) :
    ∃ turns w, parents.Walks start turns w := by
  have hfinished : parents.walkFrom start ≠ .unfinished := walkFrom_ne_unfinished
  obtain ⟨turns, hle, hruns⟩ := exists_runs_of_walk hfinished
  have hcycle : ∀ name, parents.walkFrom start = .returnsTo name →
      ReflTransGen parents.Leads start name ∧ TransGen parents.Leads name name := fun name hw =>
    ⟨hruns.reaches hw, cycle_of_walk_returnsTo (by simp) hw⟩
  refine ⟨turns, _, hruns, fun other w' h => h.unique hruns, hle, rfl, hcycle, ?_⟩
  constructor
  · rintro ⟨name, hw⟩
    exact ⟨name, hcycle name hw⟩
  · rintro ⟨name, hreach, hname⟩
    cases hw : parents.walkFrom start with
    | ends =>
      have hacc := acc_of_reaches (acc_of_walk_ends hw) hreach
      exact absurd hname (not_transGen_self_of_acc hacc)
    | returnsTo other => exact ⟨other, hw⟩
    | unfinished => exact absurd hw hfinished

lemma transGen_of_cycle?_eq_some {starts : List String} (h : parents.cycle? starts = some name) :
    TransGen parents.Leads name name := by
  obtain ⟨start, -, hwalk⟩ := List.exists_of_findSome?_eq_some h
  cases hw : parents.walkFrom start with
  | ends => simp [hw] at hwalk
  | returnsTo other =>
    obtain rfl : other = name := by simpa [hw] using hwalk
    exact cycle_of_walk_returnsTo (by simp) hw
  | unfinished => simp [hw] at hwalk

end Parents

namespace Model

variable {m : Model} {parents all : Parents} {gs : List Generalization} {order : StartOrder}
  {name : String} {defect : Defect}

/-- A class is entered once among those with a general. -/
theorem nodup_addParents (hnd : (parents.map (·.1)).Nodup)
    (h : m.addParents parents gs = .ok all) : (all.map (·.1)).Nodup := by
  induction gs generalizing parents with
  | nil =>
    obtain rfl : parents = all := by simpa [addParents] using h
    exact hnd
  | cons g gs ih =>
    simp only [addParents] at h
    split at h
    · simp at h
    · split at h
      · simp at h
      · split at h
        · next hl =>
          refine ih ?_ h
          rw [List.map_append, List.map_cons, List.map_nil, List.nodup_append]
          refine ⟨hnd, List.nodup_singleton _, ?_⟩
          intro name hname last hlast heq
          rw [List.mem_singleton] at hlast
          rw [heq, hlast] at hname
          exact lookup_eq_none_iff_not_mem.1 hl hname
        · split at h
          · exact ih hnd h
          · simp at h

/-! ## The search of a model -/

lemma generalizationDefect?_eq_map (h : m.addParents [] m.generalizations = .ok parents)
    (order : StartOrder) : m.generalizationDefect? order =
      (parents.cycle? (order.arrange (parents.map (·.1)))).map .generalizationCycle := by
  rw [generalizationDefect?, h]

/-- The class that is named is on a cycle, and not only below one. -/
lemma transGen_of_generalizationDefect?
    (h : m.generalizationDefect? order = some (.generalizationCycle name))
    (hparents : m.addParents [] m.generalizations = .ok parents) :
    TransGen m.HasGeneral name name := by
  rw [generalizationDefect?_eq_map hparents] at h
  obtain ⟨other, hfound, heq⟩ := Option.map_eq_some_iff.1 h
  obtain rfl := Defect.generalizationCycle.inj heq
  exact leads_of_addParents hparents ▸ Parents.transGen_of_cycle?_eq_some hfound

/-- With the classes tried in this order every walk stops, and the check reports exactly whether
there is a cycle, by the name of a class on it. -/
structure FindsCycles (m : Model) (order : StartOrder) : Prop where
  walks : ∃ parents, m.addParents [] m.generalizations = .ok parents ∧
    (parents.map (·.1)).Nodup ∧ parents.Leads = m.HasGeneral ∧
    ∀ start ∈ order.arrange (parents.map (·.1)), ∃ turns w, parents.Walks start turns w
  reports_iff : (∃ name, m.generalizationDefect? order = some (.generalizationCycle name)) ↔
    ∃ name, TransGen m.HasGeneral name name
  on_cycle : ∀ name, m.generalizationDefect? order = some (.generalizationCycle name) →
    TransGen m.HasGeneral name name
  passes_iff : m.generalizationDefect? order = none ↔ ∀ name, ¬ TransGen m.HasGeneral name name
  agrees : ∀ order', (m.generalizationDefect? order).isSome =
    (m.generalizationDefect? order').isSome

/-- Cycles are found exactly, whatever the order in which the classes are tried. -/
theorem cycle_search_exact (hdeclared : ∀ g ∈ m.generalizations,
      g.general ∈ m.classNames ∧ g.specific ∈ m.classNames)
    (hsingle : ∀ g ∈ m.generalizations, ∀ h ∈ m.generalizations,
      g.specific = h.specific → g.general = h.general)
    (order : StartOrder) : m.FindsCycles order := by
  have haddable : m.Addable [] m.generalizations :=
    ⟨fun g hg => by simpa [declaresClass_iff] using hdeclared g hg, hsingle, by simp⟩
  obtain ⟨parents, hparents⟩ := exists_addParents_iff.2 haddable
  have hleads : parents.Leads = m.HasGeneral := leads_of_addParents hparents
  have hnone : ∀ order, m.generalizationDefect? order = none ↔
      ∀ name, ¬ TransGen m.HasGeneral name name := by
    intro order
    rw [generalizationDefect?_eq_none_iff]
    exact ⟨fun h => h.2.2, fun h => ⟨haddable.declared, hsingle, h⟩⟩
  have hcycle : ∀ name, m.generalizationDefect? order = some (.generalizationCycle name) →
      TransGen m.HasGeneral name name := fun name hname =>
    transGen_of_generalizationDefect? hname hparents
  constructor
  case walks =>
    exact ⟨parents, hparents, nodup_addParents (by simp) hparents, hleads,
      fun start _ => parents.exists_walks start⟩
  case reports_iff =>
    -- nothing else can be reported here, so a check that does not pass reports a cycle
    refine ⟨fun ⟨name, hname⟩ => ⟨name, hcycle name hname⟩, fun ⟨name, hname⟩ => ?_⟩
    have hsome : m.generalizationDefect? order ≠ none := fun hn => (hnone order).1 hn name hname
    rw [generalizationDefect?_eq_map hparents, ne_eq, Option.map_eq_none_iff] at hsome
    obtain ⟨found, hfound⟩ := Option.ne_none_iff_exists'.1 hsome
    exact ⟨found, by rw [generalizationDefect?_eq_map hparents, hfound, Option.map_some]⟩
  case on_cycle => exact hcycle
  case passes_iff => exact hnone order
  case agrees =>
    intro order'
    have hsame := (hnone order).trans (hnone order').symm
    rw [Bool.eq_iff_iff, Option.isSome_iff_ne_none, Option.isSome_iff_ne_none]
    exact not_congr hsame

/-- A loop that is entered from outside, and a class that is its own general. -/
def tangle : Model where
  name := "Tangle"
  classes := [⟨"Tail", [], false⟩, ⟨"Loop", [], false⟩, ⟨"Back", [], false⟩, ⟨"Self", [], false⟩,
    ⟨"Root", [], false⟩, ⟨"Leaf", [], false⟩]
  enumerations := []
  associations := []
  generalizations := [⟨"Root", "Leaf"⟩, ⟨"Loop", "Tail"⟩, ⟨"Back", "Loop"⟩, ⟨"Loop", "Back"⟩,
    ⟨"Self", "Self"⟩]

/-- Tried from the last class on, the class above itself is found before the loop. -/
theorem tangle_cycles_found :
    (∀ order, tangle.FindsCycles order) ∧
    tangle.generalizationDefect? ⟨List.reverse, List.reverse_perm⟩ =
      some (.generalizationCycle "Self") ∧
    tangle.generalizationDefect? .declared = some (.generalizationCycle "Loop") := by
  refine ⟨cycle_search_exact (by decide) (by decide), ?_, ?_⟩
  · decide
  · decide

/-! ## What the order decides -/

/-- Two defects of a model are the same, but that each names the cycles of the model by a class of
its own. -/
inductive SameDefect (m : Model) : Defect → Defect → Prop
  | refl (defect : Defect) : SameDefect m defect defect
  | cycle {name name' : String} (h : TransGen m.HasGeneral name name)
      (h' : TransGen m.HasGeneral name' name') :
      SameDefect m (.generalizationCycle name) (.generalizationCycle name')

lemma exists_sameDefect_of_generalizationDefect?
    (h : m.generalizationDefect? order = some defect) (order' : StartOrder) :
    ∃ defect', m.generalizationDefect? order' = some defect' ∧ m.SameDefect defect defect' := by
  cases hparents : m.addParents [] m.generalizations with
  | error other =>
    rw [generalizationDefect?, hparents] at h
    exact ⟨defect, by rw [generalizationDefect?, hparents, h], .refl _⟩
  | ok parents =>
    have hsome : m.generalizationDefect? order' ≠ none := by
      rw [ne_eq, generalizationDefect?_eq_none_iff, ← generalizationDefect?_eq_none_iff, h]
      exact Option.some_ne_none defect
    obtain ⟨defect', h'⟩ := Option.ne_none_iff_exists'.1 hsome
    refine ⟨defect', h', ?_⟩
    have hname := (generalizationDefect?_eq_map hparents order).symm.trans h
    have hname' := (generalizationDefect?_eq_map hparents order').symm.trans h'
    obtain ⟨name, -, rfl⟩ := Option.map_eq_some_iff.1 hname
    obtain ⟨name', -, rfl⟩ := Option.map_eq_some_iff.1 hname'
    exact .cycle (transGen_of_generalizationDefect? h hparents)
      (transGen_of_generalizationDefect? h' hparents)

/-- Nothing but the search for cycles depends on the order. -/
theorem exists_sameDefect_of_defect? (h : m.defect? order = some defect) (order' : StartOrder) :
    ∃ defect', m.defect? order' = some defect' ∧ m.SameDefect defect defect' := by
  rcases Option.or_eq_some_iff.1 h with h | ⟨hnone, h⟩
  · exact ⟨defect, Option.or_eq_some_iff.2 (.inl h), .refl _⟩
  · obtain ⟨defect', h', hsame⟩ := exists_sameDefect_of_generalizationDefect? h order'
    exact ⟨defect', Option.or_eq_some_iff.2 (.inr ⟨hnone, h'⟩), hsame⟩

end Model

end Blueprint
