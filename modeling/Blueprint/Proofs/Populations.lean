import Blueprint.Proofs.Columns
import Blueprint.Proofs.Exclusivity
import Mathlib.Data.Finset.Card
import Mathlib.Data.Fintype.Prod

/-!
# What a reference stores

Between the instances of the two classes of a relationship there are links, and its multiplicities
say how many there may be. A reference column holds for each instance of its class one linked
instance or null. With a single instance at the end that is referred to, the column stores exactly
the links that the multiplicities allow: it is not nullable where a link is needed, and unique where
an instance is linked only once.
-/
namespace Blueprint

/-- The number of instances is within the bounds. -/
def Multiplicity.Admits (μ : Multiplicity) (n : ℕ) : Prop :=
  μ.min.toNat ≤ n ∧ match μ.max with
    | .bounded b => n ≤ b.toNat
    | .unbounded => True

instance (μ : Multiplicity) (n : ℕ) : Decidable (μ.Admits n) :=
  match h : μ.max with
  | .bounded b =>
    decidable_of_iff (μ.min.toNat ≤ n ∧ n ≤ b.toNat) (by simp only [Multiplicity.Admits, h])
  | .unbounded =>
    decidable_of_iff (μ.min.toNat ≤ n) (by simp only [Multiplicity.Admits, h, and_true])

/-- Of the bounds that a multiplicity can have, one is the only one that admits no more. -/
lemma Multiplicity.max_eq_one {μ : Multiplicity} (hvalid : μ.Valid) (h : μ.isMany = false) :
    μ.max = .bounded 1 := by
  obtain ⟨min, max⟩ := μ
  cases max with
  | bounded n =>
    have hlow : 1 ≤ n := (hvalid n rfl).1
    have hhigh : n ≤ 1 := by simpa [isMany, Bound.isMany] using h
    rw [UInt32.le_antisymm hhigh hlow]
  | unbounded => simp [isMany, Bound.isMany] at h

namespace Population

variable {X Y : Type*} [DecidableEq Y]

/-! ## What a column holds -/

/-- For each owner an instance that it is linked to, or nothing if it is linked to none. -/
def Assigns (f : X → Option Y) (links : Finset (X × Y)) : Prop :=
  ∀ x, match f x with
    | some y => (x, y) ∈ links
    | none => ∀ y, (x, y) ∉ links

/-- The links that can be read off a column. -/
def linksOf [Fintype X] [Fintype Y] (f : X → Option Y) : Finset (X × Y) :=
  Finset.univ.filter fun l => f l.1 = some l.2

@[simp] lemma mem_linksOf [Fintype X] [Fintype Y] {f : X → Option Y} {x : X} {y : Y} :
    (x, y) ∈ linksOf f ↔ f x = some y := by simp [linksOf]

/-! ## Links -/

variable [DecidableEq X]

/-- The instances that an owner is linked to. -/
def targets [Fintype Y] (links : Finset (X × Y)) (x : X) : Finset Y :=
  Finset.univ.filter fun y => (x, y) ∈ links

/-- The owners that are linked to an instance. -/
def owners [Fintype X] (links : Finset (X × Y)) (y : Y) : Finset X :=
  Finset.univ.filter fun x => (x, y) ∈ links

@[simp] lemma mem_targets [Fintype Y] {links : Finset (X × Y)} {x : X} {y : Y} :
    y ∈ targets links x ↔ (x, y) ∈ links := by simp [targets]

@[simp] lemma mem_owners [Fintype X] {links : Finset (X × Y)} {x : X} {y : Y} :
    x ∈ owners links y ↔ (x, y) ∈ links := by simp [owners]

variable [Fintype X] [Fintype Y]

/-- There are as many links as the multiplicities at the two ends allow. -/
structure Permitted (own target : Multiplicity) (links : Finset (X × Y)) : Prop where
  ofOwners : ∀ x, target.Admits (targets links x).card
  ofTargets : ∀ y, own.Admits (owners links y).card

variable {links : Finset (X × Y)} {f g : X → Option Y}

omit [Fintype X] in
lemma exists_assigns (links : Finset (X × Y)) : ∃ f, Assigns f links := by
  have hchoice : ∀ x, ∃ value : Option Y, match value with
      | some y => (x, y) ∈ links
      | none => ∀ y, (x, y) ∉ links := by
    intro x
    by_cases h : ∃ y, (x, y) ∈ links
    · obtain ⟨y, hy⟩ := h
      exact ⟨some y, hy⟩
    · exact ⟨none, not_exists.1 h⟩
  exact ⟨fun x => (hchoice x).choose, fun x => (hchoice x).choose_spec⟩

omit [Fintype X] in
/-- Where an owner is linked to one instance at most, an assignment says which. -/
lemma Assigns.eq_some_iff (h : Assigns f links) (hone : ∀ x, (targets links x).card ≤ 1) (x : X)
    (y : Y) : f x = some y ↔ (x, y) ∈ links := by
  have hx := h x
  cases hf : f x with
  | none =>
    simp only [hf] at hx
    simp [hx y]
  | some z =>
    simp only [hf] at hx
    rw [Option.some_inj]
    constructor
    · rintro rfl
      exact hx
    · intro hy
      exact Finset.card_le_one.1 (hone x) z (mem_targets.2 hx) y (mem_targets.2 hy)

omit [Fintype X] in
lemma Assigns.unique (h : Assigns f links) (h' : Assigns g links)
    (hone : ∀ x, (targets links x).card ≤ 1) : g = f := by
  funext x
  refine Option.ext fun y => ?_
  rw [h.eq_some_iff hone, h'.eq_some_iff hone]

lemma Assigns.linksOf_eq (h : Assigns f links) (hone : ∀ x, (targets links x).card ≤ 1) :
    linksOf f = links := by
  ext ⟨x, y⟩
  rw [mem_linksOf, h.eq_some_iff hone]

lemma card_targets_linksOf (f : X → Option Y) (x : X) :
    (targets (linksOf f) x).card = if (f x).isSome then 1 else 0 := by
  cases hf : f x with
  | none =>
    have hempty : targets (linksOf f) x = ∅ := by
      ext y
      simp [hf]
    rw [hempty]
    rfl
  | some y =>
    have hsingle : targets (linksOf f) x = {y} := by
      ext z
      simp [hf, eq_comm]
    rw [hsingle]
    rfl

end Population

/-! ## Columns that represent links -/

/-- The column admits what is assigned: null only if it is nullable, and if it is unique no value
twice. -/
structure Reference.Accepts {X Y : Type*} (col : Reference) (f : X → Option Y) : Prop where
  notNull : col.nullable = false → ∀ x, f x ≠ none
  unique : col.unique = true → ∀ x x' y, f x = some y → f x' = some y → x = x'

open Population in
/-- Links that the multiplicities permit are stored by one assignment, which the column accepts and
from which they are read again. What is read off an assignment that the column accepts has as many
links for each owner as the multiplicity at the target permits, and at most one for each target if
the other multiplicity permits no more. -/
structure Reference.Represents (col : Reference) (own target : Multiplicity) (X Y : Type*)
    [Fintype X] [Fintype Y] [DecidableEq X] [DecidableEq Y] : Prop where
  stored : ∀ links : Finset (X × Y), Permitted own target links →
    ∃ f, Assigns f links ∧ (∀ g, Assigns g links → g = f) ∧ col.Accepts f ∧ linksOf f = links
  read : ∀ f : X → Option Y, col.Accepts f →
    (∀ x, target.Admits (targets (linksOf f) x).card) ∧
      ((∃ n, own.max = .bounded n ∧ n ≤ 1) → ∀ y, (owners (linksOf f) y).card ≤ 1)

section Represents

open Population

variable {X Y : Type*} [Fintype X] [Fintype Y] [DecidableEq X] [DecidableEq Y]
  {col : Reference} {own target : Multiplicity} {links : Finset (X × Y)} {f : X → Option Y}

lemma Population.Permitted.card_targets_le_one (h : Permitted own target links)
    (hvalid : target.Valid) (hsingle : target.isMany = false) (x : X) :
    (targets links x).card ≤ 1 := by
  have hx := (h.ofOwners x).2
  rw [Multiplicity.max_eq_one hvalid hsingle] at hx
  exact hx

lemma accepts_of_assigns (hown : own.Valid) (hvalid : target.Valid)
    (hsingle : target.isMany = false) (hnullable : col.nullable = !target.isMandatory)
    (hunique : col.unique = !own.isMany) (h : Permitted own target links)
    (hassigns : Assigns f links) : col.Accepts f := by
  have hone := h.card_targets_le_one hvalid hsingle
  constructor
  · intro hnull x hx
    have hmandatory : 0 < target.min := by
      simpa [hnullable, Multiplicity.isMandatory] using hnull
    have hempty : targets links x = ∅ := by
      ext y
      simp [← hassigns.eq_some_iff hone, hx]
    have hmin := (h.ofOwners x).1
    rw [hempty, Finset.card_empty] at hmin
    exact absurd hmin (Nat.not_le.2 (UInt32.lt_iff_toNat_lt.1 hmandatory))
  · intro huniq x x' y hx hx'
    have hmany : own.isMany = false := by simpa [hunique] using huniq
    have hy : (owners links y).card ≤ 1 := by
      have hbound := (h.ofTargets y).2
      rw [Multiplicity.max_eq_one hown hmany] at hbound
      exact hbound
    exact Finset.card_le_one.1 hy x (mem_owners.2 ((hassigns.eq_some_iff hone x y).1 hx)) x'
      (mem_owners.2 ((hassigns.eq_some_iff hone x' y).1 hx'))

/-- A column represents the links to a single instance if it is nullable exactly where a link may be
missing, and unique exactly where an instance is linked once. -/
theorem represents_of_flags (hown : own.Valid) (hvalid : target.Valid)
    (hsingle : target.isMany = false) (hnullable : col.nullable = !target.isMandatory)
    (hunique : col.unique = !own.isMany) : col.Represents own target X Y where
  stored links h := by
    have hone := h.card_targets_le_one hvalid hsingle
    obtain ⟨f, hf⟩ := exists_assigns links
    exact ⟨f, hf, fun g hg => hf.unique hg hone,
      accepts_of_assigns hown hvalid hsingle hnullable hunique h hf, hf.linksOf_eq hone⟩
  read f h := by
    have hmax := Multiplicity.max_eq_one hvalid hsingle
    refine ⟨fun x => ?_, ?_⟩
    · rw [card_targets_linksOf, Multiplicity.Admits, hmax]
      have hmin : target.min.toNat ≤ 1 := UInt32.le_iff_toNat_le.1 (hvalid 1 hmax).2
      cases hfx : f x with
      | some y => exact ⟨hmin, le_rfl⟩
      | none =>
        have hnull : col.nullable = true := by
          by_contra hnot
          exact h.notNull (by simpa using hnot) x hfx
        have hzero : target.min = 0 := by
          simpa [hnullable, Multiplicity.isMandatory] using hnull
        simp [hzero]
    · rintro ⟨n, hn, hle⟩ y
      have hmany : own.isMany = false := by simpa [Multiplicity.isMany, Bound.isMany, hn] using hle
      refine Finset.card_le_one.2 fun x hx x' hx' => ?_
      exact h.unique (by simp [hunique, hmany]) x x' y (by simpa using hx) (by simpa using hx')

end Represents

/-! ## Columns of a model -/

namespace Model

universe u v

variable {m : Model} {a : Association} {o : Options} {k : Compiled} {key : ForeignKey}
  {order : StartOrder}
  {p q : Property}

/-- The reference of a relationship has the flags that its multiplicities ask for. -/
lemma represents_keyReference {c : Catalog} {r : Relationship} {side : Side}
    (howner : r.ownerSide? = some side) (hown : (r.endAt side).multiplicity.Valid)
    (htarget : (r.endAt side.opposite).multiplicity.Valid) (X : Type u) (Y : Type v) [Fintype X]
    [Fintype Y] [DecidableEq X] [DecidableEq Y] :
    (Catalog.keyReference (c.foreignKey r side)).Represents (r.endAt side).multiplicity
      (r.endAt side.opposite).multiplicity X Y := by
  have hsingle := Relationship.isMany_opposite_of_owner howner
  refine represents_of_flags hown htarget hsingle rfl ?_
  cases hmany : (r.endAt side).multiplicity.isMany <;>
    simp [Catalog.keyReference, Catalog.foreignKey, Cardinality.between, hmany, hsingle]

/-- The reference that is placed for an association is found in the table of the class at the owning
end, and represents the links that the multiplicities of the two ends permit. -/
theorem placed_reference_represents_links (hk : m.compile o order = .ok k) (ha : a ∈ m.associations)
    (hkey : k.placements.get? a.name = some (.reference key)) :
    ∃ own opposite O T t col, a.Faces key.ownerSide own opposite ∧
      own.type = some (.ofClass key.ownerClass) ∧ own.multiplicity = some O ∧
      opposite.type = some (.ofClass key.targetClass) ∧ opposite.multiplicity = some T ∧
      k.storage.table? key.ownerClass = some t ∧ t.reference? key.columnName = some col ∧
      col.source = a.name ∧ col.targetClass = key.targetClass ∧
      ∀ (X : Type u) (Y : Type v) [Fintype X] [Fintype Y] [DecidableEq X] [DecidableEq Y],
        col.Represents O T X Y := by
  obtain ⟨hm, hfields, hcolumns, rfl⟩ := compile_eq_ok_iff.1 hk
  have hc := hm.coherent_resolved
  obtain ⟨r, hr, hname, hplace⟩ := hc.get?_placements_eq_some_iff.1 hkey
  obtain ⟨side, howner, rfl⟩ := Catalog.owner_of_place_eq hplace
  obtain ⟨a', ha', hname', own, opposite, hfaces, hown, hopposite⟩ :=
    hm.exists_faces_of_mem hfields hr side
  obtain rfl := List.inj_on_of_nodup_map hm.associationNames ha' ha (hname'.symm.trans hname)
  obtain ⟨hsoundOwn, hsoundOpposite⟩ := hm.soundEnd_of_joins ha hfaces.1
  -- the table of the owner and the reference in it
  have hlt := hc.ends r hr side
  have hentry := Catalog.entry?_of_lt hlt
  have hreference : Catalog.keyReference (m.resolved.foreignKey r side) ∈
      (m.resolved.table m.resolved.placements
        m.resolved.classes[(r.endAt side).classId]).references := by
    refine List.mem_append_right _ (List.mem_map_of_mem (hc.mem_ownedBy_iff.2 ⟨?_, ?_⟩))
    · exact (hc.ids _ _ hentry).symm
    · exact hplace ▸ hc.get?_placements hr
  have htable : (m.resolved.layout m.resolved.placements).table?
      (m.resolved.className (r.endAt side).classId) = some _ :=
    Catalog.className_eq hentry ▸ hc.table?_layout hentry
  refine ⟨own, opposite, _, _, _, _, hfaces, hown.type, hown.multiplicity, hopposite.type,
    hopposite.multiplicity, htable,
    Catalog.reference?_table hcolumns (List.getElem_mem hlt) hreference, hname, rfl, ?_⟩
  intro X Y _ _ _ _
  exact represents_keyReference howner (hsoundOwn.valid_of hown.multiplicity)
    (hsoundOpposite.valid_of hopposite.multiplicity) X Y

/-- The reference by which an employee has a manager. -/
def reportsKey : ForeignKey where
  association := "reports"
  owner := 1
  ownerClass := "Employee"
  ownerSide := .second
  ownerRole := "reporters"
  target := 1
  targetClass := "Employee"
  role := "manager"
  required := false
  cardinality := .manyToOne

/-- Two of three employees report to the third one, which the column for the manager stores. -/
theorem firm_reports_represented : ∃ k t col, firm.compile {} = .ok k ∧
    k.placements.get? "reports" = some (.reference reportsKey) ∧
    k.storage.table? "Employee" = some t ∧ t.reference? "manager_id" = some col ∧
    ∃ f : Fin 3 → Option (Fin 3), Population.Assigns f {(1, 0), (2, 0)} ∧ col.Accepts f ∧
      Population.linksOf f = {(1, 0), (2, 0)} := by
  obtain ⟨k, hk⟩ := exists_compiled_of_isOk (m := firm) (o := {}) (by decide +kernel)
  have hkey : k.placements.get? "reports" = some (.reference reportsKey) := by
    obtain ⟨-, -, -, rfl⟩ := compile_eq_ok_iff.1 hk
    decide +kernel
  obtain ⟨own, opposite, O, T, t, col, hfaces, -, hown, -, hopposite, ht, hcol, -, -,
    hrepresents⟩ := placed_reference_represents_links hk (a := firm.associations[3])
      (List.getElem_mem _) hkey
  have hends : firm.associations[3].Faces .second
      ⟨"reporters", some (.ofClass "Employee"), some ⟨0, .bounded 7⟩⟩
      ⟨"manager", some (.ofClass "Employee"), some .optional⟩ :=
    ⟨.inr rfl, .inr ⟨rfl, by decide⟩⟩
  obtain ⟨rfl, rfl⟩ := hfaces.unique hends
  obtain rfl := Option.some.inj hown
  obtain rfl := Option.some.inj hopposite
  obtain ⟨f, hf, -, haccepts, hlinks⟩ := (hrepresents (Fin 3) (Fin 3)).stored {(1, 0), (2, 0)}
    ⟨by decide, by decide⟩
  exact ⟨k, t, col, hk, hkey, ht, hcol, f, hf, haccepts, hlinks⟩

end Model

end Blueprint
