import Blueprint.Proofs.Acceptance

/-!
# Ends of associations

From each of its two sides a relationship shows the ends of an association of the model: the end at
that side and the one opposite. Which declared end stands at which side is a matter of the names of
classes and roles, and it is settled for every association of a model that is compiled, since two
ends at one class have different roles. What is derived from a relationship can therefore be said of
the ends as they are declared.
-/
namespace Blueprint

namespace Property

/-! ## What an end admits -/

/-- The upper bound is above one, or there is none. -/
def AdmitsMany (p : Property) : Prop :=
  ∃ μ, p.multiplicity = some μ ∧ ∀ n, μ.max = .bounded n → 1 < n

/-- The upper bound is at most one. -/
def AdmitsOne (p : Property) : Prop :=
  ∃ μ n, p.multiplicity = some μ ∧ μ.max = .bounded n ∧ n ≤ 1

/-- The minimum is above zero. -/
def Demands (p : Property) : Prop := ∃ μ, p.multiplicity = some μ ∧ 0 < μ.min

/-- The class of the end comes first, or the classes are the same and the role comes first. -/
def Precedes (p q : Property) : Prop :=
  p.className < q.className ∨ p.className = q.className ∧ p.name < q.name

variable {p q : Property}

lemma admitsMany_iff {μ : Multiplicity} (h : p.multiplicity = some μ) :
    p.AdmitsMany ↔ μ.isMany = true := by
  obtain ⟨min, max⟩ := μ
  cases max <;> simp [AdmitsMany, h, Multiplicity.isMany, Bound.isMany]

lemma admitsOne_iff {μ : Multiplicity} (h : p.multiplicity = some μ) :
    p.AdmitsOne ↔ μ.isMany = false := by
  obtain ⟨min, max⟩ := μ
  cases max <;> simp [AdmitsOne, h, Multiplicity.isMany, Bound.isMany]

lemma demands_iff {μ : Multiplicity} (h : p.multiplicity = some μ) :
    p.Demands ↔ μ.isMandatory = true := by
  simp [Demands, h, Multiplicity.isMandatory]

lemma Precedes.asymm (h : p.Precedes q) : ¬ q.Precedes p := by
  rintro (hclass | ⟨hclass, hrole⟩) <;> rcases h with h | ⟨h, h'⟩
  · exact Std.lt_irrefl (Std.lt_trans h hclass)
  · exact Std.lt_irrefl (h ▸ hclass)
  · exact Std.lt_irrefl (hclass ▸ h)
  · exact Std.lt_irrefl (Std.lt_trans h' hrole)

lemma precedes_or_precedes (h : p.className = q.className → p.name ≠ q.name) :
    p.Precedes q ∨ q.Precedes p := by
  rcases Std.lt_trichotomy p.className q.className with hlt | heq | hgt
  · exact .inl (.inl hlt)
  · rcases Std.lt_trichotomy p.name q.name with hlt | hname | hgt
    · exact .inl (.inr ⟨heq, hlt⟩)
    · exact absurd hname (h heq)
    · exact .inr (.inr ⟨heq.symm, hgt⟩)
  · exact .inr (.inl hgt)

end Property

/-! ## Sides -/

/-- The association has the end `own` at that side, and `opposite` at the other one. -/
def Association.Faces (a : Association) (side : Side) (own opposite : Property) : Prop :=
  a.Joins own opposite ∧
    match side with
    | .first => own.Precedes opposite
    | .second => opposite.Precedes own

namespace Association.Faces

variable {a : Association} {side side' : Side} {p q p' q' : Property}

theorem symm (h : a.Faces side p q) : a.Faces side.opposite q p :=
  ⟨h.1.symm, by cases side <;> exact h.2⟩

/-- The ends do not stand the other way round, since then each would go before the other. -/
lemma not_swap (h : a.Faces side p q) : ¬ a.Faces side q p := by
  cases side
  · exact fun h' => h.2.asymm h'.2
  · exact fun h' => h.2.asymm h'.2

/-- The ends at the two sides are settled. -/
theorem unique (h : a.Faces side p q) (h' : a.Faces side p' q') : p = p' ∧ q = q' := by
  rcases h.1 with hends | hends <;> rcases h'.1 with hends' | hends' <;>
    obtain ⟨rfl, rfl⟩ : _ ∧ _ := by simpa using hends.symm.trans hends'
  · exact ⟨rfl, rfl⟩
  · exact absurd h' h.not_swap
  · exact absurd h' h.not_swap
  · exact ⟨rfl, rfl⟩

/-- An end stands at one side only. -/
theorem side_unique (h : a.Faces side p q) (h' : a.Faces side' p q) : side = side' := by
  cases side <;> cases side'
  · rfl
  · exact absurd h'.2 h.2.asymm
  · exact absurd h'.2 h.2.asymm
  · rfl

end Association.Faces

/-- Each end has one opposite to it. -/
lemma Association.Joins.own_eq {a : Association} {p p' q : Property} (h : a.Joins p q)
    (h' : a.Joins p' q) : p = p' := by
  rcases h with hends | hends <;> rcases h' with hends' | hends' <;>
    have heq := hends.symm.trans hends' <;> simp only [List.cons.injEq, and_true, true_and] at heq
  · exact heq
  · exact heq.1.trans heq.2
  · exact heq.2.trans heq.1
  · exact heq

lemma Association.isBinary_iff_exists_joins {a : Association} :
    a.isBinary = true ↔ ∃ p q, a.Joins p q := by
  rw [isBinary, beq_iff_eq, List.length_eq_two]
  constructor
  · rintro ⟨p, q, hends⟩
    exact ⟨p, q, .inl hends⟩
  · rintro ⟨p, q, hends | hends⟩
    · exact ⟨p, q, hends⟩
    · exact ⟨q, p, hends⟩

/-! ## Relationships from a side -/

lemma Catalog.Coherent.relationship_inj {c : Catalog} (hc : c.Coherent) {r r' : Relationship}
    (hr : r ∈ c.relationships) (hr' : r' ∈ c.relationships) (h : r.name = r'.name) : r = r' := by
  have hnd : (c.relationships.map (·.name)).Nodup :=
    hc.relationshipNames.imp fun h => Std.ne_of_lt h
  exact List.inj_on_of_nodup_map hnd hr hr' h

/-- The end of a relationship is the declared one. -/
structure Catalog.IsEnd (c : Catalog) (e : RelationshipEnd) (p : Property) : Prop where
  role : e.role = p.name
  type : p.type = some (.ofClass (c.className e.classId))
  multiplicity : p.multiplicity = some e.multiplicity

namespace Model

variable {m : Model} {a : Association} {side : Side} {p q : Property}

lemma SoundEnd.valid_of (h : m.SoundEnd p) {μ : Multiplicity} (hμ : p.multiplicity = some μ) :
    μ.Valid := by
  obtain ⟨ν, hν, hvalid⟩ := h.valid
  obtain rfl := Option.some.inj (hμ.symm.trans hν)
  exact hvalid

namespace Sound

variable (hm : m.Sound)
include hm

lemma isEnd_resolvedEnd (h : m.SoundEnd p) :
    m.resolved.IsEnd (resolvedEnd m.orderedNames p) p where
  role := rfl
  type := by
    obtain ⟨name, htype, hname⟩ := h.typed
    rw [← hm.classId_resolvedEnd_eq_iff h (orderedNames_getElem? ?_)]
    simpa only [resolvedEnd, Property.className_eq htype] using idxOf_lt_of_mem hname
  multiplicity := by
    obtain ⟨μ, hμ, -⟩ := h.valid
    simp [resolvedEnd, Property.effectiveMultiplicity, hμ]

lemma idxOf_lt_idxOf {x y : String} (hx : x ∈ m.classNames) (hy : y ∈ m.classNames) (h : x < y) :
    m.orderedNames.idxOf x < m.orderedNames.idxOf y := by
  have hxlt := List.idxOf_lt_length_of_mem (mem_orderedNames.2 hx)
  have hylt := List.idxOf_lt_length_of_mem (mem_orderedNames.2 hy)
  rcases Nat.lt_trichotomy (m.orderedNames.idxOf x) (m.orderedNames.idxOf y) with hlt | heq | hgt
  · exact hlt
  · have hxy : x = y := by
      rw [← List.getElem_idxOf hxlt, ← List.getElem_idxOf hylt]
      simp only [heq]
    exact absurd (hxy ▸ h) Std.lt_irrefl
  · have hyx := List.pairwise_iff_getElem.1 hm.orderedNames_strict _ _ hylt hxlt hgt
    rw [List.getElem_idxOf, List.getElem_idxOf] at hyx
    exact absurd (Std.lt_trans h hyx) Std.lt_irrefl

/-- Ends are put in order by the names of their classes and roles. -/
lemma relate_of_precedes (name : String) (hp : m.SoundEnd p) (hq : m.SoundEnd q)
    (h : p.Precedes q) :
    relate name (resolvedEnd m.orderedNames p) (resolvedEnd m.orderedNames q) =
        ⟨name, resolvedEnd m.orderedNames p, resolvedEnd m.orderedNames q⟩ ∧
      relate name (resolvedEnd m.orderedNames q) (resolvedEnd m.orderedNames p) =
        ⟨name, resolvedEnd m.orderedNames p, resolvedEnd m.orderedNames q⟩ := by
  obtain ⟨x, hpx, hx⟩ := hp.typed
  obtain ⟨y, hqy, hy⟩ := hq.typed
  rw [Property.Precedes, Property.className_eq hpx, Property.className_eq hqy] at h
  rcases h with hlt | ⟨rfl, hlt⟩
  · have hid := hm.idxOf_lt_idxOf hx hy hlt
    simp [relate, RelationshipEnd.precedes, resolvedEnd, Property.className_eq hpx,
      Property.className_eq hqy, hid, hid.not_gt, hid.ne']
  · simp [relate, RelationshipEnd.precedes, resolvedEnd, Property.className_eq hpx,
      Property.className_eq hqy, Std.le_of_lt hlt, Std.not_le.2 hlt]

/-- The relationship of an association has at each side the end that stands there. -/
theorem exists_relationship_of_faces (ha : a ∈ m.associations) (h : a.Faces side p q) :
    ∃ r ∈ m.resolved.relationships, r.name = a.name ∧
      m.resolved.IsEnd (r.endAt side) p ∧ m.resolved.IsEnd (r.endAt side.opposite) q := by
  obtain ⟨hp, hq⟩ := hm.soundEnd_of_joins ha h.1
  have hmem : ∀ x y, m.SoundEnd x → m.SoundEnd y → x.Precedes y → a.Joins x y →
      (⟨a.name, resolvedEnd m.orderedNames x, resolvedEnd m.orderedNames y⟩ : Relationship) ∈
        m.resolved.relationships := by
    intro x y hx hy hprecedes hjoins
    obtain ⟨hxy, hyx⟩ := hm.relate_of_precedes a.name hx hy hprecedes
    refine mem_relationships_resolved.2 ⟨a, ha, relationship?_eq_some_iff.2 ?_⟩
    rcases hjoins with hends | hends
    · exact ⟨x, y, hends, hxy⟩
    · exact ⟨y, x, hends, hyx⟩
  cases side with
  | first =>
    exact ⟨_, hmem p q hp hq h.2 h.1, rfl, hm.isEnd_resolvedEnd hp, hm.isEnd_resolvedEnd hq⟩
  | second =>
    exact ⟨_, hmem q p hq hp h.2 h.1.symm, rfl, hm.isEnd_resolvedEnd hp, hm.isEnd_resolvedEnd hq⟩

variable (hfields : m.resolved.fieldDefect? = none)
include hfields

theorem exists_side (ha : a ∈ m.associations) (h : a.Joins p q) : ∃ side, a.Faces side p q := by
  have hroles : p.className = q.className → p.name ≠ q.name := by
    rcases h with hends | hends
    · exact hm.roles_ne hfields ha hends
    · exact fun hclass => (hm.roles_ne hfields ha hends hclass.symm).symm
  rcases Property.precedes_or_precedes hroles with hpq | hqp
  · exact ⟨.first, h, hpq⟩
  · exact ⟨.second, h, hqp⟩

theorem faces_or_faces (ha : a ∈ m.associations) (h : a.Joins p q) (side : Side) :
    a.Faces side p q ∨ a.Faces side q p := by
  obtain ⟨side', hfaces⟩ := hm.exists_side hfields ha h
  cases side <;> cases side'
  · exact .inl hfaces
  · exact .inr hfaces.symm
  · exact .inr hfaces.symm
  · exact .inl hfaces

theorem exists_faces (ha : a ∈ m.associations) (hbinary : a.isBinary = true) (side : Side) :
    ∃ p q, a.Faces side p q := by
  obtain ⟨p, q, hjoins⟩ := Association.isBinary_iff_exists_joins.1 hbinary
  rcases hm.faces_or_faces hfields ha hjoins side with hfaces | hfaces
  · exact ⟨p, q, hfaces⟩
  · exact ⟨q, p, hfaces⟩

/-- From each side a relationship shows the ends of its association. -/
theorem exists_faces_of_mem {r : Relationship} (hr : r ∈ m.resolved.relationships) (side : Side) :
    ∃ a ∈ m.associations, r.name = a.name ∧ ∃ p q, a.Faces side p q ∧
      m.resolved.IsEnd (r.endAt side) p ∧ m.resolved.IsEnd (r.endAt side.opposite) q := by
  obtain ⟨a, ha, x, y, hname, hjoins, -⟩ := exists_joins_of_mem hr side
  have hbinary := Association.isBinary_iff_exists_joins.2 ⟨x, y, hjoins⟩
  obtain ⟨p, q, hfaces⟩ := hm.exists_faces hfields ha hbinary side
  obtain ⟨r', hr', hname', hp, hq⟩ := hm.exists_relationship_of_faces ha hfaces
  obtain rfl := hm.coherent_resolved.relationship_inj hr hr' (hname.symm.trans hname'.symm)
  exact ⟨a, ha, hname', p, q, hfaces, hp, hq⟩

end Sound

end Model

end Blueprint
