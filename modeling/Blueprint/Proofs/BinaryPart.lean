import Blueprint.Proofs.Exclusivity

/-!
# Associations that are left out

An association that does not have two ends is skipped wherever associations are looked at, whatever
its ends are. Only its name counts: it must not be that of another association, and it is listed
among the skipped ones. So a model is compiled as its binary part is.
-/
namespace Blueprint

namespace Catalog

/-! ## What a catalog skips -/

variable (c : Catalog) (names : List String)

lemma lineage_skipping (id : ClassId) :
    ({ c with skipped := names } : Catalog).lineage id = c.lineage id := by
  have hup : ∀ steps id, ({ c with skipped := names } : Catalog).upwards steps id =
      c.upwards steps id := by
    intro steps
    induction steps with
    | zero => exact fun _ => rfl
    | succ steps ih =>
      intro id
      have hgeneral : ({ c with skipped := names } : Catalog).general? id = c.general? id := rfl
      simp only [upwards, hgeneral, ih]
  rw [lineage, hup, lineage]

lemma fieldDefect?_skipping :
    ({ c with skipped := names } : Catalog).fieldDefect? = c.fieldDefect? := by
  simp only [fieldDefect?, chainFields, lineage_skipping]
  rfl

lemma joinTablesFrom_skipping (used : List String) (rs : List Relationship) :
    ({ c with skipped := names } : Catalog).joinTablesFrom used rs = c.joinTablesFrom used rs := by
  induction rs generalizing used with
  | nil => rfl
  | cons r rs ih =>
    have htable : ({ c with skipped := names } : Catalog).joinTable used r =
        c.joinTable used r := rfl
    simp only [joinTablesFrom, htable, ih]

/-- What is derived from a catalog is derived from the rest of it. -/
theorem compiled_skipping (o : Options) : ({ c with skipped := names } : Catalog).compiled o =
    { c.compiled o with skipped := names } := by
  simp only [compiled, layout, joinTables, joinTablesFrom_skipping, plans, plan, ancestors,
    lineage_skipping]
  rfl

end Catalog

namespace Model

variable {m : Model} {o : Options} {k : Compiled}

/-- The model without the associations that do not have two ends. -/
def binaryPart (m : Model) : Model :=
  { m with associations := m.associations.filter (·.isBinary) }

/-- The names of the associations that do not have two ends, as they were declared. -/
def nonBinaryNames (m : Model) : List String :=
  (m.associations.filter fun a => !a.isBinary).map (·.name)

/-! ## The rules -/

lemma mem_associations_binaryPart {a : Association} :
    a ∈ m.binaryPart.associations ↔ a ∈ m.associations ∧ a.ends.length = 2 := by
  simp [binaryPart, Association.isBinary]

lemma declares_binaryPart (t : TypeRef) : m.binaryPart.Declares t ↔ m.Declares t := by
  cases t <;> exact Iff.rfl

lemma soundAttribute_binaryPart (p : Property) :
    m.binaryPart.SoundAttribute p ↔ m.SoundAttribute p := by
  constructor
  · intro h
    obtain ⟨t, ht, hd⟩ := h.typed
    exact ⟨⟨t, ht, (declares_binaryPart t).1 hd⟩, h.valid⟩
  · intro h
    obtain ⟨t, ht, hd⟩ := h.typed
    exact ⟨⟨t, ht, (declares_binaryPart t).2 hd⟩, h.valid⟩

lemma soundEnd_binaryPart (p : Property) : m.binaryPart.SoundEnd p ↔ m.SoundEnd p :=
  ⟨fun h => ⟨h.typed, h.valid⟩, fun h => ⟨h.typed, h.valid⟩⟩

/-- Of an association without two ends only the name has to be in order. -/
theorem sound_iff_binaryPart :
    m.Sound ↔ m.binaryPart.Sound ∧ (m.associations.map (·.name)).Nodup := by
  constructor
  · intro h
    refine ⟨?_, h.associationNames⟩
    exact {
      typeNames := h.typeNames
      tableNames := h.tableNames
      attributeNames := h.attributeNames
      attributes := fun c hc p hp => (soundAttribute_binaryPart p).2 (h.attributes c hc p hp)
      literals := h.literals
      associationNames := h.associationNames.sublist (List.filter_sublist.map _)
      ends := fun a ha hlen p hp => (soundEnd_binaryPart p).2
        (h.ends a (mem_associations_binaryPart.1 ha).1 hlen p hp)
      declared := h.declared
      single := h.single
      acyclic := h.acyclic }
  · rintro ⟨h, hnames⟩
    exact {
      typeNames := h.typeNames
      tableNames := h.tableNames
      attributeNames := h.attributeNames
      attributes := fun c hc p hp => (soundAttribute_binaryPart p).1 (h.attributes c hc p hp)
      literals := h.literals
      associationNames := hnames
      ends := fun a ha hlen p hp => (soundEnd_binaryPart p).1
        (h.ends a (mem_associations_binaryPart.2 ⟨ha, hlen⟩) hlen p hp)
      declared := h.declared
      single := h.single
      acyclic := h.acyclic }

/-! ## The catalog -/

variable (hnames : (m.associations.map (·.name)).Nodup)
include hnames

lemma orderedAssociations_binaryPart :
    m.binaryPart.orderedAssociations = m.orderedAssociations.filter (·.isBinary) :=
  sortedByName_filter hnames _

/-- The relationships are those of the associations with two ends. -/
lemma relationships_binaryPart :
    m.binaryPart.resolved.relationships = m.resolved.relationships := by
  have hkept : ∀ a ∈ m.orderedAssociations,
      (if a.isBinary then relationship? m.orderedNames a else none) =
        relationship? m.orderedNames a := by
    intro a _
    split_ifs with hbinary
    · rfl
    · exact (relationship?_of_not_isBinary (by simpa using hbinary)).symm
  calc m.binaryPart.resolved.relationships
      = (m.orderedAssociations.filter (·.isBinary)).filterMap (relationship? m.orderedNames) := by
        rw [← orderedAssociations_binaryPart hnames]
        rfl
    _ = m.orderedAssociations.filterMap (relationship? m.orderedNames) := by
        rw [List.filterMap_filter, List.filterMap_congr hkept]

lemma skipped_binaryPart : m.binaryPart.resolved.skipped = [] := by
  have hnone : m.binaryPart.orderedAssociations.filter (fun a => !a.isBinary) = [] := by
    rw [orderedAssociations_binaryPart hnames, List.filter_filter]
    simp
  rw [resolved, hnone, List.map_nil]

theorem resolved_eq_binaryPart :
    m.resolved = { m.binaryPart.resolved with skipped := m.resolved.skipped } := by
  have hrelationships := relationships_binaryPart hnames
  calc m.resolved
      = { m.binaryPart.resolved with
          relationships := m.resolved.relationships
          skipped := m.resolved.skipped } := rfl
    _ = { m.binaryPart.resolved with skipped := m.resolved.skipped } := by
        rw [← hrelationships]

lemma compiled_eq_binaryPart (o : Options) : m.resolved.compiled o =
    { m.binaryPart.resolved.compiled o with skipped := m.resolved.skipped } := by
  rw [← Catalog.compiled_skipping, ← resolved_eq_binaryPart hnames]

omit hnames in
/-- The skipped associations are listed in the order of their names. -/
lemma skipped_perm : m.resolved.skipped.Perm m.nonBinaryNames :=
  ((sortedByName_perm _ m.associations).filter _).map _

lemma skipped_strict : m.resolved.skipped.Pairwise (· < ·) :=
  (sortedByName_strict hnames).sublist (List.filter_sublist.map _)

omit hnames

/-- What is compiled from a model is what is compiled from its binary part, and the names of the
associations that were left out. -/
theorem compile_eq_ok_iff_binaryPart (order order' : StartOrder) :
    m.compile o order = .ok k ↔ (m.associations.map (·.name)).Nodup ∧
      m.binaryPart.compile o order' = .ok { k with skipped := [] } ∧
      k.skipped = m.resolved.skipped := by
  rw [compile_eq_ok_iff, compile_eq_ok_iff, sound_iff_binaryPart]
  constructor
  · rintro ⟨⟨hm, hnames⟩, hfields, hcolumns, rfl⟩
    rw [resolved_eq_binaryPart hnames, Catalog.fieldDefect?_skipping] at hfields
    rw [resolved_eq_binaryPart hnames] at hcolumns
    refine ⟨hnames, ⟨hm, hfields, hcolumns, ?_⟩, rfl⟩
    rw [compiled_eq_binaryPart hnames, ← skipped_binaryPart hnames]
    rfl
  · rintro ⟨hnames, ⟨hm, hfields, hcolumns, hk⟩, hskipped⟩
    refine ⟨⟨hm, hnames⟩, ?_, ?_, ?_⟩
    · rw [resolved_eq_binaryPart hnames, Catalog.fieldDefect?_skipping]
      exact hfields
    · rw [resolved_eq_binaryPart hnames]
      exact hcolumns
    · rw [compiled_eq_binaryPart hnames, ← hk, ← hskipped]

/-- A model is compiled exactly if its binary part is and the names of its associations are
distinct, and to the same, save that the associations left out are listed in order. -/
theorem compile_binaryPart (m : Model) (o : Options) (order order' : StartOrder) :
    ((∃ k, m.compile o order = .ok k) ↔
      (∃ k, m.binaryPart.compile o order' = .ok k) ∧ (m.associations.map (·.name)).Nodup) ∧
    ∀ k k₀, m.compile o order = .ok k → m.binaryPart.compile o order' = .ok k₀ →
      k = { k₀ with skipped := k.skipped } ∧ k₀.skipped = [] ∧
      k.skipped.Perm m.nonBinaryNames ∧ k.skipped.Pairwise (· < ·) := by
  have hlisted : ∀ k₀, m.binaryPart.compile o order' = .ok k₀ →
      (m.associations.map (·.name)).Nodup → k₀.skipped = [] := by
    intro k₀ hk₀ hnames
    obtain ⟨-, -, -, rfl⟩ := compile_eq_ok_iff.1 hk₀
    exact skipped_binaryPart hnames
  refine ⟨⟨?_, ?_⟩, ?_⟩
  · rintro ⟨k, hk⟩
    obtain ⟨hnames, hk₀, -⟩ := (compile_eq_ok_iff_binaryPart order order').1 hk
    exact ⟨⟨_, hk₀⟩, hnames⟩
  · rintro ⟨⟨k₀, hk₀⟩, hnames⟩
    refine ⟨{ k₀ with skipped := m.resolved.skipped },
      (compile_eq_ok_iff_binaryPart order order').2 ⟨hnames, ?_, rfl⟩⟩
    rw [hk₀, ← hlisted k₀ hk₀ hnames]
  · intro k k₀ hk hk₀
    obtain ⟨hnames, hk', hskipped⟩ := (compile_eq_ok_iff_binaryPart order order').1 hk
    obtain rfl := Except.ok.inj (hk'.symm.trans hk₀)
    exact ⟨rfl, rfl, hskipped ▸ skipped_perm, hskipped ▸ skipped_strict hnames⟩

/-- A club that has meetings and debates, which are not relationships between two classes. The ends
of its debates mean nothing that is declared. -/
def club : Model where
  name := "Club"
  classes := [
    ⟨"Member", [⟨"name", some (.primitive .string), none⟩], false⟩,
    ⟨"Room", [], false⟩]
  enumerations := []
  associations := [
    ⟨"meets", [⟨"chair", some (.ofClass "Member"), none⟩, ⟨"room", some (.ofClass "Room"), none⟩,
      ⟨"name", some (.primitive .date), some ⟨5, .bounded 0⟩⟩]⟩,
    ⟨"keys", [⟨"holders", some (.ofClass "Member"), some .many⟩,
      ⟨"rooms", some (.ofClass "Room"), some .many⟩]⟩,
    ⟨"memberroom", []⟩,
    ⟨"debate", [⟨"speaker", none, none⟩, ⟨"judge", some (.ofClass "Guest"), none⟩,
      ⟨"speaker", some (.ofEnumeration "Side"), some .many⟩]⟩]
  generalizations := []

theorem club_compiled_without_debates : ∃ k k₀, club.compile {} = .ok k ∧
    club.binaryPart.compile {} = .ok k₀ ∧ k = { k₀ with skipped := k.skipped } ∧
    k₀.skipped = [] ∧ k.skipped = ["debate", "meets", "memberroom"] := by
  obtain ⟨hiff, hsame⟩ := compile_binaryPart club {} .declared .declared
  obtain ⟨k₀, hk₀⟩ := exists_compiled_of_isOk (m := club.binaryPart) (o := {}) (by decide +kernel)
  obtain ⟨k, hk⟩ := hiff.2 ⟨⟨k₀, hk₀⟩, by decide⟩
  obtain ⟨heq, hnone, -⟩ := hsame k k₀ hk hk₀
  refine ⟨k, k₀, hk, hk₀, heq, hnone, ?_⟩
  obtain ⟨-, -, -, rfl⟩ := compile_eq_ok_iff.1 hk
  decide +kernel

end Model

end Blueprint
