import Blueprint.Proofs.Generals

/-!
# Well-formed models

What a model has to be like to be compiled, said without the checks. A model is sound if its
declarations are in order one by one; it is well formed if the fields that come together along each
chain of generals are distinct as well. The checks of a model by itself find nothing exactly if it
is sound.
-/
namespace Blueprint

open Relation (TransGen)

/-- The upper bound, if there is one, admits an instance and is not below the minimum. -/
def Multiplicity.Valid (μ : Multiplicity) : Prop :=
  ∀ n, μ.max = .bounded n → 1 ≤ n ∧ μ.min ≤ n

theorem Multiplicity.isValid_iff (μ : Multiplicity) : μ.isValid = true ↔ μ.Valid := by
  obtain ⟨min, _ | _⟩ := μ <;> simp [isValid, Valid]

lemma Multiplicity.isOptional_eq (μ : Multiplicity) : μ.isOptional = !μ.isMandatory := by
  rw [isOptional, isMandatory, Bool.eq_iff_iff]
  simp

/-- The roles that a two-ended association has opposite to the ends of a class. -/
def Association.rolesFacing (a : Association) (className : String) : List String :=
  match a.ends with
  | [p, q] =>
    (if p.type = some (.ofClass className) then [q.name] else []) ++
      if q.type = some (.ofClass className) then [p.name] else []
  | _ => []

namespace Model

variable (m : Model)

/-- What a type means is declared. -/
def Declares : TypeRef → Prop
  | .primitive _ => True
  | .ofClass name => name ∈ m.classNames
  | .ofEnumeration name => name ∈ m.enumerationNames

structure SoundAttribute (p : Property) : Prop where
  typed : ∃ t, p.type = some t ∧ m.Declares t
  valid : ∀ μ, p.multiplicity = some μ → μ.Valid

structure SoundEnd (p : Property) : Prop where
  typed : ∃ name, p.type = some (.ofClass name) ∧ name ∈ m.classNames
  valid : ∃ μ, p.multiplicity = some μ ∧ μ.Valid

/-- The declarations are in order one by one. Ends are only looked at where there are two. -/
structure Sound : Prop where
  typeNames : (m.classNames ++ m.enumerationNames).Nodup
  tableNames : ∀ c ∈ m.classes, ∀ d ∈ m.classes,
    tableName c.name = tableName d.name → c.name = d.name
  attributeNames : ∀ c ∈ m.classes, (c.attributes.map (·.name)).Nodup
  attributes : ∀ c ∈ m.classes, ∀ p ∈ c.attributes, m.SoundAttribute p
  literals : ∀ e ∈ m.enumerations, e.literals.Nodup
  associationNames : (m.associations.map (·.name)).Nodup
  ends : ∀ a ∈ m.associations, a.ends.length = 2 → ∀ p ∈ a.ends, m.SoundEnd p
  declared : ∀ g ∈ m.generalizations, g.general ∈ m.classNames ∧ g.specific ∈ m.classNames
  single : ∀ g ∈ m.generalizations, ∀ h ∈ m.generalizations,
    g.specific = h.specific → g.general = h.general
  acyclic : ∀ name, ¬ TransGen m.HasGeneral name name

/-- The fields that a class contributes: its attributes, and the role opposite to each end of a
two-ended association at which it stands. -/
def fieldsOf (className : String) : List String :=
  ((m.classes.filter (·.name == className)).flatMap fun c => c.attributes.map (·.name)) ++
    m.associations.flatMap (·.rolesFacing className)

/-- The model is sound, and along each chain of generals the fields are distinct. -/
structure WellFormed : Prop extends m.Sound where
  fields : ∀ c ∈ m.classes,
    ∃ chain, Ascent m.HasGeneral c.name chain ∧ (chain.flatMap m.fieldsOf).Nodup

variable {m} {order : StartOrder}

theorem Sound.classNames_nodup (h : m.Sound) : m.classNames.Nodup :=
  (List.nodup_append.1 h.typeNames).1

/-- A class has at most one general. -/
theorem Sound.general_unique (h : m.Sound) (specific general other : String)
    (hg : m.HasGeneral specific general) (ho : m.HasGeneral specific other) : general = other :=
  h.single _ hg _ ho rfl

theorem Sound.enumerationNames_nodup (h : m.Sound) : m.enumerationNames.Nodup :=
  (List.nodup_append.1 h.typeNames).2.1

/-! ## The checks one by one -/

theorem typeNameDefect?_eq_none_iff :
    m.typeNameDefect? = none ↔ (m.classNames ++ m.enumerationNames).Nodup := by
  rw [typeNameDefect?, Option.map_eq_none_iff, firstRepeat_eq_none_iff]
  rfl

/-- Given that the class names are distinct, the tables are exactly if no two names share one. -/
theorem tableNameDefect?_eq_none_iff (hnd : m.classNames.Nodup) :
    m.tableNameDefect? = none ↔
      ∀ c ∈ m.classes, ∀ d ∈ m.classes, tableName c.name = tableName d.name → c.name = d.name := by
  have hmap : (m.classes.map fun c => (tableName c.name, c.name)).map (·.1) =
      m.classNames.map tableName := by simp [classNames, Function.comp_def]
  rw [tableNameDefect?, Option.map_eq_none_iff, firstClash_nil_eq_none_iff, hmap,
    List.nodup_map_iff_inj_on hnd]
  simp [classNames]

theorem multiplicityDefect?_eq_none_iff (owner : String) (p : Property) :
    p.multiplicityDefect? owner = none ↔ ∀ μ, p.multiplicity = some μ → μ.Valid := by
  unfold Property.multiplicityDefect?
  cases h : p.multiplicity with
  | none => simp
  | some μ => simp [← Multiplicity.isValid_iff]

lemma attributeDefect?_eq (c : ClassDecl) (prior : List Property) (p : Property) :
    m.attributeDefect? c prior p =
      if prior.any (·.name == p.name) then some (.duplicateAttribute c.name p.name)
      else m.attributeDefect? c [] p := by
  simp [attributeDefect?]

/-- An attribute with none before it is checked for its type and multiplicity only. -/
theorem attributeDefect?_nil_eq_none_iff (c : ClassDecl) (p : Property) :
    m.attributeDefect? c [] p = none ↔ m.SoundAttribute p := by
  have hvalid := multiplicityDefect?_eq_none_iff c.name p
  have hiff : m.SoundAttribute p ↔ (∃ t, p.type = some t ∧ m.Declares t) ∧
      ∀ μ, p.multiplicity = some μ → μ.Valid := ⟨fun h => ⟨h.1, h.2⟩, fun h => ⟨h.1, h.2⟩⟩
  rw [hiff, ← hvalid]
  unfold attributeDefect?
  rcases h : p.type with _ | (q | name | name)
  · simp
  · simp [Declares]
  · simp only [List.any_nil, Bool.false_eq_true, if_false, declaresClass_iff]
    split_ifs with hd <;> simp [Declares, hd]
  · simp only [List.any_nil, Bool.false_eq_true, if_false, declaresEnumeration_iff]
    split_ifs with hd <;> simp [Declares, hd]

theorem classDefect?_eq_none_iff (c : ClassDecl) :
    m.classDefect? c = none ↔
      (c.attributes.map (·.name)).Nodup ∧ ∀ p ∈ c.attributes, m.SoundAttribute p := by
  rw [classDefect?, findSome?_withPrior_eq_none_iff Property.name (by simp)
    (fun prior p => attributeDefect?_eq c prior p)]
  simp [attributeDefect?_nil_eq_none_iff]

lemma endDefect?_eq_none_iff (a : Association) (p : Property) :
    m.endDefect? a p = none ↔ m.SoundEnd p := by
  have hvalid := multiplicityDefect?_eq_none_iff a.name p
  have hiff : m.SoundEnd p ↔ (∃ name, p.type = some (.ofClass name) ∧ name ∈ m.classNames) ∧
      ∃ μ, p.multiplicity = some μ ∧ μ.Valid := ⟨fun h => ⟨h.1, h.2⟩, fun h => ⟨h.1, h.2⟩⟩
  rw [hiff]
  unfold endDefect?
  rcases h : p.type with _ | (q | name | name)
  · simp
  · simp
  · by_cases hd : name ∈ m.classNames
    · have hdecl : m.declaresClass name = true := (m.declaresClass_iff name).2 hd
      cases hm : p.multiplicity with
      | none => simp [hdecl]
      | some μ => simpa [hdecl, hd, hm] using hvalid
    · have hdecl : ¬ m.declaresClass name = true := fun h => hd ((m.declaresClass_iff name).1 h)
      simp [hdecl, hd]
  · simp

lemma associationDefect?_eq (prior : List Association) (a : Association) :
    m.associationDefect? prior a =
      if prior.any (·.name == a.name) then some (.duplicateAssociation a.name)
      else m.associationDefect? [] a := by
  simp [associationDefect?]

/-- An association with none before it is checked for its ends only, and only if it has two. -/
theorem associationDefect?_nil_eq_none_iff (a : Association) :
    m.associationDefect? [] a = none ↔ (a.ends.length = 2 → ∀ p ∈ a.ends, m.SoundEnd p) := by
  unfold associationDefect? Association.isBinary
  by_cases h : a.ends.length = 2
  · simp [h, endDefect?_eq_none_iff]
  · simp [h]

theorem associationDefects_eq_none_iff :
    ((withPrior [] m.associations).findSome? fun (prior, a) =>
      m.associationDefect? prior a) = none ↔
      (m.associations.map (·.name)).Nodup ∧
      ∀ a ∈ m.associations, a.ends.length = 2 → ∀ p ∈ a.ends, m.SoundEnd p := by
  rw [findSome?_withPrior_eq_none_iff Association.name (by simp)
    (fun prior a => associationDefect?_eq prior a)]
  simp [associationDefect?_nil_eq_none_iff]

/-- A model is sound exactly if its checks find nothing. -/
theorem defect?_eq_none_iff : m.defect? order = none ↔ m.Sound := by
  have hclasses : m.classes.findSome? m.classDefect? = none ↔ ∀ c ∈ m.classes,
      (c.attributes.map (·.name)).Nodup ∧ ∀ p ∈ c.attributes, m.SoundAttribute p := by
    simp [List.findSome?_eq_none_iff, classDefect?_eq_none_iff]
  have hliterals : (m.enumerations.findSome? fun e =>
      (firstRepeat e.literals).map (Defect.duplicateLiteral e.name)) = none ↔
        ∀ e ∈ m.enumerations, e.literals.Nodup := by
    simp [List.findSome?_eq_none_iff, firstRepeat_eq_none_iff]
  simp only [defect?, Option.or_eq_none_iff, typeNameDefect?_eq_none_iff, hclasses, hliterals,
    associationDefects_eq_none_iff, generalizationDefect?_eq_none_iff, declaresClass_iff]
  constructor
  · rintro ⟨⟨⟨⟨⟨htypes, htables⟩, hclass⟩, hlits⟩, hassoc, hends⟩, hdecl, hsingle, hacyclic⟩
    have hnd := (List.nodup_append.1 htypes).1
    exact ⟨htypes, (tableNameDefect?_eq_none_iff hnd).1 htables, fun c hc => (hclass c hc).1,
      fun c hc => (hclass c hc).2, hlits, hassoc, hends, hdecl, hsingle, hacyclic⟩
  · intro h
    exact ⟨⟨⟨⟨⟨h.typeNames, (tableNameDefect?_eq_none_iff h.classNames_nodup).2 h.tableNames⟩,
      fun c hc => ⟨h.attributeNames c hc, h.attributes c hc⟩⟩, h.literals⟩,
      h.associationNames, h.ends⟩, h.declared, h.single, h.acyclic⟩

theorem Sound.wellFounded (h : m.Sound) :
    WellFounded fun general specific => m.HasGeneral specific general := by
  have hnone : m.defect? = none := defect?_eq_none_iff.2 h
  simp only [defect?, Option.or_eq_none_iff] at hnone
  exact wellFounded_of_generalizationDefect?_eq_none hnone.2

end Model

end Blueprint
