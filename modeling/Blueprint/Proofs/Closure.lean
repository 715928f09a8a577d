import Blueprint.Proofs.ChainColumns
import Blueprint.Proofs.DeclarationOrder
import Blueprint.Proofs.Inheritance

/-!
# Closure of names

Tables, contracts, placements and plans refer to each other and to enumerations by name. Every such
name is that of a class or an enumeration of the catalog, and everything that a class or an
enumeration becomes is found by its name. So no reference in what is compiled leads out of it.
-/
namespace Blueprint

/-- The text refers to the identity of the table of a class. -/
def Layout.Identifies (l : Layout) (className text : String) : Prop :=
  ∃ t, l.table? className = some t ∧ text = t.name ++ ".id"

namespace ContractSet

/-- The set has an enumeration of that name, with the literals that the model declares in their
order, and each literal has its name for a value. -/
def Enumerates (s : ContractSet) (m : Model) (name : String) : Prop :=
  ∃ e ∈ m.enumerations, e.name = name ∧
    s.enumeration? name = some ⟨name, e.literals.map fun literal => ⟨literal, literal⟩⟩

/-- What a type means is in the set. -/
def Defines (s : ContractSet) (m : Model) : FieldType → Prop
  | .primitive _ => True
  | .ofEnumeration name => s.Enumerates m name
  | .reference className => ∃ contract, s.get? className = some contract
  | .list className element => ∃ contract, s.get? className = some contract ∧
      ∀ name, element = .byReferenceOrValue name → contract.name = name

/-- The contract of a class on the chain of another one has a field of that name. -/
def DeclaresAlong (s : ContractSet) (className declaredBy field : String) : Prop :=
  ∃ contract ∈ s.lineage className, s.get? declaredBy = some contract ∧
    contract.ofClass = declaredBy ∧ ∃ f ∈ contract.fields, f.name = field

end ContractSet

/-- Every name that stands for something else stands for something in the same output. -/
structure Compiled.Closed (k : Compiled) (m : Model) : Prop where
  references : ∀ t ∈ k.storage.tables, ∀ r ∈ t.references,
    k.storage.Identifies r.targetClass r.references
  columns : ∀ t ∈ k.storage.tables, ∀ column ∈ t.columns, ∀ name,
    column.type = .ofEnumeration name → k.contracts.Enumerates m name
  joinColumns : ∀ t ∈ k.storage.joinTables,
    k.storage.Identifies t.first.ofClass t.first.references ∧
      k.storage.Identifies t.second.ofClass t.second.references
  parents : ∀ t ∈ k.storage.tables, ∀ p, t.parent = some p →
    ∃ above, k.storage.table? p.ofClass = some above ∧ p.table = above.name
  identities : ∀ t ∈ k.storage.tables, ∀ text, t.identity.references = some text ↔
    ∃ p, t.parent = some p ∧ k.storage.Identifies p.ofClass text
  parentContracts : ∀ className contract, k.contracts.get? className = some contract →
    contract.parent.isSome = contract.parentClass.isSome ∧
      ∀ parentClass, contract.parentClass = some parentClass →
        ∃ above, k.contracts.get? parentClass = some above ∧ contract.parent = some above.name
  fields : ∀ className contract, k.contracts.get? className = some contract →
    ∀ f ∈ contract.fields, k.contracts.Defines m f.type
  placements : ∀ name key, k.placements.get? name = some (.reference key) →
    (∃ t, k.storage.table? key.ownerClass = some t) ∧
      ∃ t, k.storage.table? key.targetClass = some t
  plans : ∀ p ∈ k.plans,
    (∃ contract, k.contracts.get? p.ofClass = some contract ∧ contract.name = p.contract) ∧
      ∀ a ∈ p.arguments, k.contracts.DeclaresAlong p.ofClass a.declaredBy a.sourceField

namespace Catalog

variable {c : Catalog} {ps : Placements} {o : Options} {id i : ClassId} {entry : ClassEntry}
  {name : String} {key : ForeignKey} {r : Relationship}

/-- A table of the layout is that of a class. -/
lemma exists_lt_of_mem_tables {t : Table} (h : t ∈ (c.layout ps).tables) :
    ∃ id, ∃ hid : id < c.classes.length, c.table ps c.classes[id] = t := by
  obtain ⟨entry, hentry, rfl⟩ := List.mem_map.1 h
  obtain ⟨id, hid, rfl⟩ := List.mem_iff_getElem.1 hentry
  exact ⟨id, hid, rfl⟩

/-! ## Columns of attributes -/

lemma type_of_attributeColumn? {a : Attribute} {column : Column}
    (h : attributeColumn? a = some column) (htype : column.type = .ofEnumeration name) :
    a.type = .ofEnumeration name := by
  obtain ⟨source, type, multiplicity⟩ := a
  cases type with
  | primitive p =>
    obtain rfl := Option.some.inj h
    simp at htype
  | ofEnumeration other =>
    obtain rfl := Option.some.inj h
    simpa using htype
  | ofClass i => simp [attributeColumn?] at h

lemma exists_classId_of_attributeReference? {owner : String} {a : Attribute} {ref : Reference}
    (h : c.attributeReference? owner a = some ref) :
    ∃ i, a.type = .ofClass i ∧ ref.targetClass = c.className i ∧
      ref.references = identityOf (tableName (c.className i)) := by
  obtain ⟨source, type, multiplicity⟩ := a
  cases type with
  | primitive p => simp [attributeReference?] at h
  | ofEnumeration other => simp [attributeReference?] at h
  | ofClass i =>
    obtain rfl := Option.some.inj h
    exact ⟨i, rfl, rfl, rfl⟩

namespace Coherent

variable (hc : c.Coherent)
include hc

/-! ## Classes by name -/

lemma identifies_className (hid : id < c.classes.length) :
    (c.layout ps).Identifies (c.className id) (identityOf (tableName (c.className id))) := by
  refine ⟨_, hc.table?_layout_className hid, ?_⟩
  rw [identityOf_eq, className_eq (entry?_of_lt hid)]
  rfl

/-! ## Tables -/

lemma exists_foreignKey_of_get?_placements (h : c.placements.get? name = some (.reference key)) :
    ∃ r ∈ c.relationships, ∃ side, c.foreignKey r side = key := by
  obtain ⟨r, hr, -, hplace⟩ := hc.get?_placements_eq_some_iff.1 h
  obtain ⟨side, -, hkey⟩ := owner_of_place_eq hplace
  exact ⟨r, hr, side, hkey⟩

lemma identifies_keyReference (h : key ∈ c.placements.ownedBy id) :
    (c.layout ps).Identifies (keyReference key).targetClass (keyReference key).references := by
  obtain ⟨-, hget⟩ := hc.mem_ownedBy_iff.1 h
  obtain ⟨r, hr, side, rfl⟩ := hc.exists_foreignKey_of_get?_placements hget
  exact hc.identifies_className (hc.ends r hr side.opposite)

lemma identifies_joinColumn (hr : r ∈ c.relationships) (side : Side) :
    (c.layout ps).Identifies (c.joinColumn r side).ofClass (c.joinColumn r side).references :=
  hc.identifies_className (hc.ends r hr side)

/-- The table above that of a class is found by the name of the class above. -/
lemma exists_parent_of_mem_tables {t : Table} (ht : t ∈ (c.layout ps).tables) {p : ParentTable}
    (hp : t.parent = some p) :
    ∃ above, (c.layout ps).table? p.ofClass = some above ∧ p.table = above.name := by
  obtain ⟨id, hid, rfl⟩ := exists_lt_of_mem_tables ht
  obtain ⟨-, -, -, habove⟩ := hc.exists_general_of_parent hid hp
  exact habove

/-- An identity refers to that of the table above, if there is one. -/
lemma references_identity_iff {t : Table} (ht : t ∈ (c.layout ps).tables) (text : String) :
    t.identity.references = some text ↔
      ∃ p, t.parent = some p ∧ (c.layout ps).Identifies p.ofClass text := by
  have hreferences : t.identity.references = t.parent.map fun p => identityOf p.table := by
    obtain ⟨id, hid, rfl⟩ := exists_lt_of_mem_tables ht
    rfl
  rw [hreferences, Option.map_eq_some_iff]
  refine exists_congr fun p => and_congr_right fun hp => ?_
  obtain ⟨above, habove, hname⟩ := hc.exists_parent_of_mem_tables ht hp
  rw [Layout.Identifies, identityOf_eq, hname, habove]
  simp [eq_comm]

/-! ## Contracts -/

lemma parent_of_get?_contracts {className : String} {contract : Contract}
    (h : (c.contracts ps o).get? className = some contract) :
    contract.parent = contract.parentClass.map contractName := by
  obtain ⟨id, entry, -, -, rfl⟩ := hc.exists_entry_of_get?_contracts h
  rfl

/-- The contract above that of a class is found by the name of the class above. -/
lemma exists_parent_of_get?_contracts {className parentClass : String} {contract : Contract}
    (h : (c.contracts ps o).get? className = some contract)
    (hparent : contract.parentClass = some parentClass) :
    ∃ above, (c.contracts ps o).get? parentClass = some above ∧
      contract.parent = some above.name := by
  have hname := hc.parent_of_get?_contracts h
  obtain ⟨id, entry, hentry, -, rfl⟩ := hc.exists_entry_of_get?_contracts h
  obtain ⟨general, hgeneral, rfl⟩ :=
    Option.map_eq_some_iff.1 ((parentClass_contract hentry).symm.trans hparent)
  have hget : (c.contracts ps o).get? (c.className general) = some _ :=
    hc.get?_contracts_className (hc.generals _ _ hgeneral)
  exact ⟨_, hget, by rw [hname, hparent, Option.map_some, hc.name_of_get?_contracts hget]⟩

lemma defines_relationshipField (m : Model) (hr : r ∈ c.relationships) (side : Side) :
    (c.contracts ps o).Defines m (c.relationshipField o r side).type := by
  have hlt := hc.ends r hr side.opposite
  have hget : (c.contracts ps o).get? (c.className (r.endAt side.opposite).classId) = some _ :=
    hc.get?_contracts_className hlt
  simp only [relationshipField]
  split
  · refine ⟨_, hget, fun name helement => ?_⟩
    simp only [elementType] at helement
    split_ifs at helement
    obtain rfl := ElementType.byReferenceOrValue.inj helement
    exact hc.name_of_get?_contracts hget
  · split_ifs
    · exact ⟨_, hget⟩
    · exact ⟨_, hget, by simp⟩

/-! ## Plans -/

lemma exists_contract_plan (hid : id < c.classes.length) :
    ∃ contract, (c.contracts ps o).get? (c.plan (c.contracts ps o) id).ofClass = some contract ∧
      contract.name = (c.plan (c.contracts ps o) id).contract := by
  refine ⟨_, hc.get?_contracts_className hid, ?_⟩
  rw [plan, hc.get?_contracts_className hid]
  rfl

/-- A contract of the lineage belongs to the chain of contracts. -/
lemma mem_lineage_contracts (hid : id < c.classes.length) (hi : i ∈ c.lineage id)
    {contract : Contract} (h : (c.contracts ps o).get? (c.className i) = some contract) :
    contract ∈ (c.contracts ps o).lineage (c.className id) := by
  have hmem : some contract ∈ ((c.contracts ps o).lineage (c.className id)).map some := by
    rw [hc.map_some_lineage hid, ← h]
    exact List.mem_map_of_mem hi
  simpa using hmem

lemma declaresAlong_of_mem_arguments (hid : id < c.classes.length) {a : Argument}
    (ha : a ∈ (c.plan (c.contracts c.placements o) id).arguments) :
    (c.contracts c.placements o).DeclaresAlong (c.className id) a.declaredBy a.sourceField := by
  rw [hc.arguments_plan hid] at ha
  obtain ⟨x, hx, rfl⟩ := List.mem_map.1 ((firstBindings_sublist _ _).subset ha)
  rw [hc.consideredFields_eq] at hx
  obtain ⟨d, hd, hx⟩ := List.mem_flatMap.1 hx
  obtain ⟨f, hf, rfl⟩ := List.mem_map.1 hx
  have hlt := hc.lt_of_mem_lineage hid hd
  have hget : (c.contracts c.placements o).get? (c.className d) = some _ :=
    hc.get?_contracts_className hlt
  have hfield : f ∈ (c.contract c.placements o c.classes[d]).fields := by
    simpa [ContractSet.fieldsOf, hget] using (List.mem_filter.1 hf).1
  refine ⟨_, hc.mem_lineage_contracts hid hd hget, by simpa using hget, ?_, f, hfield, by simp⟩
  simp [contract, className_eq (entry?_of_lt hlt)]

end Coherent

end Catalog

namespace Model

variable {m : Model} {id : ClassId} {entry : ClassEntry} {a : Attribute} {name : String}
  {order : StartOrder}
  {ps : Placements} {o : Options} {k : Compiled}

namespace Sound

variable (hm : m.Sound)
include hm

/-! ## Attributes -/

lemma exists_declared_of_mem_attributes (h : m.resolved.entry? id = some entry)
    (ha : a ∈ entry.attributes) :
    ∃ t, m.Declares t ∧ a.type = resolvedType m.orderedNames (some t) := by
  obtain ⟨d, hd, rfl⟩ := exists_decl_of_entry? h
  obtain ⟨p, hp, rfl⟩ := List.mem_map.1 ha
  obtain ⟨t, ht, hdeclared⟩ := (hm.attributes d hd p hp).typed
  exact ⟨t, hdeclared, by rw [resolvedAttribute, ht]⟩

lemma lt_of_type_attribute (h : m.resolved.entry? id = some entry) (ha : a ∈ entry.attributes)
    {i : ClassId} (htype : a.type = .ofClass i) : i < m.resolved.classes.length := by
  obtain ⟨t, hdeclared, ht⟩ := hm.exists_declared_of_mem_attributes h ha
  rw [ht] at htype
  cases t with
  | primitive q => simp [resolvedType] at htype
  | ofEnumeration other => simp [resolvedType] at htype
  | ofClass other =>
    obtain rfl := AttributeType.ofClass.inj htype
    exact idxOf_lt_of_mem hdeclared

lemma mem_enumerationNames_of_type_attribute (h : m.resolved.entry? id = some entry)
    (ha : a ∈ entry.attributes) (htype : a.type = .ofEnumeration name) :
    name ∈ m.enumerationNames := by
  obtain ⟨t, hdeclared, ht⟩ := hm.exists_declared_of_mem_attributes h ha
  rw [ht] at htype
  cases t with
  | primitive q => simp [resolvedType] at htype
  | ofEnumeration other =>
    obtain rfl := AttributeType.ofEnumeration.inj htype
    exact hdeclared
  | ofClass other => simp [resolvedType] at htype

/-- Every declared enumeration is in the set, as it was declared. -/
theorem enumerates (h : name ∈ m.enumerationNames) :
    (m.resolved.contracts ps o).Enumerates m name := by
  obtain ⟨e, he, rfl⟩ := List.mem_map.1 h
  have hnd : ((sortedByName (·.name) m.enumerations).map (·.name)).Nodup :=
    ((sortedByName_perm _ _).map _).nodup_iff.2 hm.enumerationNames_nodup
  refine ⟨e, he, rfl, ?_⟩
  rw [ContractSet.enumeration?, Catalog.contracts, List.find?_map, Option.map_eq_some_iff]
  exact ⟨e, find?_eq_some_of_nodup hnd (mem_sortedByName.2 he), rfl⟩

/-! ## Tables and fields -/

lemma identifies_of_mem_references {t : Table}
    (ht : t ∈ (m.resolved.layout m.resolved.placements).tables) {r : Reference}
    (hr : r ∈ t.references) :
    (m.resolved.layout m.resolved.placements).Identifies r.targetClass r.references := by
  have hc := hm.coherent_resolved
  obtain ⟨id, hid, rfl⟩ := Catalog.exists_lt_of_mem_tables ht
  rcases List.mem_append.1 hr with hr | hr
  · obtain ⟨a, ha, href⟩ := List.mem_filterMap.1 hr
    obtain ⟨i, htype, hclass, htext⟩ := Catalog.exists_classId_of_attributeReference? href
    rw [hclass, htext]
    exact hc.identifies_className
      (hm.lt_of_type_attribute (Catalog.entry?_of_lt hid) ha htype)
  · obtain ⟨key, hkey, rfl⟩ := List.mem_map.1 hr
    exact hc.identifies_keyReference hkey

lemma enumerates_of_mem_columns {t : Table} (ht : t ∈ (m.resolved.layout ps).tables)
    {column : Column} (hcolumn : column ∈ t.columns)
    (htype : column.type = .ofEnumeration name) :
    (m.resolved.contracts ps o).Enumerates m name := by
  obtain ⟨id, hid, rfl⟩ := Catalog.exists_lt_of_mem_tables ht
  obtain ⟨a, ha, hcol⟩ := List.mem_filterMap.1 hcolumn
  exact hm.enumerates (hm.mem_enumerationNames_of_type_attribute (Catalog.entry?_of_lt hid) ha
    (Catalog.type_of_attributeColumn? hcol htype))

lemma defines_attributeField (h : m.resolved.entry? id = some entry) (ha : a ∈ entry.attributes) :
    (m.resolved.contracts ps o).Defines m (m.resolved.attributeField a).type := by
  cases htype : a.type with
  | primitive p => simp [Catalog.attributeField, htype, ContractSet.Defines]
  | ofEnumeration name =>
    simp only [Catalog.attributeField, htype, ContractSet.Defines]
    exact hm.enumerates (hm.mem_enumerationNames_of_type_attribute h ha htype)
  | ofClass i =>
    simp only [Catalog.attributeField, htype, ContractSet.Defines]
    exact ⟨_, hm.coherent_resolved.get?_contracts_className (hm.lt_of_type_attribute h ha htype)⟩

lemma defines_of_mem_fields {className : String} {contract : Contract}
    (h : (m.resolved.contracts m.resolved.placements o).get? className = some contract)
    {f : Field} (hf : f ∈ contract.fields) :
    (m.resolved.contracts m.resolved.placements o).Defines m f.type := by
  have hc := hm.coherent_resolved
  obtain ⟨id, entry, hentry, -, rfl⟩ := hc.exists_entry_of_get?_contracts h
  rw [hc.fields_contract] at hf
  rcases List.mem_append.1 hf with hf | hf
  · obtain ⟨a, ha, rfl⟩ := List.mem_map.1 hf
    exact hm.defines_attributeField hentry ha
  · obtain ⟨⟨r, side⟩, he, rfl⟩ := List.mem_map.1 hf
    exact hc.defines_relationshipField m (Catalog.mem_endsOf.1 he).1 side

end Sound

/-- Whatever is compiled from a model is closed under its own names. -/
theorem compiled_closed (hk : m.compile o order = .ok k) : k.Closed m := by
  obtain ⟨hm, -, -, rfl⟩ := compile_eq_ok_iff.1 hk
  have hc := hm.coherent_resolved
  constructor
  case references => exact fun t ht r hr => hm.identifies_of_mem_references ht hr
  case columns => exact fun t ht column hcolumn name => hm.enumerates_of_mem_columns ht hcolumn
  case joinColumns =>
    intro t ht
    obtain ⟨r, hr, -, hfirst, hsecond⟩ := Catalog.exists_of_mem_joinTablesFrom ht
    have hmem := (List.mem_filter.1 hr).1
    rw [hfirst, hsecond]
    exact ⟨hc.identifies_joinColumn hmem .first, hc.identifies_joinColumn hmem .second⟩
  case parents => exact fun t ht p hp => hc.exists_parent_of_mem_tables ht hp
  case identities => exact fun t ht text => hc.references_identity_iff ht text
  case parentContracts =>
    intro className contract h
    refine ⟨?_, fun parentClass hparent => hc.exists_parent_of_get?_contracts h hparent⟩
    rw [hc.parent_of_get?_contracts h, Option.isSome_map]
  case fields => exact fun className contract h f hf => hm.defines_of_mem_fields h hf
  case placements =>
    intro name key hkey
    obtain ⟨r, hr, side, rfl⟩ := hc.exists_foreignKey_of_get?_placements hkey
    exact ⟨⟨_, hc.table?_layout_className (hc.ends r hr side)⟩,
      ⟨_, hc.table?_layout_className (hc.ends r hr side.opposite)⟩⟩
  case plans =>
    intro p hp
    obtain ⟨entry, hentry, rfl⟩ := List.mem_map.1 hp
    obtain ⟨id, hid, rfl⟩ := List.mem_iff_getElem.1 (List.mem_filter.1 hentry).1
    rw [hc.ids _ _ (Catalog.entry?_of_lt hid)]
    exact ⟨hc.exists_contract_plan hid, fun a ha => hc.declaresAlong_of_mem_arguments hid ha⟩

/-- A novel is constructed with what books declare: a genre and a reference to its borrower. -/
theorem library_compiled_closed : ∃ k, library.compile ⟨true⟩ = .ok k ∧ k.Closed library ∧
    k.contracts.Enumerates library "Genre" ∧ k.storage.Identifies "Reader" "reader.id" ∧
    k.contracts.DeclaresAlong "Novel" "Book" "borrower" := by
  obtain ⟨k, hk⟩ := exists_compiled_of_isOk (m := library) (o := ⟨true⟩) (by decide +kernel)
  have hclosed := compiled_closed hk
  obtain ⟨-, -, -, rfl⟩ := compile_eq_ok_iff.1 hk
  obtain ⟨t, ht, r, hr, hclass, htext⟩ :
      ∃ t ∈ (library.resolved.compiled ⟨true⟩).storage.tables, ∃ r ∈ t.references,
        r.targetClass = "Reader" ∧ r.references = "reader.id" := by decide +kernel
  obtain ⟨s, hs, column, hcolumn, htype⟩ :
      ∃ t ∈ (library.resolved.compiled ⟨true⟩).storage.tables, ∃ column ∈ t.columns,
        column.type = .ofEnumeration "Genre" := by decide +kernel
  obtain ⟨p, hp, hplan, a, ha, hdeclared, hsource⟩ :
      ∃ p ∈ (library.resolved.compiled ⟨true⟩).plans, p.ofClass = "Novel" ∧ ∃ a ∈ p.arguments,
        a.declaredBy = "Book" ∧ a.sourceField = "borrower" := by decide +kernel
  refine ⟨_, hk, hclosed, hclosed.columns s hs column hcolumn _ htype, ?_, ?_⟩
  · rw [← hclass, ← htext]
    exact hclosed.references t ht r hr
  · rw [← hplan, ← hdeclared, ← hsource]
    exact (hclosed.plans p hp).2 a ha

end Model

end Blueprint
