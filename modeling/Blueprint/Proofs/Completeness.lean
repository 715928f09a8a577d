import Blueprint.Proofs.Construction
import Blueprint.Proofs.RelationshipFields
import Blueprint.Proofs.TableNames

/-!
# Completeness

Each class, each enumeration and each association with two ends that admit many becomes exactly one
item of what is compiled. The searches by name take the first item that fits, but no name comes
twice where they search: so they find what is declared, all of it, and nothing else.
-/
namespace Blueprint

/-! ## Lookups -/

/-- The items have different keys, and the lookup finds each of them by its key. -/
structure FindsEach {α : Type} (items : List α) (key : α → String)
    (lookup : String → Option α) : Prop where
  distinct : (items.map key).Nodup
  finds : ∀ s x, lookup s = some x ↔ x ∈ items ∧ key x = s

/-- There is an item for each name that is declared, in the order of the names, and the lookup finds
an item exactly for these names. -/
structure Indexes {α : Type} (declared : String → Prop) (items : List α) (key : α → String)
    (lookup : String → Option α) : Prop extends FindsEach items key lookup where
  ordered : (items.map key).Pairwise (· < ·)
  covers : ∀ s, s ∈ items.map key ↔ declared s
  isSome_iff : ∀ s, (lookup s).isSome = true ↔ declared s

section Lookups

variable {α : Type} {declared : String → Prop} {items : List α} {key : α → String}
  {lookup : String → Option α}

/-- The first item that fits is the only one if the keys are distinct. -/
lemma FindsEach.of_nodup (h : (items.map key).Nodup) :
    FindsEach items key fun s => items.find? (key · == s) where
  distinct := h
  finds _ _ := find?_eq_some_iff_of_nodup h

lemma Indexes.of_finds (hordered : (items.map key).Pairwise (· < ·))
    (hcovers : ∀ s, s ∈ items.map key ↔ declared s)
    (hfinds : ∀ s x, lookup s = some x ↔ x ∈ items ∧ key x = s) :
    Indexes declared items key lookup where
  distinct := hordered.imp fun h => Std.ne_of_lt h
  finds := hfinds
  ordered := hordered
  covers := hcovers
  isSome_iff s := by
    rw [← hcovers, Option.isSome_iff_exists, List.mem_map]
    exact exists_congr fun x => hfinds s x

lemma Indexes.of_strict (hordered : (items.map key).Pairwise (· < ·))
    (hcovers : ∀ s, s ∈ items.map key ↔ declared s) :
    Indexes declared items key fun s => items.find? (key · == s) :=
  .of_finds hordered hcovers
    fun _ _ => find?_eq_some_iff_of_nodup (hordered.imp fun h => Std.ne_of_lt h)

end Lookups

/-! ## What is declared -/

namespace Model

/-- A class of that name can have instances of its own. -/
def DeclaresConcrete (m : Model) (name : String) : Prop :=
  ∃ d ∈ m.classes, d.name = name ∧ d.isAbstract = false

/-- An association of that name has two ends, and both admit many. -/
def JoinsMany (m : Model) (name : String) : Prop :=
  ∃ a ∈ m.associations, a.name = name ∧ ∃ p q, a.Joins p q ∧ p.AdmitsMany ∧ q.AdmitsMany

end Model

/-- What is compiled has one item for each declaration, and everything in it is found by name. -/
structure Compiled.Complete (k : Compiled) (m : Model) : Prop where
  tables : Indexes (· ∈ m.classNames) k.storage.tables (·.ofClass) k.storage.table?
  contracts : Indexes (· ∈ m.classNames) k.contracts.contracts.values (·.ofClass) k.contracts.get?
  contractNames : k.contracts.contracts.names = k.contracts.contracts.values.map (·.ofClass)
  plans : Indexes m.DeclaresConcrete k.plans (·.ofClass) k.plan?
  enumerations : Indexes (· ∈ m.enumerationNames) k.contracts.enumerations (·.name)
    k.contracts.enumeration?
  joinTables : Indexes m.JoinsMany k.storage.joinTables (·.association) k.storage.joinTableFor?
  joinTableNames : FindsEach k.storage.joinTables (·.name) k.storage.joinTable?
  columns : ∀ t ∈ k.storage.tables, FindsEach t.columns (·.name) t.column?
  references : ∀ t ∈ k.storage.tables, FindsEach t.references (·.name) t.reference?
  fields : ∀ contract ∈ k.contracts.contracts.values,
    FindsEach contract.fields (·.name) contract.field?
  arguments : ∀ p ∈ k.plans, FindsEach p.arguments (·.parameter) p.argument?

namespace Catalog.Coherent

variable {c : Catalog} {ps : Placements} {o : Options} {s : ContractSet} (hc : c.Coherent)
include hc

lemma values_contracts :
    (c.contracts ps o).contracts.values = c.classes.map (c.contract ps o) := by
  rw [NameTable.values, hc.entries_contracts, List.map_map]
  rfl

/-- A contract is kept under the name of its class. -/
lemma names_contracts : (c.contracts ps o).contracts.names =
    (c.contracts ps o).contracts.values.map (·.ofClass) := by
  rw [hc.values_contracts, NameTable.names, hc.entries_contracts, List.map_map, List.map_map]
  rfl

lemma get?_contracts_eq_some_iff {className : String} {contract : Contract} :
    (c.contracts ps o).get? className = some contract ↔
      contract ∈ (c.contracts ps o).contracts.values ∧ contract.ofClass = className := by
  rw [ContractSet.get?, NameTable.get?_eq_some_iff, hc.entries_contracts, hc.values_contracts]
  simp only [List.mem_map, Prod.mk.injEq]
  constructor
  · rintro ⟨entry, hentry, rfl, rfl⟩
    exact ⟨⟨entry, hentry, rfl⟩, rfl⟩
  · rintro ⟨⟨entry, hentry, rfl⟩, rfl⟩
    exact ⟨entry, hentry, rfl, rfl⟩

lemma map_ofClass_plans :
    (c.plans s).map (·.ofClass) = (c.classes.filter (!·.isAbstract)).map (·.name) := by
  rw [plans, List.map_map]
  refine List.map_congr_left fun entry hentry => ?_
  exact className_eq (hc.entry?_id (List.mem_filter.1 hentry).1)

end Catalog.Coherent

namespace Model.Sound

variable {m : Model} {o : Options} {ps : Placements} {s : ContractSet} {name : String}
  (hm : m.Sound)
include hm

/-! ## Items of declarations -/

lemma indexes_tables : Indexes (· ∈ m.classNames) (m.resolved.layout ps).tables (·.ofClass)
    (m.resolved.layout ps).table? := by
  have hnames : (m.resolved.layout ps).tables.map (·.ofClass) = m.orderedNames := by
    rw [← m.names_resolved, Catalog.layout, List.map_map]
    rfl
  exact .of_strict (hnames ▸ hm.orderedNames_strict) fun s => hnames ▸ mem_orderedNames

lemma indexes_contracts : Indexes (· ∈ m.classNames)
    (m.resolved.contracts ps o).contracts.values (·.ofClass)
    (m.resolved.contracts ps o).get? := by
  have hc := hm.coherent_resolved
  have hnames : (m.resolved.contracts ps o).contracts.values.map (·.ofClass) = m.orderedNames := by
    rw [hc.values_contracts, ← m.names_resolved, List.map_map]
    rfl
  exact .of_finds (hnames ▸ hm.orderedNames_strict) (fun s => hnames ▸ mem_orderedNames)
    fun s contract => hc.get?_contracts_eq_some_iff

/-- A class has a plan exactly if it is not abstract. -/
lemma indexes_plans : Indexes m.DeclaresConcrete (m.resolved.plans s) (·.ofClass)
    fun name => (m.resolved.plans s).find? (·.ofClass == name) := by
  have hc := hm.coherent_resolved
  have hnames := hc.map_ofClass_plans (s := s)
  refine .of_strict ?_ fun name => ?_
  · rw [hnames]
    exact hc.classNames.sublist (List.filter_sublist.map _)
  · rw [hnames, List.mem_map]
    constructor
    · rintro ⟨entry, hentry, rfl⟩
      obtain ⟨hmem, hconcrete⟩ := List.mem_filter.1 hentry
      obtain ⟨d, hd, heq⟩ := exists_decl_of_entry? (hc.entry?_id hmem)
      rw [heq] at hconcrete ⊢
      exact ⟨d, hd, rfl, by simpa [entryAt] using hconcrete⟩
    · rintro ⟨d, hd, rfl, hconcrete⟩
      obtain ⟨id, hentry⟩ := exists_entry hd
      refine ⟨_, List.mem_filter.2 ⟨List.mem_of_getElem? hentry, ?_⟩, rfl⟩
      simpa [entryAt] using hconcrete

lemma indexes_enumerations : Indexes (· ∈ m.enumerationNames)
    (m.resolved.contracts ps o).enumerations (·.name)
    (m.resolved.contracts ps o).enumeration? := by
  have hnames : (m.resolved.contracts ps o).enumerations.map (·.name) =
      (sortedByName (·.name) m.enumerations).map (·.name) := List.map_map
  refine .of_strict (hnames ▸ sortedByName_strict hm.enumerationNames_nodup) fun s => ?_
  rw [hnames]
  exact ((sortedByName_perm _ _).map _).mem_iff

variable (hfields : m.resolved.fieldDefect? = none)
include hfields

lemma get?_placements_eq_joinTable_iff_joinsMany :
    m.resolved.placements.get? name = some (.joinTable name) ↔ m.JoinsMany name := by
  constructor
  · intro hget
    obtain ⟨r, hr, rfl, hplace⟩ := hm.coherent_resolved.get?_placements_eq_some_iff.1 hget
    obtain ⟨a, ha, hname, p, q, hfaces, -, -⟩ := hm.exists_faces_of_mem hfields hr .first
    have hbinary := Association.isBinary_iff_exists_joins.2 ⟨p, q, hfaces.1⟩
    obtain ⟨placement, hplacement, hplaced⟩ := hm.placedBy_of_mem hfields ha hbinary
    obtain rfl := Option.some.inj (hplacement.symm.trans (hname ▸ hget))
    exact ⟨a, ha, hname.symm, p, q, hfaces.1, (hplaced.joinTable p q hfaces.1).1 rfl⟩
  · rintro ⟨a, ha, rfl, p, q, hjoins, hmany⟩
    have hbinary := Association.isBinary_iff_exists_joins.2 ⟨p, q, hjoins⟩
    obtain ⟨placement, hplacement, hplaced⟩ := hm.placedBy_of_mem hfields ha hbinary
    have hjoin := (hplaced.joinTable p q hjoins).2 hmany
    cases placement with
    | reference key => simp [Placement.isJoinTable] at hjoin
    | joinTable association =>
      obtain rfl : association = a.name := hplaced.association
      exact hplacement

lemma indexes_joinTables : Indexes m.JoinsMany
    (m.resolved.layout m.resolved.placements).joinTables (·.association)
    (m.resolved.layout m.resolved.placements).joinTableFor? := by
  have hc := hm.coherent_resolved
  have hnames : (m.resolved.layout m.resolved.placements).joinTables.map (·.association) =
      m.resolved.placements.joinTables := hc.associations_joinTables
  refine .of_strict (hnames ▸ hc.joinTables_strict) fun s => ?_
  rw [hnames, hc.mem_joinTables_iff, hm.get?_placements_eq_joinTable_iff_joinsMany hfields]

lemma findsEach_fields {contract : Contract}
    (h : contract ∈ (m.resolved.contracts m.resolved.placements o).contracts.values) :
    FindsEach contract.fields (·.name) contract.field? :=
  .of_nodup (hm.nodup_fields hfields (hm.coherent_resolved.get?_contracts_eq_some_iff.2 ⟨h, rfl⟩))

end Model.Sound

namespace Model

variable {m : Model} {o : Options} {k : Compiled} {order : StartOrder}

/-- Whatever is compiled from a model has one item for each declaration, and the searches by name
find these items and no others. -/
theorem compiled_complete (hk : m.compile o order = .ok k) : k.Complete m := by
  obtain ⟨hm, hfields, hcolumns, rfl⟩ := compile_eq_ok_iff.1 hk
  have hnames := Catalog.columnDefect?_eq_none_iff_layout.1 hcolumns
  have hdistinct : ∀ t ∈ (m.resolved.layout m.resolved.placements).tables,
      (t.columns.map (·.name) ++ t.references.map (·.name)).Nodup := fun t ht =>
    (List.nodup_append.1 (List.nodup_cons.1 (hnames t ht)).2).2.1
  constructor
  case tables => exact hm.indexes_tables
  case contracts => exact hm.indexes_contracts
  case contractNames => exact hm.coherent_resolved.names_contracts
  case plans => exact hm.indexes_plans
  case enumerations => exact hm.indexes_enumerations
  case joinTables => exact hm.indexes_joinTables hfields
  case joinTableNames =>
    exact .of_nodup (List.nodup_append.1 (Catalog.nodup_joinTablesFrom hm.nodup_tableNames _)).2.1
  case columns => exact fun t ht => .of_nodup (List.nodup_append.1 (hdistinct t ht)).1
  case references => exact fun t ht => .of_nodup (List.nodup_append.1 (hdistinct t ht)).2.1
  case fields => exact fun contract h => hm.findsEach_fields hfields h
  case arguments =>
    intro p hp
    obtain ⟨entry, -, rfl⟩ := List.mem_map.1 hp
    exact .of_nodup (Catalog.nodup_parameters_plan _ _)

/-- Persons have a table but no plan, and only who is assigned to projects needs a join table. -/
theorem firm_compiled_complete : ∃ k, firm.compile {} = .ok k ∧ k.Complete firm ∧
    (k.storage.table? "Person").isSome = true ∧ k.plan? "Person" = none ∧
    (k.plan? "Employee").isSome = true ∧ (k.storage.joinTableFor? "assigned").isSome = true ∧
    k.storage.joinTableFor? "reports" = none := by
  obtain ⟨k, hk⟩ := exists_compiled_of_isOk (m := firm) (o := {}) (by decide +kernel)
  have hcomplete := compiled_complete hk
  obtain ⟨-, -, -, rfl⟩ := compile_eq_ok_iff.1 hk
  exact ⟨_, hk, hcomplete, by decide +kernel⟩

end Model

end Blueprint
