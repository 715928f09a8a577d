import Blueprint.Proofs.Acceptance

/-!
# Names of columns

The names that are compared before a model is compiled are those of the columns and references that
the table of a class gets, next to the names that every table has. In what is compiled a reference
is therefore found by its name.
-/
namespace Blueprint

/-- The name of the column or reference that an attribute becomes. -/
def Attribute.columnName (a : Attribute) : String :=
  match a.type with
  | .ofClass _ => referenceColumn a.name
  | _ => a.name

/-- The names of all columns of a table: its identity, its discriminator if it has one, its columns
and its references. -/
def Table.columnNames (t : Table) : List String :=
  t.identity.column ::
    (t.discriminator.toList ++ (t.columns.map (·.name) ++ t.references.map (·.name)))

namespace Catalog

variable {c : Catalog} {ps : Placements} {entry : ClassEntry}

lemma producedColumns_eq (ps : Placements) (entry : ClassEntry) :
    producedColumns ps entry =
      (identityColumn, identityColumn) ::
        ((if entry.isHierarchyRoot then [(discriminatorColumn, discriminatorColumn)] else []) ++
          (entry.attributes.map (fun a => (a.columnName, a.name)) ++
            (ps.ownedBy entry.id).map fun key => (key.columnName, key.role))) := by
  have hattribute : ∀ a : Attribute, (match a.type with
      | .ofClass _ => (referenceColumn a.name, a.name)
      | _ => (a.name, a.name)) = (a.columnName, a.name) := by
    intro a
    unfold Attribute.columnName
    cases a.type <;> rfl
  simp only [producedColumns, List.cons_append, List.nil_append, List.append_assoc]
  congr 3
  exact List.map_congr_left fun a _ => hattribute a

lemma map_fst_producedColumns (ps : Placements) (entry : ClassEntry) :
    (producedColumns ps entry).map (·.1) =
      identityColumn :: (if entry.isHierarchyRoot then [discriminatorColumn] else []) ++
        (entry.attributes.map (·.columnName) ++ (ps.ownedBy entry.id).map (·.columnName)) := by
  have hroot : (if entry.isHierarchyRoot then [(discriminatorColumn, discriminatorColumn)]
      else []).map (·.1) = if entry.isHierarchyRoot then [discriminatorColumn] else [] := by
    split <;> rfl
  rw [producedColumns_eq, List.map_cons, List.map_append, List.map_append, hroot, List.map_map,
    List.map_map]
  rfl

theorem columnDefect?_eq_none_iff : c.columnDefect? ps = none ↔
    ∀ entry ∈ c.classes, ((producedColumns ps entry).map (·.1)).Nodup := by
  simp [columnDefect?, firstClash_nil_eq_none_iff]

/-- An attribute becomes either a column or a reference. -/
lemma attributeColumns_perm (owner : String) (attributes : List Attribute) :
    ((attributes.filterMap attributeColumn?).map (·.name) ++
      (attributes.filterMap (c.attributeReference? owner)).map (·.name)).Perm
      (attributes.map (·.columnName)) := by
  induction attributes with
  | nil => exact .nil
  | cons a attributes ih =>
    obtain ⟨name, type, multiplicity⟩ := a
    cases type with
    | primitive p => exact ih.cons name
    | ofEnumeration e => exact ih.cons name
    | ofClass i => exact List.perm_middle.trans (ih.cons (referenceColumn name))

theorem columnNames_perm (ps : Placements) (entry : ClassEntry) :
    ((c.table ps entry).columns.map (·.name) ++ (c.table ps entry).references.map (·.name)).Perm
      (entry.attributes.map (·.columnName) ++ (ps.ownedBy entry.id).map (·.columnName)) := by
  have hkeys : ((ps.ownedBy entry.id).map keyReference).map (·.name) =
      (ps.ownedBy entry.id).map (·.columnName) := by
    rw [List.map_map]
    rfl
  simp only [table, List.map_append, hkeys, ← List.append_assoc]
  exact (attributeColumns_perm entry.name entry.attributes).append_right _

lemma columnNames_nodup_iff (ps : Placements) (entry : ClassEntry) :
    (c.table ps entry).columnNames.Nodup ↔ ((producedColumns ps entry).map (·.1)).Nodup := by
  have hroot : (c.table ps entry).discriminator.toList =
      if entry.isHierarchyRoot then [discriminatorColumn] else [] := by
    simp only [table]
    split <;> rfl
  rw [map_fst_producedColumns, Table.columnNames, hroot]
  exact (((columnNames_perm ps entry).append_left _).cons identityColumn).nodup_iff

/-- The columns that are compared are those of the tables. -/
theorem columnDefect?_eq_none_iff_layout : c.columnDefect? ps = none ↔
    ∀ t ∈ (c.layout ps).tables, t.columnNames.Nodup := by
  simp [columnDefect?_eq_none_iff, layout, columnNames_nodup_iff]

/-- In a table whose columns are not rejected every reference is found by its name. -/
theorem reference?_table (h : c.columnDefect? ps = none) (hentry : entry ∈ c.classes)
    {reference : Reference} (hreference : reference ∈ (c.table ps entry).references) :
    (c.table ps entry).reference? reference.name = some reference := by
  have hnd := columnDefect?_eq_none_iff.1 h entry hentry
  rw [map_fst_producedColumns] at hnd
  have hcolumns := (columnNames_perm (c := c) ps entry).nodup_iff.2 (List.nodup_append.1 hnd).2.1
  exact find?_eq_some_of_nodup (List.nodup_append.1 hcolumns).2.1 hreference

end Catalog

end Blueprint
