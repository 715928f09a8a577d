import Blueprint.Model.Check
import Blueprint.Placement
import Blueprint.Storage.Layout

/-!
# Tables of a catalog

The layout follows from the catalog and the placements. `Catalog.columnDefect?` tells whether two
columns of a table would get the same name, which the layout itself does not prevent.
-/
namespace Blueprint

namespace Catalog

variable (c : Catalog) (ps : Placements)

/-! ## Class tables -/

def parentTable? (entry : ClassEntry) : Option ParentTable :=
  entry.general.map fun general => ⟨c.className general, tableName (c.className general)⟩

/-- The column of an attribute that does not refer to a class. -/
def attributeColumn? (a : Attribute) : Option Column :=
  match a.type with
  | .primitive p => some ⟨a.name, .primitive p, !a.isRequired⟩
  | .ofEnumeration name => some ⟨a.name, .ofEnumeration name, !a.isRequired⟩
  | .ofClass _ => none

/-- The reference of an attribute that refers to a class. -/
def attributeReference? (owner : String) (a : Attribute) : Option Reference :=
  match a.type with
  | .ofClass id => some {
      name := referenceColumn a.name
      source := owner ++ "." ++ a.name
      targetClass := c.className id
      references := identityOf (tableName (c.className id))
      nullable := !a.isRequired
      unique := false }
  | _ => none

/-- The reference that stores a relationship. It is unique if both ends are single. -/
def keyReference (key : ForeignKey) : Reference where
  name := key.columnName
  source := key.association
  targetClass := key.targetClass
  references := identityOf (tableName key.targetClass)
  nullable := !key.required
  unique := key.cardinality == .oneToOne

def table (entry : ClassEntry) : Table where
  ofClass := entry.name
  name := tableName entry.name
  parent := c.parentTable? entry
  identity := {
    column := identityColumn
    autoIncrement := entry.general.isNone
    references := (c.parentTable? entry).map fun parent => identityOf parent.table }
  discriminator := if entry.isHierarchyRoot then some discriminatorColumn else none
  polymorphicIdentity := if c.inHierarchy entry.id then some (tableName entry.name) else none
  columns := entry.attributes.filterMap attributeColumn?
  references := entry.attributes.filterMap (c.attributeReference? entry.name) ++
    (ps.ownedBy entry.id).map keyReference

/-! ## Join tables -/

/-- The names that a join table may get, best first: that of its classes, then with that of its
association, then with a number counting from two. -/
def joinTableName (base association : String) : Nat → String
  | 0 => base
  | 1 => base ++ "_" ++ association
  | n + 2 => base ++ "_" ++ association ++ "_" ++ Nat.repr (n + 2)

/-- The first name that is not used, from the `n`-th on. Of more names than are used one is free. -/
def firstUnused (used : List String) (name : Nat → String) : Nat → Nat → String
  | 0, n => name n
  | tries + 1, n => if used.contains (name n) then firstUnused used name tries (n + 1) else name n

/-- The column for one end. Only the roles tell the two ends of a class with itself apart. -/
def joinColumn (r : Relationship) (side : Side) : JoinColumn :=
  let e := r.endAt side
  let className := c.className e.classId
  { name := referenceColumn
      (if r.first.classId = r.second.classId then e.role else tableName className)
    ofClass := className
    references := identityOf (tableName className) }

def joinTable (used : List String) (r : Relationship) : JoinTable where
  name :=
    firstUnused used
      (joinTableName
        (tableName (c.className r.first.classId) ++ tableName (c.className r.second.classId))
        (Text.lowercase r.name))
      used.length 0
  association := r.name
  first := c.joinColumn r .first
  second := c.joinColumn r .second

/-- The join tables of some relationships in order, given the names used before. -/
def joinTablesFrom (used : List String) : List Relationship → List JoinTable
  | [] => []
  | r :: rs =>
    let t := c.joinTable used r
    t :: joinTablesFrom (t.name :: used) rs

def joinTables : List JoinTable :=
  c.joinTablesFrom (c.classes.map fun entry => tableName entry.name)
    (c.relationships.filter fun r => (ps.get? r.name).any Placement.isJoinTable)

def layout : Layout := ⟨c.classes.map (c.table ps), c.joinTables ps⟩

/-! ## Column names -/

/-- The columns of a class's table, each with the field that needs it. -/
def producedColumns (entry : ClassEntry) : List (String × String) :=
  [(identityColumn, identityColumn)] ++
    (if entry.isHierarchyRoot then [(discriminatorColumn, discriminatorColumn)] else []) ++
    entry.attributes.map (fun a =>
      match a.type with
      | .ofClass _ => (referenceColumn a.name, a.name)
      | _ => (a.name, a.name)) ++
    (ps.ownedBy entry.id).map fun key => (key.columnName, key.role)

def columnDefect? : Option Defect :=
  c.classes.findSome? fun entry =>
    (firstClash [] (producedColumns ps entry)).map fun (column, first, second) =>
      .duplicateColumn (tableName entry.name) column first second

end Catalog

end Blueprint
