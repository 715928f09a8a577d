import Blueprint.Model.Json

/-!
# Storage layouts

A layout has a table for every class and a join table for every many-to-many relationship. The
table of a class with a general shares the identity of its general's table.
-/
namespace Blueprint

open Json (Value)

/-- The column that identifies the rows of every table. -/
def identityColumn : String := "id"

/-- The column that tells the classes of a hierarchy apart, in the table of its root. -/
def discriminatorColumn : String := "type"

/-- The identity of a table, as a reference to it names it. -/
def identityOf (table : String) : String := table ++ "." ++ identityColumn

structure ParentTable where
  ofClass : String
  table : String
  deriving DecidableEq, Repr

structure Identity where
  column : String
  autoIncrement : Bool
  references : Option String
  deriving DecidableEq, Repr

inductive ColumnType where
  | primitive (p : Primitive)
  | ofEnumeration (name : String)
  deriving DecidableEq, Repr

structure Column where
  name : String
  type : ColumnType
  nullable : Bool
  deriving DecidableEq, Repr

/-- A column that refers to the rows of another table. -/
structure Reference where
  name : String
  /-- The association or the attribute that it stores. -/
  source : String
  targetClass : String
  references : String
  nullable : Bool
  unique : Bool
  deriving DecidableEq, Repr

structure Table where
  ofClass : String
  name : String
  parent : Option ParentTable
  identity : Identity
  discriminator : Option String
  /-- What the discriminator holds in the rows of this class. -/
  polymorphicIdentity : Option String
  columns : List Column
  references : List Reference
  deriving DecidableEq, Repr

namespace Table

def isRoot (t : Table) : Bool := t.parent.isNone

def column? (t : Table) (name : String) : Option Column := t.columns.find? (·.name == name)

def reference? (t : Table) (name : String) : Option Reference :=
  t.references.find? (·.name == name)

end Table

structure JoinColumn where
  name : String
  ofClass : String
  references : String
  deriving DecidableEq, Repr

/-- The two columns together identify a row. -/
structure JoinTable where
  name : String
  association : String
  first : JoinColumn
  second : JoinColumn
  deriving DecidableEq, Repr

structure Layout where
  tables : List Table
  joinTables : List JoinTable
  deriving DecidableEq, Repr

namespace Layout

/-- The table of a class. -/
def table? (l : Layout) (className : String) : Option Table :=
  l.tables.find? (·.ofClass == className)

def joinTable? (l : Layout) (name : String) : Option JoinTable :=
  l.joinTables.find? (·.name == name)

def joinTableFor? (l : Layout) (association : String) : Option JoinTable :=
  l.joinTables.find? (·.association == association)

end Layout

/-! ## JSON form -/

def ParentTable.toValue (p : ParentTable) : Value :=
  .object [("class", .string p.ofClass), ("table", .string p.table)]

def Identity.toValue (i : Identity) : Value :=
  .object [("column", .string i.column), ("auto_increment", .bool i.autoIncrement),
    ("references", .ofOption .string i.references)]

def ColumnType.toValue : ColumnType → Value
  | primitive p => .object [("kind", .string "primitive"), ("name", p.toValue)]
  | ofEnumeration name => .object [("kind", .string "enumeration"), ("name", .string name)]

def Column.toValue (c : Column) : Value :=
  .object [("name", .string c.name), ("ty", c.type.toValue), ("nullable", .bool c.nullable)]

def Reference.toValue (r : Reference) : Value :=
  .object [("name", .string r.name), ("source", .string r.source),
    ("target_class", .string r.targetClass), ("references", .string r.references),
    ("nullable", .bool r.nullable), ("unique", .bool r.unique)]

def Table.toValue (t : Table) : Value :=
  .object [("class", .string t.ofClass), ("name", .string t.name),
    ("parent", .ofOption ParentTable.toValue t.parent), ("identity", t.identity.toValue),
    ("discriminator", .ofOption .string t.discriminator),
    ("polymorphic_identity", .ofOption .string t.polymorphicIdentity),
    ("columns", .ofList Column.toValue t.columns),
    ("references", .ofList Reference.toValue t.references)]

def JoinColumn.toValue (c : JoinColumn) : Value :=
  .object [("name", .string c.name), ("class", .string c.ofClass),
    ("references", .string c.references)]

def JoinTable.toValue (t : JoinTable) : Value :=
  .object [("name", .string t.name), ("association", .string t.association),
    ("columns", .array [t.first.toValue, t.second.toValue])]

def Layout.toValue (l : Layout) : Value :=
  .object [("tables", .ofList Table.toValue l.tables),
    ("join_tables", .ofList JoinTable.toValue l.joinTables)]

end Blueprint
