import Blueprint.Compiled
import Blueprint.Report.Grid

/-!
# The summary of a compiled model

A compiled model as a series of titled grids. A section with nothing to show is left out, except
for those that every model has.
-/
namespace Blueprint.Report

/-- Several items in one cell, or a dash where that leaves the cell empty. -/
def joined (separator : String) (items : List String) : String :=
  let text := separator.intercalate items
  if text.isEmpty then "-" else text

def optionMark (isOptional : Bool) : String := if isOptional then "?" else ""

def placementRow : Placement → List String
  | .reference key => [key.association, key.cardinality.label, key.ownerClass, key.columnName,
      key.targetClass, if key.required then "true" else "false"]
  | .joinTable association => [association, "join table", "-", "-", "-", "-"]

def columnText (c : Column) : String :=
  let type := match c.type with
    | .primitive p => p.name
    | .ofEnumeration name => name
  c.name ++ ": " ++ type ++ optionMark c.nullable

def referenceText (r : Reference) : String :=
  r.name ++ " -> " ++ r.references ++ optionMark r.nullable ++ if r.unique then " unique" else ""

def tableRow (t : Table) : List String :=
  [t.name, ((t.parent.map (·.table)).getD "-"),
    "\n".intercalate ([t.identity.column ++ " (pk)"] ++
      (t.discriminator.map (· ++ " (discriminator)")).toList ++ t.columns.map columnText),
    joined "\n" (t.references.map referenceText)]

def joinTableRow (t : JoinTable) : List String :=
  [t.name, t.association,
    "\n".intercalate ([t.first, t.second].map fun c => c.name ++ " -> " ++ c.references)]

def fieldTypeText : FieldType → String
  | .primitive p => p.name
  | .ofEnumeration name => name
  | .reference className => "id<" ++ className ++ ">"
  | .list className .byReference => "list[id<" ++ className ++ ">]"
  | .list className (.byReferenceOrValue contract) =>
    "list[id<" ++ className ++ "> | " ++ contract ++ "]"

def fieldText (f : Field) : String :=
  f.name ++ ": " ++ fieldTypeText f.type ++ optionMark (!f.required)

def contractRow (k : Contract) : List String :=
  [k.name ++ (if k.isAbstract then " (abstract)" else ""), k.parent.getD "-",
    joined "\n" (k.fields.map fieldText)]

def enumerationRow (e : Enumeration) : List String :=
  [e.name, ", ".intercalate (e.literals.map (·.name))]

/-- A parameter, with the field that feeds it where the names differ. -/
def parameterText (a : Argument) : String :=
  if a.parameter = a.sourceField then a.parameter else a.parameter ++ " <- " ++ a.sourceField

def planRow (p : Plan) : List String :=
  [p.ofClass, joined ", " ((p.arguments.filter (·.binding != .link)).map parameterText),
    joined ", " (p.links.map (·.parameter))]

def titled (title : String) (g : Grid) : String := title ++ "\n" ++ g.text

def sections (k : Compiled) : List String :=
  ["Model: " ++ k.name,
    titled "Foreign keys"
      ⟨["Association", "Kind", "Owner", "Column", "Target", "Required"],
        k.placements.values.map placementRow⟩,
    titled "Tables"
      ⟨["Table", "Parent", "Columns", "References"], k.storage.tables.map tableRow⟩] ++
  (if k.storage.joinTables.isEmpty then []
    else [titled "Join tables"
      ⟨["Join table", "Association", "Columns"], k.storage.joinTables.map joinTableRow⟩]) ++
  [titled "Contracts"
    ⟨["Contract", "Parent", "Fields"], k.contracts.contracts.values.map contractRow⟩] ++
  (if k.contracts.enumerations.isEmpty then []
    else [titled "Enumerations"
      ⟨["Enumeration", "Literals"], k.contracts.enumerations.map enumerationRow⟩]) ++
  [titled "Construction" ⟨["Class", "Parameters", "Links"], k.plans.map planRow⟩] ++
  (if k.skipped.isEmpty then []
    else ["Skipped associations (not binary): " ++ ", ".intercalate k.skipped])

/-- How a compiled model is written. -/
inductive Format where
  | table
  | json
  deriving DecidableEq, Repr

def Format.name : Format → String
  | table => "table"
  | json => "json"

/-- The text of a compiled model in a format. -/
def Format.render : Format → Compiled → String
  | table, k => "\n\n".intercalate (sections k)
  | json, k => k.toJson

end Blueprint.Report
