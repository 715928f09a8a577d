import Blueprint.Catalog.Basic
import Blueprint.Model.Check

/-!
# From models to catalogs

`Model.assemble` resolves the names of a model. It looks every name up by itself and has an exit for
each that it cannot find; for a model without defects none of them is taken. `Catalog.ofModel`
checks the model first, and then the fields that come together along each chain of
generalizations.
-/
namespace Blueprint

namespace Model

/-- The class names in order. -/
def orderedClasses (m : Model) : List ClassDecl := sortedByName (·.name) m.classes

/-- The position of a class among the names in order. -/
def locate (names : List String) (referencedBy name : String) : Except Defect ClassId :=
  match names.findIdx? (· == name) with
  | some id => .ok id
  | none => .error (.unknownClass referencedBy name)

def resolveAttribute (names : List String) (owner : String) (p : Property) :
    Except Defect Attribute :=
  match p.type with
  | some (.primitive q) => .ok ⟨p.name, .primitive q, p.effectiveMultiplicity⟩
  | some (.ofEnumeration name) => .ok ⟨p.name, .ofEnumeration name, p.effectiveMultiplicity⟩
  | some (.ofClass name) =>
    (locate names owner name).map fun id => ⟨p.name, .ofClass id, p.effectiveMultiplicity⟩
  | none => .error (.untypedProperty owner p.name)

/-- A generalization as the positions of its general and its specific. -/
def resolveGeneralization (names : List String) (g : Generalization) :
    Except Defect (ClassId × ClassId) := do
  let general ← locate names g.specific g.general
  let specific ← locate names g.general g.specific
  return (general, specific)

def resolveEnd (names : List String) (a : Association) (p : Property) :
    Except Defect RelationshipEnd :=
  match p.type.bind (·.className?) with
  | none => .error (.endNotClass a.name p.name)
  | some className =>
    match p.multiplicity with
    | none => .error (.missingMultiplicity a.name p.name)
    | some multiplicity =>
      (locate names a.name className).map fun id => ⟨p.name, id, multiplicity⟩

/-- A relationship from two ends in any order. -/
def relate (name : String) (a b : RelationshipEnd) : Relationship :=
  if a.precedes b then ⟨name, a, b⟩ else ⟨name, b, a⟩

/-- The relationship of an association, or none if it does not have two ends. -/
def resolveAssociation (names : List String) (a : Association) :
    Except Defect (Option Relationship) :=
  match a.ends with
  | [p, q] => do
    let first ← resolveEnd names a p
    let second ← resolveEnd names a q
    return some (relate a.name first second)
  | _ => .ok none

/-- The classes, given their attributes and the resolved generalizations. Of several generals the
last one declared counts. -/
def linkClasses (classes : List (ClassDecl × List Attribute))
    (generalizations : List (ClassId × ClassId)) : List ClassEntry :=
  classes.zipIdx.map fun ((decl, attributes), id) =>
    { id
      name := decl.name
      isAbstract := decl.isAbstract
      attributes
      general := (generalizations.filter fun g => g.2 == id).getLast?.map (·.1)
      specifics := (List.range classes.length).filter fun other =>
        generalizations.any fun g => g.1 == id && g.2 == other }

/-- The model with all names resolved. -/
def assemble (m : Model) : Except Defect Catalog := do
  let decls := m.orderedClasses
  let names := decls.map (·.name)
  let classes ← decls.mapM fun c => do
    return (c, ← c.attributes.mapM (resolveAttribute names c.name))
  let generalizations ← m.generalizations.mapM (resolveGeneralization names)
  let associations := sortedByName (·.name) m.associations
  let relationships ← associations.mapM (resolveAssociation names)
  return {
    name := m.name
    classes := linkClasses classes generalizations
    enumerations := sortedByName (·.name) m.enumerations
    relationships := relationships.filterMap id
    skipped := (associations.filter fun a => !a.isBinary).map (·.name) }

end Model

namespace Catalog

variable (c : Catalog)

/-- The fields that a class declares itself: its attributes, and the opposite role of each end at
which it takes part. -/
def ownFieldNames (id : ClassId) : List String :=
  ((c.entry? id).map fun entry => entry.attributes.map (·.name)).getD [] ++
    (c.endsOf id).map fun (r, side) => (r.endAt side.opposite).role

/-- The fields of a class with those inherited, each with the class that declares it. -/
def chainFields (id : ClassId) : List (String × String) :=
  (c.lineage id).flatMap fun declaring =>
    (c.ownFieldNames declaring).map fun field => (field, c.className declaring)

/-- A field that comes twice along a chain of generalizations. -/
def fieldDefect? : Option Defect :=
  c.classes.findSome? fun entry =>
    (firstClash [] (c.chainFields entry.id)).map fun (field, declaredBy, again) =>
      .duplicateField again field declaredBy

/-- The catalog of a model without defects. -/
def ofModel (m : Model) (order : StartOrder := .declared) : Except Defect Catalog :=
  match m.defect? order with
  | some defect => .error defect
  | none =>
    match m.assemble with
    | .error defect => .error defect
    | .ok c =>
      match c.fieldDefect? with
      | some defect => .error defect
      | none => .ok c

end Catalog

end Blueprint
