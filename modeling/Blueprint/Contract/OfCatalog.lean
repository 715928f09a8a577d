import Blueprint.Contract.Basic
import Blueprint.Model.Options

/-!
# Contracts of a catalog

A relationship field is named after the role at the other end. As its class sees it:

| shape                      | field                                              |
|----------------------------|----------------------------------------------------|
| holds the reference        | an id, required if the other end is mandatory      |
| other side of one-to-one   | an id that may be left out                         |
| other side of one-to-many  | a list of ids                                      |
| many-to-many               | a list of ids, or of ids and new rows              |
-/
namespace Blueprint.Catalog

variable (c : Catalog) (ps : Placements) (o : Options)

def attributeField (a : Attribute) : Field where
  name := a.name
  type :=
    match a.type with
    | .primitive p => .primitive p
    | .ofEnumeration name => .ofEnumeration name
    | .ofClass id => .reference (c.className id)
  required := a.isRequired
  origin := .ofAttribute

/-- What the items of a many-to-many list may be. -/
def elementType (className : String) : ElementType :=
  if o.nestedCreations then .byReferenceOrValue (contractName className) else .byReference

/-- The field of the class at one side of a relationship, if the relationship is placed. -/
def relationshipField? (r : Relationship) (side : Side) : Option Field :=
  (ps.get? r.name).map fun placement =>
    let own := r.endAt side
    let opposite := r.endAt side.opposite
    let className := c.className opposite.classId
    let (type, required, owns) : FieldType × Bool × Bool :=
      match placement with
      | .reference key =>
        if key.ownerSide = side then (.reference className, key.required, true)
        else if opposite.multiplicity.isMany then (.list className .byReference, false, false)
        else (.reference className, false, false)
      | .joinTable _ => (.list className (elementType o className), false, false)
    { name := opposite.role
      type
      required
      origin := .relationship r.name (.between own.multiplicity opposite.multiplicity) owns }

def contract (entry : ClassEntry) : Contract :=
  let parentClass := entry.general.map c.className
  { ofClass := entry.name
    name := contractName entry.name
    parentClass
    parent := parentClass.map contractName
    isAbstract := entry.isAbstract
    fields := entry.attributes.map c.attributeField ++
      (c.endsOf entry.id).filterMap fun (r, side) => c.relationshipField? ps o r side }

/-- An enumeration whose literals have their names for values. -/
def enumeration (e : EnumDecl) : Enumeration := ⟨e.name, e.literals.map fun l => ⟨l, l⟩⟩

def contracts : ContractSet where
  contracts := .ofList (c.classes.map fun entry => (entry.name, c.contract ps o entry))
  enumerations := c.enumerations.map enumeration

end Blueprint.Catalog
