import Blueprint.Catalog.Basic
import Blueprint.Json.Value
import Blueprint.NameTable

/-!
# Placement of foreign keys

A relationship is stored either by a reference that the class at one of its ends holds, or by a
join table. With the ends `A` and `B` in order:

| A many | B many | minimums       | reference at | named after |
|--------|--------|----------------|--------------|-------------|
| no     | no     | A > 0, B = 0   | B            | A           |
| no     | no     | otherwise      | A            | B           |
| yes    | no     |                | A            | B           |
| no     | yes    |                | B            | A           |
| yes    | yes    |                | join table   |             |
-/
namespace Blueprint

open Json (Value)

def Side.toValue : Side → Value
  | first => .string "first"
  | second => .string "second"

/-- The shape of a relationship as one of its classes sees it. -/
inductive Cardinality where
  | oneToOne
  | manyToOne
  | oneToMany
  | manyToMany
  deriving DecidableEq, Repr

namespace Cardinality

/-- The shape for a class at an end with multiplicity `own`. -/
def between (own opposite : Multiplicity) : Cardinality :=
  match own.isMany, opposite.isMany with
  | false, false => oneToOne
  | true, false => manyToOne
  | false, true => oneToMany
  | true, true => manyToMany

def label : Cardinality → String
  | oneToOne => "1:1"
  | manyToOne => "N:1"
  | oneToMany => "1:N"
  | manyToMany => "N:M"

def toValue : Cardinality → Value
  | oneToOne => .string "one_to_one"
  | manyToOne => .string "many_to_one"
  | oneToMany => .string "one_to_many"
  | manyToMany => .string "many_to_many"

end Cardinality

/-- A reference that the class at one end of a relationship holds to the class at the other. -/
structure ForeignKey where
  association : String
  owner : ClassId
  ownerClass : String
  ownerSide : Side
  ownerRole : String
  target : ClassId
  targetClass : String
  /-- The role of the end that is referred to, after which the reference is named. -/
  role : String
  /-- Every instance of the owner has the reference. -/
  required : Bool
  /-- The shape as the owner sees it. -/
  cardinality : Cardinality
  deriving DecidableEq, Repr

def referenceColumn (role : String) : String := role ++ "_id"

def ForeignKey.columnName (key : ForeignKey) : String := referenceColumn key.role

/-- How one relationship is stored. -/
inductive Placement where
  | reference (key : ForeignKey)
  | joinTable (association : String)
  deriving DecidableEq, Repr

namespace Placement

def association : Placement → String
  | reference key => key.association
  | joinTable association => association

def key? : Placement → Option ForeignKey
  | reference key => some key
  | joinTable _ => none

def isJoinTable : Placement → Bool
  | reference _ => false
  | joinTable _ => true

/-- The positions of the classes are not written; their names identify them. -/
def toValue : Placement → Value
  | reference key => .object [("kind", .string "reference"),
      ("association", .string key.association), ("owner_class", .string key.ownerClass),
      ("owner_side", key.ownerSide.toValue), ("owner_role", .string key.ownerRole),
      ("target_class", .string key.targetClass), ("role", .string key.role),
      ("required", .bool key.required), ("cardinality", key.cardinality.toValue)]
  | joinTable association => .object [("kind", .string "join_table"),
      ("association", .string association)]

end Placement

/-- The placement of each relationship, by the name of its association. -/
abbrev Placements := NameTable Placement

namespace Placements

def ofPlacements (ps : List Placement) : Placements :=
  NameTable.ofList (ps.map fun p => (p.association, p))

/-- The references that a class holds. -/
def ownedBy (ps : Placements) (id : ClassId) : List ForeignKey :=
  (ps.values.filterMap Placement.key?).filter (·.owner == id)

/-- The associations that need a join table. -/
def joinTables (ps : Placements) : List String :=
  (ps.values.filter Placement.isJoinTable).map Placement.association

def toValue (ps : Placements) : Value :=
  .object (ps.entries.map fun (name, p) => (name, p.toValue))

end Placements

/-- The end whose class holds the reference; none holds it if both ends are many. Of two single
ends the one that may miss its partner does, unless that settles nothing: then the first. -/
def Relationship.ownerSide? (r : Relationship) : Option Side :=
  match r.first.multiplicity.isMany, r.second.multiplicity.isMany with
  | false, false =>
    if r.first.multiplicity.isMandatory && r.second.multiplicity.isOptional then some .second
    else some .first
  | true, false => some .first
  | false, true => some .second
  | true, true => none

namespace Catalog

variable (c : Catalog)

def place (r : Relationship) : Placement :=
  match r.ownerSide? with
  | none => .joinTable r.name
  | some side =>
    let owner := r.endAt side
    let target := r.endAt side.opposite
    .reference {
      association := r.name
      owner := owner.classId
      ownerClass := c.className owner.classId
      ownerSide := side
      ownerRole := owner.role
      target := target.classId
      targetClass := c.className target.classId
      role := target.role
      required := target.multiplicity.isMandatory
      cardinality := .between owner.multiplicity target.multiplicity }

def placements : Placements := .ofPlacements (c.relationships.map c.place)

end Catalog

end Blueprint
