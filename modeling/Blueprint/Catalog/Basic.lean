import Blueprint.Model.Basic

/-!
# Catalogs

A catalog is a model with its names resolved. Classes stand in the order of their names and are
meant by their position; each knows its general and its specifics. An association with two ends is
a relationship, whose ends stand in the order of their classes and roles.
-/
namespace Blueprint

/-- The position of a class among the classes in the order of their names. -/
abbrev ClassId := Nat

/-- The two ends of a relationship. -/
inductive Side where
  | first
  | second
  deriving DecidableEq, Repr

def Side.opposite : Side → Side
  | first => second
  | second => first

/-- The type of an attribute with its class found. -/
inductive AttributeType where
  | primitive (p : Primitive)
  | ofEnumeration (name : String)
  | ofClass (id : ClassId)
  deriving DecidableEq, Repr

structure Attribute where
  name : String
  type : AttributeType
  multiplicity : Multiplicity
  deriving DecidableEq, Repr

/-- A value has to be given. -/
def Attribute.isRequired (a : Attribute) : Bool := a.multiplicity.isMandatory

structure ClassEntry where
  id : ClassId
  name : String
  isAbstract : Bool
  attributes : List Attribute
  general : Option ClassId
  specifics : List ClassId
  deriving DecidableEq, Repr

/-- A class that has specifics and no general is where its hierarchy starts. -/
def ClassEntry.isHierarchyRoot (c : ClassEntry) : Bool :=
  c.general.isNone && !c.specifics.isEmpty

structure RelationshipEnd where
  role : String
  classId : ClassId
  /-- How many instances of this class one instance of the other class links to. -/
  multiplicity : Multiplicity
  deriving DecidableEq, Repr

/-- An end goes before another if its class does, or if the classes are equal and its role does. -/
def RelationshipEnd.precedes (a b : RelationshipEnd) : Bool :=
  decide (a.classId < b.classId) || (a.classId == b.classId && decide (a.role ≤ b.role))

structure Relationship where
  name : String
  first : RelationshipEnd
  second : RelationshipEnd
  deriving DecidableEq, Repr

namespace Relationship

def endAt (r : Relationship) : Side → RelationshipEnd
  | .first => r.first
  | .second => r.second

/-- The sides at which a class takes part; both, if it is related to itself. -/
def sidesOf (r : Relationship) (id : ClassId) : List Side :=
  [Side.first, Side.second].filter fun side => (r.endAt side).classId == id

def isManyToMany (r : Relationship) : Bool :=
  r.first.multiplicity.isMany && r.second.multiplicity.isMany

end Relationship

structure Catalog where
  name : String
  classes : List ClassEntry
  enumerations : List EnumDecl
  relationships : List Relationship
  /-- The associations that do not have two ends. -/
  skipped : List String
  deriving DecidableEq, Repr

namespace Catalog

variable (c : Catalog)

def entry? (id : ClassId) : Option ClassEntry := c.classes[id]?

def className (id : ClassId) : String := ((c.entry? id).map (·.name)).getD ""

def classId? (name : String) : Option ClassId := c.classes.findIdx? (·.name == name)

def general? (id : ClassId) : Option ClassId := (c.entry? id).bind (·.general)

/-- The class, its general and so on upwards, for at most a number of steps. -/
def upwards : Nat → ClassId → List ClassId
  | 0, id => [id]
  | steps + 1, id =>
    match c.general? id with
    | none => [id]
    | some general => id :: upwards steps general

/-- The chain of generalizations down to a class, its root first. No chain has more classes than
there are. -/
def lineage (id : ClassId) : List ClassId := (c.upwards c.classes.length id).reverse

/-- The proper ancestors of a class, its root first. -/
def ancestors (id : ClassId) : List ClassId := (c.lineage id).dropLast

/-- Where one comes from a class by going up, for at most a number of steps. -/
def topFrom : Nat → ClassId → ClassId
  | 0, id => id
  | steps + 1, id =>
    match c.general? id with
    | none => id
    | some general => topFrom steps general

/-- The class at which the generals above a class end, or the class itself if it has none. -/
def root (id : ClassId) : ClassId := c.topFrom c.classes.length id

def inHierarchy (id : ClassId) : Bool :=
  (c.entry? id).any fun entry => entry.general.isSome || !entry.specifics.isEmpty

/-- The ends at which a class takes part, in the order of the relationships. -/
def endsOf (id : ClassId) : List (Relationship × Side) :=
  c.relationships.flatMap fun r => (r.sidesOf id).map fun side => (r, side)

end Catalog

end Blueprint
