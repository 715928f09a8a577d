import Blueprint.Model.Multiplicity

/-!
# Domain models

A model declares classes with attributes, enumerations, associations between classes and
generalizations of one class by another. It is kept as it was written: names may be repeated or
missing, and the order of every list is that of the declarations.
-/
namespace Blueprint

inductive Primitive where
  | string
  | integer
  | float
  | boolean
  | time
  | date
  | dateTime
  | timeDelta
  | any
  deriving DecidableEq, Repr

namespace Primitive

/-- The name shown to a reader. -/
def name : Primitive → String
  | string => "str"
  | integer => "int"
  | float => "float"
  | boolean => "bool"
  | time => "time"
  | date => "date"
  | dateTime => "datetime"
  | timeDelta => "timedelta"
  | any => "any"

def isNumeric : Primitive → Bool
  | integer | float => true
  | _ => false

def isTemporal : Primitive → Bool
  | time | date | dateTime | timeDelta => true
  | _ => false

end Primitive

/-- The type of a property. Classes and enumerations are meant by name. -/
inductive TypeRef where
  | primitive (p : Primitive)
  | ofClass (name : String)
  | ofEnumeration (name : String)
  deriving DecidableEq, Repr

namespace TypeRef

def text : TypeRef → String
  | primitive p => p.name
  | ofClass name | ofEnumeration name => name

/-- The class that is meant, if one is. -/
def className? : TypeRef → Option String
  | ofClass name => some name
  | _ => none

end TypeRef

/-- An attribute of a class, or an end of an association. At an end, the multiplicity says how
many instances of the end's class one instance at the other end is linked to. -/
structure Property where
  name : String
  type : Option TypeRef
  multiplicity : Option Multiplicity
  deriving DecidableEq, Repr

/-- The declared multiplicity, or exactly one. -/
def Property.effectiveMultiplicity (p : Property) : Multiplicity := p.multiplicity.getD .one

structure ClassDecl where
  name : String
  attributes : List Property
  isAbstract : Bool
  deriving DecidableEq, Repr

def ClassDecl.attribute? (c : ClassDecl) (name : String) : Option Property :=
  c.attributes.find? (·.name == name)

structure EnumDecl where
  name : String
  literals : List String
  deriving DecidableEq, Repr

structure Association where
  name : String
  ends : List Property
  deriving DecidableEq, Repr

/-- Only associations with two ends are compiled. -/
def Association.isBinary (a : Association) : Bool := a.ends.length == 2

/-- `general` generalizes `specific`. -/
structure Generalization where
  general : String
  specific : String
  deriving DecidableEq, Repr

structure Model where
  name : String
  classes : List ClassDecl
  enumerations : List EnumDecl
  associations : List Association
  generalizations : List Generalization
  deriving DecidableEq, Repr

namespace Model

def empty (name : String) : Model := ⟨name, [], [], [], []⟩

/-- The first class of that name. -/
def class? (m : Model) (name : String) : Option ClassDecl := m.classes.find? (·.name == name)

/-- The first enumeration of that name. -/
def enumeration? (m : Model) (name : String) : Option EnumDecl :=
  m.enumerations.find? (·.name == name)

def declaresClass (m : Model) (name : String) : Bool := m.classes.any (·.name == name)

def declaresEnumeration (m : Model) (name : String) : Bool := m.enumerations.any (·.name == name)

end Model

end Blueprint
