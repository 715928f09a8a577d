import Blueprint.Placement
import Blueprint.Model.Json

/-!
# Creation contracts

The contract of a class says what has to be given to create an instance: the fields that the class
declares itself, the others being those of its parent contract. Enumerations are listed beside the
contracts.
-/
namespace Blueprint

open Json (Value)

/-- The contract of a class is named after it. -/
def contractName (className : String) : String := className ++ "Create"

/-- What an item of a list may be. -/
inductive ElementType where
  /-- The id of a row that exists. -/
  | byReference
  /-- Such an id, or a contract's worth of data for a new row. -/
  | byReferenceOrValue (contract : String)
  deriving DecidableEq, Repr

inductive FieldType where
  | primitive (p : Primitive)
  | ofEnumeration (name : String)
  /-- The id of one row of a class. -/
  | reference (className : String)
  | list (className : String) (element : ElementType)
  deriving DecidableEq, Repr

def FieldType.isList : FieldType → Bool
  | list _ _ => true
  | _ => false

inductive Origin where
  | ofAttribute
  | relationship (association : String) (cardinality : Cardinality) (ownsReference : Bool)
  deriving DecidableEq, Repr

structure Field where
  name : String
  type : FieldType
  required : Bool
  origin : Origin
  deriving DecidableEq, Repr

namespace Field

def isAttribute (f : Field) : Bool := f.origin == .ofAttribute

/-- The field stands for the reference that its own class holds. -/
def ownsReference (f : Field) : Bool :=
  match f.origin with
  | .relationship _ _ owns => owns
  | .ofAttribute => false

end Field

structure Contract where
  ofClass : String
  name : String
  parentClass : Option String
  parent : Option String
  isAbstract : Bool
  /-- Attributes first, then relationships. -/
  fields : List Field
  deriving DecidableEq, Repr

namespace Contract

def field? (k : Contract) (name : String) : Option Field := k.fields.find? (·.name == name)

def attributeFields (k : Contract) : List Field := k.fields.filter (·.isAttribute)

def relationshipFields (k : Contract) : List Field := k.fields.filter (!·.isAttribute)

end Contract

structure Literal where
  name : String
  value : String
  deriving DecidableEq, Repr

structure Enumeration where
  name : String
  literals : List Literal
  deriving DecidableEq, Repr

structure ContractSet where
  /-- The contracts by the names of their classes. -/
  contracts : NameTable Contract
  enumerations : List Enumeration

namespace ContractSet

variable (s : ContractSet)

def get? (className : String) : Option Contract := s.contracts.get? className

def enumeration? (name : String) : Option Enumeration := s.enumerations.find? (·.name == name)

/-- The contract of a class, that of its parent and so on upwards, for at most a number of
contracts. A contract that is missing ends the chain. -/
def upwards : Nat → String → List Contract
  | 0, _ => []
  | steps + 1, className =>
    match s.get? className with
    | none => []
    | some k =>
      k :: match k.parentClass with
        | none => []
        | some parent => upwards steps parent

/-- The chain of contracts down to that of a class, the root first. No chain has more contracts
than there are. -/
def lineage (className : String) : List Contract :=
  (s.upwards s.contracts.size className).reverse

/-- Everything that has to be given for an instance: inherited fields first. -/
def effectiveFields (className : String) : List Field := (s.lineage className).flatMap (·.fields)

end ContractSet

/-! ## JSON form -/

def ElementType.toValue : ElementType → Value
  | byReference => .object [("kind", .string "by_reference")]
  | byReferenceOrValue contract =>
    .object [("kind", .string "by_reference_or_value"), ("contract", .string contract)]

def FieldType.toValue : FieldType → Value
  | primitive p => .object [("kind", .string "primitive"), ("primitive", p.toValue)]
  | ofEnumeration name => .object [("kind", .string "enumeration"), ("name", .string name)]
  | reference className => .object [("kind", .string "reference"), ("class", .string className)]
  | list className element => .object [("kind", .string "list"), ("class", .string className),
      ("element", element.toValue)]

def Origin.toValue : Origin → Value
  | ofAttribute => .object [("kind", .string "attribute")]
  | relationship association cardinality owns => .object [("kind", .string "relationship"),
      ("association", .string association), ("cardinality", cardinality.toValue),
      ("owns_reference", .bool owns)]

def Field.toValue (f : Field) : Value :=
  .object [("name", .string f.name), ("ty", f.type.toValue), ("required", .bool f.required),
    ("origin", f.origin.toValue)]

def Contract.toValue (k : Contract) : Value :=
  .object [("class", .string k.ofClass), ("name", .string k.name),
    ("parent_class", .ofOption .string k.parentClass), ("parent", .ofOption .string k.parent),
    ("is_abstract", .bool k.isAbstract), ("fields", .ofList Field.toValue k.fields)]

def Literal.toValue (l : Literal) : Value :=
  .object [("name", .string l.name), ("value", .string l.value)]

def Enumeration.toValue (e : Enumeration) : Value :=
  .object [("name", .string e.name), ("literals", .ofList Literal.toValue e.literals)]

def ContractSet.toValue (s : ContractSet) : Value :=
  .object [("contracts", .object (s.contracts.entries.map fun (name, k) => (name, k.toValue))),
    ("enumerations", .ofList Enumeration.toValue s.enumerations)]

end Blueprint
