import Blueprint.Contract.Basic

/-!
# Construction plans

A plan lists the parameters with which an instance of a class is constructed, and the contract
field that feeds each. Ancestors come first, with their attributes and the references that they
hold; what else relates an ancestor to others stays with the ancestor.
-/
namespace Blueprint

open Json (Value)

/-- What becomes of an argument. -/
inductive Binding where
  | ofAttribute
  /-- It goes to a reference column of the class's own table. -/
  | foreignKey
  /-- It is applied when the instance exists. -/
  | link
  deriving DecidableEq, Repr

structure Argument where
  sourceField : String
  parameter : String
  declaredBy : String
  binding : Binding
  deriving DecidableEq, Repr

structure Plan where
  ofClass : String
  contract : String
  arguments : List Argument
  deriving DecidableEq, Repr

namespace Plan

def parameters (p : Plan) : List String := p.arguments.map (·.parameter)

def argument? (p : Plan) (parameter : String) : Option Argument :=
  p.arguments.find? (·.parameter == parameter)

def links (p : Plan) : List Argument := p.arguments.filter (·.binding == .link)

end Plan

/-- The argument that a field feeds. References go to the column named after them. -/
def Field.argument (declaredBy : String) (f : Field) : Argument :=
  match f.type, f.isAttribute with
  | .reference _, true => ⟨f.name, referenceColumn f.name, declaredBy, .foreignKey⟩
  | _, true => ⟨f.name, f.name, declaredBy, .ofAttribute⟩
  | _, false =>
    if f.ownsReference then ⟨f.name, referenceColumn f.name, declaredBy, .foreignKey⟩
    else ⟨f.name, f.name, declaredBy, .link⟩

/-- Keeps the first argument for each parameter. `bound` holds the parameters already bound. -/
def firstBindings (bound : List String) : List Argument → List Argument
  | [] => []
  | a :: rest =>
    if bound.contains a.parameter then firstBindings bound rest
    else a :: firstBindings (a.parameter :: bound) rest

namespace Catalog

variable (c : Catalog) (s : ContractSet)

/-- What an ancestor passes down. -/
def inheritedArguments (ancestor : ClassId) : List Argument :=
  match s.get? (c.className ancestor) with
  | none => []
  | some k => (k.fields.filter fun f => f.isAttribute || f.ownsReference).map
      (Field.argument (c.className ancestor))

/-- What the class itself contributes: attributes, then relationships. -/
def ownArguments (id : ClassId) : List Argument :=
  match s.get? (c.className id) with
  | none => []
  | some k => (k.attributeFields ++ k.relationshipFields).map (Field.argument (c.className id))

def plan (id : ClassId) : Plan where
  ofClass := c.className id
  contract := ((s.get? (c.className id)).map (·.name)).getD ""
  arguments := firstBindings []
    ((c.ancestors id).flatMap (c.inheritedArguments s) ++ c.ownArguments s id)

/-- The plans of all classes that can have instances of their own. -/
def plans : List Plan := (c.classes.filter (!·.isAbstract)).map fun entry => c.plan s entry.id

end Catalog

/-! ## JSON form -/

def Binding.toValue : Binding → Value
  | ofAttribute => .string "attribute"
  | foreignKey => .string "foreign_key"
  | link => .string "link"

def Argument.toValue (a : Argument) : Value :=
  .object [("source_field", .string a.sourceField), ("parameter", .string a.parameter),
    ("declared_by", .string a.declaredBy), ("binding", a.binding.toValue)]

def Plan.toValue (p : Plan) : Value :=
  .object [("class", .string p.ofClass), ("contract", .string p.contract),
    ("args", .ofList Argument.toValue p.arguments)]

end Blueprint
