import Blueprint.Catalog.Assembly
import Blueprint.Contract.OfCatalog
import Blueprint.Plan
import Blueprint.Storage.Tables

/-!
# Compiled models

Everything that is derived from one model: where its references are stored, its tables, its
creation contracts and its construction plans.
-/
namespace Blueprint

open Json (Value)

structure Compiled where
  name : String
  placements : Placements
  storage : Layout
  contracts : ContractSet
  plans : List Plan
  /-- The associations that are left out because they do not have two ends. -/
  skipped : List String

namespace Compiled

/-- The plan of a class. -/
def plan? (k : Compiled) (className : String) : Option Plan :=
  k.plans.find? (·.ofClass == className)

def toValue (k : Compiled) : Value :=
  .object [("name", .string k.name), ("decisions", k.placements.toValue),
    ("storage", k.storage.toValue), ("contracts", k.contracts.toValue),
    ("construction", .ofList Plan.toValue k.plans),
    ("unsupported_associations", .ofList .string k.skipped)]

def toJson (k : Compiled) : String := k.toValue.pretty

end Compiled

/-- Everything that follows from a catalog. -/
def Catalog.compiled (c : Catalog) (o : Options) : Compiled :=
  let placements := c.placements
  let contracts := c.contracts placements o
  { name := c.name
    placements
    storage := c.layout placements
    contracts
    plans := c.plans contracts
    skipped := c.skipped }

/-- Compiles a model, or names its first defect. -/
def Model.compile (o : Options) (m : Model) (order : StartOrder := .declared) :
    Except Defect Compiled :=
  match Catalog.ofModel m order with
  | .error defect => .error defect
  | .ok c =>
    match c.columnDefect? c.placements with
    | some defect => .error defect
    | none => .ok (c.compiled o)

/-! ## From texts -/

/-- Why nothing is compiled from the text of a model and that of its options. -/
inductive Rejection where
  | options (fault : Json.Fault)
  | model (fault : Json.Fault)
  | invalid (defect : Defect)

def Rejection.message : Rejection → String
  | options fault => "invalid configuration: " ++ fault.message
  | model fault => "deserialization error: " ++ fault.message
  | invalid defect => "invalid model: " ++ defect.message

/-- The options in a text, or the usual ones if there is no text. What is said apart from the text
about nested creations counts for more than the text. -/
def Options.ofText (text : Option String) (nestedCreations : Option Bool) :
    Except Rejection Options := do
  let o ←
    match text with
    | none => .ok {}
    | some text => (Options.ofJson text).mapError .options
  return { o with nestedCreations := nestedCreations.getD o.nestedCreations }

def Model.ofText (text : String) : Except Rejection Model := (Model.ofJson text).mapError .model

/-- Compiles the model in a text. -/
def compileText (o : Options) (text : String) (order : StartOrder := .declared) :
    Except Rejection Compiled := do
  let m ← Model.ofText text
  (m.compile o order).mapError .invalid

end Blueprint
