import Blueprint.Model.Basic

/-!
# Defects of models

Why a model cannot be compiled. Each cause names the declarations at fault, and `Defect.message`
words it.
-/
namespace Blueprint

inductive Defect where
  | untypedProperty (owner property : String)
  | duplicateType (name : String)
  /-- Two classes need the same table. -/
  | duplicateTable (table first second : String)
  | duplicateAssociation (name : String)
  | duplicateAttribute (ofClass name : String)
  | duplicateLiteral (enumeration literal : String)
  | unknownClass (referencedBy name : String)
  | unknownEnumeration (referencedBy name : String)
  | endNotClass (association role : String)
  | missingMultiplicity (association role : String)
  | invalidMultiplicity (owner property : String) (multiplicity : Multiplicity)
  | multipleGenerals (specific first second : String)
  | generalizationCycle (through : String)
  /-- A class declares a field that it has already, from itself or from an ancestor. -/
  | duplicateField (ofClass field declaredBy : String)
  /-- Two fields of a class need the same column of its table. -/
  | duplicateColumn (table column first second : String)
  deriving DecidableEq, Repr

namespace Defect

/-- A name as it stands in a message. -/
def named (s : String) : String := "'" ++ s ++ "'"

def message : Defect → String
  | untypedProperty owner property =>
    "property " ++ named property ++ " of " ++ named owner ++ " has no type"
  | duplicateType name => "duplicate type name " ++ named name
  | duplicateTable table first second =>
    "classes " ++ named first ++ " and " ++ named second ++ " both map to table " ++ named table
  | duplicateAssociation name => "duplicate association name " ++ named name
  | duplicateAttribute ofClass name =>
    "duplicate attribute " ++ named name ++ " on class " ++ named ofClass
  | duplicateLiteral enumeration literal =>
    "duplicate literal " ++ named literal ++ " in enumeration " ++ named enumeration
  | unknownClass referencedBy name =>
    named referencedBy ++ " references unknown class " ++ named name
  | unknownEnumeration referencedBy name =>
    named referencedBy ++ " references unknown enumeration " ++ named name
  | endNotClass association role =>
    "end " ++ named role ++ " of association " ++ named association ++ " is not typed by a class"
  | missingMultiplicity association role =>
    "end " ++ named role ++ " of association " ++ named association ++ " has no multiplicity"
  | invalidMultiplicity owner property multiplicity =>
    "property " ++ named property ++ " of " ++ named owner ++ " has invalid multiplicity " ++
      multiplicity.text
  | multipleGenerals specific first second =>
    "class " ++ named specific ++ " has more than one general: " ++ named first ++ " and " ++
      named second
  | generalizationCycle through => "generalization cycle through class " ++ named through
  | duplicateField ofClass field declaredBy =>
    "field " ++ named field ++ " of class " ++ named ofClass ++ " is already declared by " ++
      named declaredBy
  | duplicateColumn table column first second =>
    "column " ++ named column ++ " of table " ++ named table ++ " is produced by both " ++
      named first ++ " and " ++ named second

end Defect

end Blueprint
