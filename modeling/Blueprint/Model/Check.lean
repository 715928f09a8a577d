import Blueprint.Model.Defect
import Blueprint.Sequence
import Blueprint.Text.Lowercase

/-!
# Checking models

The rules that a model has to keep by itself, before anything is derived from it: names are
distinct in their scopes, types and generalizations mean something that is declared, multiplicities
can be met, and generalization has no cycle. `Model.defect?` names the first rule that is broken,
in the order of the declarations. Only cycles are searched for in an order of their own, which is
not known.
-/
namespace Blueprint

/-- The table of a class. Names that differ only in case share a table. -/
def tableName (className : String) : String := Text.lowercase className

/-- An order in which to try classes. None is left out and none is tried twice; for the rest the
order may be any, and another one whenever classes are tried. -/
structure StartOrder where
  arrange : List String → List String
  perm : ∀ names, (arrange names).Perm names

/-- The order in which the classes are given. -/
def StartOrder.declared : StartOrder := ⟨id, fun _ => .refl _⟩

/-- The general of each class that has one, in the order of first declaration. -/
abbrev Parents := List (String × String)

namespace Parents

/-- How a walk from a class to its general, and on to that one's general, may go. -/
inductive Walk where
  /-- It reaches a class without a general. -/
  | ends
  /-- It comes to a class a second time. -/
  | returnsTo (name : String)
  /-- It has taken all the steps allowed. -/
  | unfinished
  deriving DecidableEq, Repr

def walk (parents : Parents) : Nat → List String → String → Walk
  | 0, _, _ => .unfinished
  | steps + 1, visited, current =>
    match parents.lookup current with
    | none => .ends
    | some general =>
      if visited.contains current then .returnsTo current
      else walk parents steps (current :: visited) general

/-- A walk that visits no class twice takes at most as many steps as there are classes with a
general, and one more step shows which way it goes. -/
def walkFrom (parents : Parents) (start : String) : Walk :=
  parents.walk (parents.length + 1) [] start

/-- The class to which the first of the walks returns that is caught in a cycle. -/
def cycle? (parents : Parents) (starts : List String) : Option String :=
  starts.findSome? fun start =>
    match parents.walkFrom start with
    | .returnsTo name => some name
    | _ => none

end Parents

/-- A declared multiplicity that no number of instances could meet, or that admits none at all. -/
def Property.multiplicityDefect? (owner : String) (p : Property) : Option Defect :=
  match p.multiplicity with
  | some m => if m.isValid then none else some (.invalidMultiplicity owner p.name m)
  | none => none

namespace Model

variable (m : Model)

def typeNameDefect? : Option Defect :=
  (firstRepeat (m.classes.map (·.name) ++ m.enumerations.map (·.name))).map .duplicateType

def tableNameDefect? : Option Defect :=
  (firstClash [] (m.classes.map fun c => (tableName c.name, c.name))).map
    fun (table, first, second) => .duplicateTable table first second

/-- What is wrong with an attribute, given those declared before it. -/
def attributeDefect? (c : ClassDecl) (prior : List Property) (p : Property) : Option Defect :=
  if prior.any (·.name == p.name) then some (.duplicateAttribute c.name p.name)
  else
    match p.type with
    | none => some (.untypedProperty c.name p.name)
    | some (.ofClass name) =>
      if m.declaresClass name then p.multiplicityDefect? c.name
      else some (.unknownClass (c.name ++ "." ++ p.name) name)
    | some (.ofEnumeration name) =>
      if m.declaresEnumeration name then p.multiplicityDefect? c.name
      else some (.unknownEnumeration (c.name ++ "." ++ p.name) name)
    | some (.primitive _) => p.multiplicityDefect? c.name

def classDefect? (c : ClassDecl) : Option Defect :=
  (withPrior [] c.attributes).findSome? fun (prior, p) => m.attributeDefect? c prior p

def endDefect? (a : Association) (p : Property) : Option Defect :=
  match p.type with
  | none => some (.untypedProperty a.name p.name)
  | some (.ofClass name) =>
    if !m.declaresClass name then some (.unknownClass (a.name ++ "." ++ p.name) name)
    else if p.multiplicity.isNone then some (.missingMultiplicity a.name p.name)
    else p.multiplicityDefect? a.name
  | some _ => some (.endNotClass a.name p.name)

/-- What is wrong with an association, given those declared before it. The ends of one that is not
binary are never looked at, since it is left out. -/
def associationDefect? (prior : List Association) (a : Association) : Option Defect :=
  if prior.any (·.name == a.name) then some (.duplicateAssociation a.name)
  else if a.isBinary then a.ends.findSome? (m.endDefect? a)
  else none

/-- Adds the generalizations one by one to the generals known so far. -/
def addParents (parents : Parents) : List Generalization → Except Defect Parents
  | [] => .ok parents
  | g :: gs =>
    if !m.declaresClass g.general then .error (.unknownClass g.specific g.general)
    else if !m.declaresClass g.specific then .error (.unknownClass g.general g.specific)
    else
      match parents.lookup g.specific with
      | none => addParents (parents ++ [(g.specific, g.general)]) gs
      | some general =>
        if general = g.general then addParents parents gs
        else .error (.multipleGenerals g.specific general g.general)

/-- What is wrong with the generalizations. The order in which the classes with a general are tried
decides which class of a cycle is named. -/
def generalizationDefect? (order : StartOrder := .declared) : Option Defect :=
  match m.addParents [] m.generalizations with
  | .error defect => some defect
  | .ok parents =>
    (parents.cycle? (order.arrange (parents.map (·.1)))).map .generalizationCycle

/-- The first defect of the model by itself. -/
def defect? (order : StartOrder := .declared) : Option Defect :=
  m.typeNameDefect?
    |>.or m.tableNameDefect?
    |>.or (m.classes.findSome? m.classDefect?)
    |>.or (m.enumerations.findSome? fun e =>
      (firstRepeat e.literals).map (.duplicateLiteral e.name))
    |>.or ((withPrior [] m.associations).findSome? fun (prior, a) => m.associationDefect? prior a)
    |>.or (m.generalizationDefect? order)

end Model

end Blueprint
