import Blueprint.Json.Record
import Blueprint.Json.Untyped
import Blueprint.Json.Value
import Blueprint.Model.Basic

/-!
# The JSON form of models

Each declaration is an object with its fields in a fixed order; a property leaves out the type and
the multiplicity that it does not have. The readers take objects in any order of their fields, and
lists of the fields in order.
-/
namespace Blueprint

open Json

/-! ## Writing -/

def Bound.toValue : Bound → Value
  | bounded n => .number n.toNat
  | unbounded => .string "*"

def Multiplicity.toValue (m : Multiplicity) : Value :=
  .object [("min", .number m.min.toNat), ("max", m.max.toValue)]

/-- The name that stands in a model. -/
def Primitive.key : Primitive → String
  | string => "string"
  | integer => "integer"
  | float => "float"
  | boolean => "boolean"
  | time => "time"
  | date => "date"
  | dateTime => "date_time"
  | timeDelta => "time_delta"
  | any => "any"

def Primitive.toValue (p : Primitive) : Value := .string p.key

def TypeRef.toValue : TypeRef → Value
  | primitive p => .object [("kind", .string "primitive"), ("name", p.toValue)]
  | ofClass name => .object [("kind", .string "class"), ("name", .string name)]
  | ofEnumeration name => .object [("kind", .string "enumeration"), ("name", .string name)]

def Property.toValue (p : Property) : Value :=
  .object ([("name", .string p.name)] ++
    (p.type.map fun t => ("type", t.toValue)).toList ++
    (p.multiplicity.map fun m => ("multiplicity", m.toValue)).toList)

def ClassDecl.toValue (c : ClassDecl) : Value :=
  .object [("name", .string c.name), ("attributes", .ofList Property.toValue c.attributes),
    ("is_abstract", .bool c.isAbstract)]

def EnumDecl.toValue (e : EnumDecl) : Value :=
  .object [("name", .string e.name), ("literals", .ofList .string e.literals)]

def Association.toValue (a : Association) : Value :=
  .object [("name", .string a.name), ("ends", .ofList Property.toValue a.ends)]

def Generalization.toValue (g : Generalization) : Value :=
  .object [("general", .string g.general), ("specific", .string g.specific)]

def Model.toValue (m : Model) : Value :=
  .object [("name", .string m.name), ("classes", .ofList ClassDecl.toValue m.classes),
    ("enumerations", .ofList EnumDecl.toValue m.enumerations),
    ("associations", .ofList Association.toValue m.associations),
    ("generalizations", .ofList Generalization.toValue m.generalizations)]

/-- The text of a model file. -/
def Model.toJson (m : Model) : String := m.toValue.pretty

/-! ## Reading -/

/-- Any natural number of thirty-two bits, or the star. -/
def Bound.ofUntyped : Untyped → Except Fault Bound
  | .number (.natural n) =>
    if n < UInt32.size then .ok (.bounded (UInt32.ofNat n)) else .error noBound
  | .string s =>
    if s = "*" then .ok .unbounded
    else .error (.refused ("invalid upper bound '" ++ s ++ "', expected a number or '*'"))
  | _ => .error noBound
where
  /-- The value is neither a number of that size nor a string. -/
  noBound : Fault := .refused "data did not match any variant of untagged enum Raw"

def Bound.read (levels : Nat) : Reader Bound := do
  Reader.ofExcept (Bound.ofUntyped (← untyped levels))

structure Multiplicity.Draft where
  min : Option UInt32 := none
  max : Option Bound := none

def Multiplicity.record : Record Multiplicity.Draft Multiplicity where
  title := "Multiplicity"
  slots := [
    ⟨"min", (·.min.isSome), fun _ d => do return { d with min := some (← word32) }, false⟩,
    ⟨"max", (·.max.isSome), fun l d => do return { d with max := some (← Bound.read l) }, false⟩]
  blank := {}
  finish d := do return ⟨← needed "min" d.min, ← needed "max" d.max⟩
  closed := false

def Multiplicity.read : Nat → Reader Multiplicity := Multiplicity.record.read

def Primitive.choices : List (String × Primitive) :=
  [string, integer, float, boolean, time, date, dateTime, timeDelta, any].map fun p => (p.key, p)

def Primitive.read : Nat → Reader Primitive := choice Primitive.choices

/-- The kinds of type. -/
inductive TypeKind where
  | primitive
  | ofClass
  | ofEnumeration
  deriving DecidableEq, Repr

namespace TypeKind

def choices : List (String × TypeKind) :=
  [("primitive", primitive), ("class", ofClass), ("enumeration", ofEnumeration)]

/-- The name of a type whose kind is known. -/
def readName (kind : TypeKind) (levels : Nat) : Reader TypeRef :=
  match kind with
  | primitive => .primitive <$> Primitive.read levels
  | ofClass => .ofClass <$> Json.string
  | ofEnumeration => .ofEnumeration <$> Json.string

/-- The same from a value that stood before the kind. -/
def nameOf (kind : TypeKind) (v : Untyped) : Except Fault TypeRef :=
  match kind with
  | primitive => .primitive <$> v.toChoice Primitive.choices
  | ofClass => .ofClass <$> v.toText
  | ofEnumeration => .ofEnumeration <$> v.toText

end TypeKind

namespace TypeRef

inductive Key where
  | kind
  | name
  deriving DecidableEq

/-- The next of the two names that matter, all others being passed over. -/
def nextKey : Nat → Bool → Reader (Option Key)
  | 0, _ => Reader.fail .endInObject
  | turns + 1, first => do
    match ← anotherName first with
    | none => pure none
    | some key =>
      if key = "kind" then pure (some .kind)
      else if key = "name" then pure (some .name)
      else
        colon
        skipped
        nextKey turns false

/-- Neither name may come again. -/
def noMoreKeys : Reader Unit := do
  match ← nextKey (← turns) false with
  | none => pure ()
  | some .kind => Reader.fail (.duplicateField "kind")
  | some .name => Reader.fail (.duplicateField "name")

/-- A type from an object, behind its brace. A name that comes before its kind is kept until the
kind is known. -/
def readMembers (levels : Nat) : Reader TypeRef := do
  match ← nextKey (← turns) true with
  | none => Reader.fail (.missingField "kind")
  | some .kind =>
    colon
    let kind ← choice TypeKind.choices levels
    match ← nextKey (← turns) false with
    | none => Reader.fail (.missingField "name")
    | some .kind => Reader.fail (.duplicateField "kind")
    | some .name =>
      colon
      let type ← kind.readName levels
      noMoreKeys
      pure type
  | some .name =>
    colon
    let kept ← untyped levels
    match ← nextKey (← turns) false with
    | none => Reader.fail (.missingField "kind")
    | some .name => Reader.fail (.duplicateField "name")
    | some .kind =>
      colon
      let kind ← choice TypeKind.choices levels
      let type ← Reader.ofExcept (kind.nameOf kept)
      noMoreKeys
      pure type

/-- What a type is called in messages. -/
def title : String := "adjacently tagged enum TypeRef"

/-- A type from a list of its kind and its name, behind the bracket. Here the kind is a string in
any case. -/
def readItems (levels : Nat) : Reader TypeRef := do
  if ← anotherItem true then
    let kind ← nameOneOf TypeKind.choices
    if ← anotherItem false then kind.readName levels
    else Reader.fail (.wrongLength 1 title)
  else Reader.fail (.wrongLength 0 title)

def read (levels : Nat) : Reader TypeRef := do
  match ← look with
  | none => Reader.fail .endInValue
  | some '[' =>
    descend (fun inner => do
      advance
      let type ← readItems inner
      closeList
      pure type) levels
  | some '{' =>
    descend (fun inner => do
      advance
      let type ← readMembers inner
      closeObject
      pure type) levels
  | some _ => wrongType title

end TypeRef

structure Property.Draft where
  name : Option String := none
  type : Option (Option TypeRef) := none
  multiplicity : Option (Option Multiplicity) := none

def Property.record : Record Property.Draft Property where
  title := "Property"
  slots := [
    ⟨"name", (·.name.isSome), fun _ d => do return { d with name := some (← string) }, false⟩,
    ⟨"type", (·.type.isSome),
      fun l d => do return { d with type := some (← optional (TypeRef.read l)) }, true⟩,
    ⟨"multiplicity", (·.multiplicity.isSome),
      fun l d => do return { d with multiplicity := some (← optional (Multiplicity.read l)) }, true⟩]
  blank := {}
  finish d := do return ⟨← needed "name" d.name, d.type.join, d.multiplicity.join⟩
  closed := false

def Property.read : Nat → Reader Property := Property.record.read

structure ClassDecl.Draft where
  name : Option String := none
  attributes : Option (List Property) := none
  isAbstract : Option Bool := none

def ClassDecl.record : Record ClassDecl.Draft ClassDecl where
  title := "Class"
  slots := [
    ⟨"name", (·.name.isSome), fun _ d => do return { d with name := some (← string) }, false⟩,
    ⟨"attributes", (·.attributes.isSome),
      fun l d => do return { d with attributes := some (← listOf Property.read l) }, true⟩,
    ⟨"is_abstract", (·.isAbstract.isSome),
      fun _ d => do return { d with isAbstract := some (← boolean) }, true⟩]
  blank := {}
  finish d := do return ⟨← needed "name" d.name, d.attributes.getD [], d.isAbstract.getD false⟩
  closed := false

def ClassDecl.read : Nat → Reader ClassDecl := ClassDecl.record.read

structure EnumDecl.Draft where
  name : Option String := none
  literals : Option (List String) := none

def EnumDecl.record : Record EnumDecl.Draft EnumDecl where
  title := "Enumeration"
  slots := [
    ⟨"name", (·.name.isSome), fun _ d => do return { d with name := some (← string) }, false⟩,
    ⟨"literals", (·.literals.isSome),
      fun l d => do return { d with literals := some (← listOf (fun _ => string) l) }, true⟩]
  blank := {}
  finish d := do return ⟨← needed "name" d.name, d.literals.getD []⟩
  closed := false

def EnumDecl.read : Nat → Reader EnumDecl := EnumDecl.record.read

structure Association.Draft where
  name : Option String := none
  ends : Option (List Property) := none

def Association.record : Record Association.Draft Association where
  title := "Association"
  slots := [
    ⟨"name", (·.name.isSome), fun _ d => do return { d with name := some (← string) }, false⟩,
    ⟨"ends", (·.ends.isSome),
      fun l d => do return { d with ends := some (← listOf Property.read l) }, false⟩]
  blank := {}
  finish d := do return ⟨← needed "name" d.name, ← needed "ends" d.ends⟩
  closed := false

def Association.read : Nat → Reader Association := Association.record.read

structure Generalization.Draft where
  general : Option String := none
  specific : Option String := none

def Generalization.record : Record Generalization.Draft Generalization where
  title := "Generalization"
  slots := [
    ⟨"general", (·.general.isSome),
      fun _ d => do return { d with general := some (← string) }, false⟩,
    ⟨"specific", (·.specific.isSome),
      fun _ d => do return { d with specific := some (← string) }, false⟩]
  blank := {}
  finish d := do return ⟨← needed "general" d.general, ← needed "specific" d.specific⟩
  closed := false

def Generalization.read : Nat → Reader Generalization := Generalization.record.read

structure Model.Draft where
  name : Option String := none
  classes : Option (List ClassDecl) := none
  enumerations : Option (List EnumDecl) := none
  associations : Option (List Association) := none
  generalizations : Option (List Generalization) := none

def Model.record : Record Model.Draft Model where
  title := "DomainModel"
  slots := [
    ⟨"name", (·.name.isSome), fun _ d => do return { d with name := some (← string) }, false⟩,
    ⟨"classes", (·.classes.isSome),
      fun l d => do return { d with classes := some (← listOf ClassDecl.read l) }, true⟩,
    ⟨"enumerations", (·.enumerations.isSome),
      fun l d => do return { d with enumerations := some (← listOf EnumDecl.read l) }, true⟩,
    ⟨"associations", (·.associations.isSome),
      fun l d => do return { d with associations := some (← listOf Association.read l) }, true⟩,
    ⟨"generalizations", (·.generalizations.isSome),
      fun l d => do
        return { d with generalizations := some (← listOf Generalization.read l) }, true⟩]
  blank := {}
  finish d := do
    return ⟨← needed "name" d.name, d.classes.getD [], d.enumerations.getD [],
      d.associations.getD [], d.generalizations.getD []⟩
  closed := false

def Model.read : Nat → Reader Model := Model.record.read

/-- Reads the text of a model file. -/
def Model.ofJson (text : String) : Except Fault Model := parse (Model.read maxLevels) text

end Blueprint
