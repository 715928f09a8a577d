import Blueprint.Json.Skip

/-!
# Records

A record is read from an object or from a list of its fields in their order. Its fields are
collected in a draft, from which the record is made when the object or the list is complete.
-/
namespace Blueprint.Json

open Reader

/-- One field of a record that is collected in a `Draft`. -/
structure Slot (Draft : Type) where
  name : String
  filled : Draft → Bool
  fill : Nat → Draft → Reader Draft
  /-- Whether a list may end before this field. -/
  mayLack : Bool

structure Record (Draft α : Type) where
  title : String
  slots : List (Slot Draft)
  blank : Draft
  finish : Draft → Except Fault α
  /-- Whether names other than those of the fields are refused. -/
  closed : Bool

namespace Record

variable {Draft α : Type} (r : Record Draft α)

/-- A count of fields, as it stands in a message. -/
def size : String :=
  let n := r.slots.length
  "struct " ++ r.title ++ " with " ++ Nat.repr n ++ (if n = 1 then " element" else " elements")

/-- The fields from an object, behind its brace. -/
def named (levels : Nat) : Nat → Bool → Draft → Reader Draft
  | 0, _, _ => fail .endInObject
  | turns + 1, first, draft => do
    match ← anotherName first with
    | none => pure draft
    | some name =>
      match r.slots.find? (·.name == name) with
      | some slot =>
        if slot.filled draft then fail (.duplicateField name)
        else
          colon
          let draft ← slot.fill levels draft
          named levels turns false draft
      | none =>
        if r.closed then fail (.unknownField name (r.slots.map (·.name)))
        else
          colon
          skipped
          named levels turns false draft

/-- The fields from a list, behind its bracket; `passed` fields have been read. -/
def listed (levels : Nat) : List (Slot Draft) → Nat → Draft → Reader Draft
  | [], _, draft => pure draft
  | slot :: slots, passed, draft => do
    if ← anotherItem (passed == 0) then
      let draft ← slot.fill levels draft
      listed levels slots (passed + 1) draft
    else if slot.mayLack then listed levels slots passed draft
    else fail (.wrongLength passed r.size)

/-- The record. -/
def read (levels : Nat) : Reader α := do
  match ← look with
  | none => fail .endInValue
  | some '[' =>
    descend (fun inner => do
      advance
      let a ← ofExcept (r.finish (← r.listed inner r.slots 0 r.blank))
      closeList
      pure a) levels
  | some '{' =>
    descend (fun inner => do
      advance
      let a ← ofExcept (r.finish (← r.named inner (← turns) true r.blank))
      closeObject
      pure a) levels
  | some _ => wrongType ("struct " ++ r.title)

end Record

/-- A field that must be there. -/
def needed {α : Type} (name : String) : Option α → Except Fault α
  | some a => .ok a
  | none => .error (.missingField name)

end Blueprint.Json
