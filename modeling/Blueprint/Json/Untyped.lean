import Blueprint.Json.Reader

/-!
# Values of any kind

A value may have to be kept before it is known what it should be. It is then read as it stands and
interpreted later.
-/
namespace Blueprint.Json

open Reader

inductive Untyped where
  | null
  | bool (b : Bool)
  | number (n : Number)
  | string (s : String)
  | list (items : List Untyped)
  | map (members : List (String × Untyped))

def Untyped.found : Untyped → Found
  | null => .null
  | bool b => .bool b
  | number n => n.found
  | string s => .string s
  | list _ => .sequence
  | map _ => .map

/-- The members of an object, behind its brace. -/
def members {α : Type} (value : Reader α) : Nat → Bool → Reader (List (String × α))
  | 0, _ => fail .endInObject
  | turns + 1, first => do
    match ← anotherName first with
    | none => pure []
    | some name =>
      colon
      let v ← value
      let ms ← members value turns false
      pure ((name, v) :: ms)

/-- A value of any kind, whose containers may be nested `levels` deep. -/
def untyped : Nat → Reader Untyped
  | 0 => container fun _ => fail .tooDeep
  | levels + 1 => container fun isList =>
    if isList then do
      advance
      let xs ← items (untyped levels) (← turns) true
      closeList
      pure (.list xs)
    else do
      advance
      let ms ← members (untyped levels) (← turns) true
      closeObject
      pure (.map ms)
where
  /-- Reads a single value itself and leaves lists and maps to `nested`. -/
  container (nested : Bool → Reader Untyped) : Reader Untyped := do
    match ← look with
    | none => fail .endInValue
    | some 'n' => word ['n', 'u', 'l', 'l']; pure .null
    | some 't' => word ['t', 'r', 'u', 'e']; pure (.bool true)
    | some 'f' => word ['f', 'a', 'l', 's', 'e']; pure (.bool false)
    | some '-' => advance; return .number (← number false)
    | some '"' => return .string (← quotedString)
    | some '[' => nested true
    | some '{' => nested false
    | some c => if isDigit c then return .number (← number true) else fail .expectedValue

/-- The text of a string value. -/
def Untyped.toText : Untyped → Except Fault String
  | .string s => .ok s
  | v => .error (.wrongType v.found "a string")

/-! ## Names from a closed list -/

/-- Looks a name up among those allowed. -/
def pick {α : Type} (choices : List (String × α)) (name : String) : Except Fault α :=
  match choices.lookup name with
  | some a => .ok a
  | none => .error (.unknownVariant name (choices.map (·.1)))

/-- One of the allowed names, as a string. -/
def nameOneOf {α : Type} (choices : List (String × α)) : Reader α := do
  match ← look with
  | none => fail .endInValue
  | some '"' => ofExcept (pick choices (← quotedString))
  | some _ => wrongType "variant identifier"

/-- One of the allowed names, as a string or as the only name of an object whose value is null. -/
def choice {α : Type} (choices : List (String × α)) (levels : Nat) : Reader α := do
  match ← look with
  | none => fail .endInValue
  | some '"' => nameOneOf choices
  | some '{' =>
    descend (fun _ => do
      advance
      match ← anotherName true with
      | none => fail .expectedValue
      | some name =>
        let a ← ofExcept (pick choices name)
        colon
        unit
        match ← look with
        | none => fail .endInObject
        | some '}' => advance; pure a
        | some _ => fail .expectedValue) levels
  | some _ => fail .expectedValue

/-- The same from a value that was kept; here an empty object counts as null. -/
def Untyped.toChoice {α : Type} (choices : List (String × α)) : Untyped → Except Fault α
  | .string s => pick choices s
  | .map [(name, v)] =>
    match pick choices name, v with
    | .error fault, _ => .error fault
    | .ok a, .null => .ok a
    | .ok a, .map [] => .ok a
    | .ok _, v => .error (.wrongType v.found "unit")
  | .map _ => .error (.wrongValue .map "map with a single key")
  | v => .error (.wrongType v.found "string or map")

end Blueprint.Json
