import Blueprint.Report.Summary

/-!
# Command-line arguments

A model file, and options that may come in any order:

| option                        | value                                              |
|-------------------------------|----------------------------------------------------|
| `-c`, `--config`              | a file of options                                  |
| `--nested-creations`          | true or false behind `=`, or true if left out      |
| `--format`                    | table or json, table if the option is left out     |
| `-o`, `--output`              | a file for the result                              |

An option may be given once. A value that is the next argument is taken when that argument is
reached, but it is judged only when something else has to be decided, or at the end. So an option
that nobody knows is reported even if the value before it is wrong.
-/
namespace Blueprint.Command

open Report (Format)

structure Arguments where
  model : String
  config : Option String
  /-- What the command line says about nested creations, if anything. -/
  nestedCreations : Option Bool
  format : Format
  output : Option String
  deriving DecidableEq, Repr

/-- Why there is nothing to run. -/
inductive Refusal where
  | unknownArgument
  | invalidValue
  | tooManyValues
  | argumentConflict
  | missingRequiredArgument
  | helpWanted
  | versionWanted
  deriving DecidableEq, Repr

/-- Asking for help or for the version is no mistake. -/
def Refusal.exitCode : Refusal → Nat
  | helpWanted | versionWanted => 0
  | _ => 2

/-- What takes a value. -/
inductive Slot where
  | model
  | config
  | nestedCreations
  | format
  | output
  deriving DecidableEq, Repr

/-- The arguments read so far. -/
structure Progress where
  model : Option String := none
  config : Option String := none
  nestedCreations : Option Bool := none
  format : Option Format := none
  output : Option String := none
  /-- A slot that has been named and the value found for it, not judged yet. -/
  pending : Option (Slot × Option String) := none
  /-- The next argument may be the value of an option. -/
  awaiting : Bool := false
  /-- The model has been seen, judged or not. -/
  modelSeen : Bool := false

namespace Progress

def path (value : String) : Except Refusal String :=
  if value.isEmpty then .error .invalidValue else .ok value

def truth (value : String) : Except Refusal Bool :=
  if value = "true" then .ok true
  else if value = "false" then .ok false
  else .error .invalidValue

def formatNamed (value : String) : Except Refusal Format :=
  if value = Format.table.name then .ok .table
  else if value = Format.json.name then .ok .json
  else .error .invalidValue

/-- A slot takes its value once. -/
def once {α : Type} (taken : Option α) (value : Except Refusal α) : Except Refusal (Option α) :=
  match taken with
  | some _ => .error .argumentConflict
  | none => value.map some

/-- Judges a value and stores it. Only nested creations may do without. -/
def store (p : Progress) (slot : Slot) (value : Option String) : Except Refusal Progress :=
  match slot, value with
  | .nestedCreations, value => do
    return { p with nestedCreations := ← once p.nestedCreations (truth (value.getD "true")) }
  | _, none => .error .invalidValue
  | .model, some value => do return { p with model := ← once p.model (path value) }
  | .config, some value => do return { p with config := ← once p.config (path value) }
  | .format, some value => do return { p with format := ← once p.format (formatNamed value) }
  | .output, some value => do return { p with output := ← once p.output (path value) }

/-- Settles what is pending. -/
def settle (p : Progress) : Except Refusal Progress :=
  match p.pending with
  | none => .ok { p with awaiting := false }
  | some (slot, value) => { p with pending := none, awaiting := false }.store slot value

/-- Names an option, with its value if that was attached to it. -/
def option (p : Progress) (slot : Slot) (attached : Option String) : Except Refusal Progress := do
  let p ← p.settle
  match slot, attached with
  | .nestedCreations, attached => p.store .nestedCreations attached
  | slot, some value => p.store slot (some value)
  | slot, none => return { p with pending := some (slot, none), awaiting := true }

/-- Answers a wish, unless something is wrong with what came before. -/
def wish (p : Progress) (refusal : Refusal) : Except Refusal Progress := do
  let _ ← p.settle
  .error refusal

/-- An argument behind two dashes. -/
def long (p : Progress) (name : String) (attached : Option String) : Except Refusal Progress :=
  match name, attached with
  | "config", attached => p.option .config attached
  | "nested-creations", attached => p.option .nestedCreations attached
  | "format", attached => p.option .format attached
  | "output", attached => p.option .output attached
  | "help", none => p.wish .helpWanted
  | "version", none => p.wish .versionWanted
  | "help", some _ => .error .tooManyValues
  | "version", some _ => .error .tooManyValues
  | _, _ => .error .unknownArgument

/-- What follows the letter of an option is its value, with or without an equals sign. -/
def attachedValue : List Char → Option String
  | [] => none
  | '=' :: value => some (String.ofList value)
  | value => some (String.ofList value)

/-- An argument behind one dash. The first letter decides about all of it. -/
def short (p : Progress) (letter : Char) (rest : List Char) : Except Refusal Progress :=
  match letter with
  | 'c' => p.option .config (attachedValue rest)
  | 'o' => p.option .output (attachedValue rest)
  | 'h' => p.wish .helpWanted
  | 'V' => p.wish .versionWanted
  | _ => .error .unknownArgument

/-- An argument that is no option: the model, which comes once. -/
def positional (p : Progress) (value : String) : Except Refusal Progress :=
  if p.modelSeen then .error .unknownArgument
  else do
    let p ← p.settle
    return { p with pending := some (.model, some value), modelSeen := true }

/-- An argument that is no option by its form: the value that an option awaits, or the model. -/
def plain (p : Progress) (value : String) : Except Refusal Progress :=
  match p.awaiting, p.pending with
  | true, some (slot, _) =>
    .ok { p with pending := some (slot, some value), awaiting := false }
  | _, _ => p.positional value

/-- One argument before any lone `--`. -/
def step (p : Progress) (arg : String) : Except Refusal Progress :=
  match arg.toList with
  | '-' :: '-' :: text =>
    let name := text.takeWhile (· != '=')
    p.long (String.ofList name)
      (match text.drop name.length with
        | [] => none
        | _ :: value => some (String.ofList value))
  | '-' :: letter :: rest => p.short letter rest
  | _ => p.plain arg

/-- All arguments in order. Behind a lone `--` none is an option. -/
def run (p : Progress) : List String → Except Refusal Progress
  | [] => p.settle
  | arg :: args =>
    if arg = "--" then do
      let p ← args.foldlM positional p
      p.settle
    else
      match p.step arg with
      | .ok p => p.run args
      | .error refusal => .error refusal

end Progress

/-- Reads the arguments of a call. -/
def Arguments.ofList (args : List String) : Except Refusal Arguments := do
  let p ← ({} : Progress).run args
  match p.model with
  | none => .error .missingRequiredArgument
  | some model =>
    return ⟨model, p.config, p.nestedCreations, p.format.getD .table, p.output⟩

end Blueprint.Command
