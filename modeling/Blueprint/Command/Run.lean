import Blueprint.Command.Arguments
import Blueprint.Command.Directory

/-!
# Running a command

A run reads the options and then the model, compiles, and only then writes. So a run that fails
leaves all files as they were and prints nothing. The steps are the same whatever effects they have:
`run` takes them over files that are given, and the command itself over those of the machine.
-/
namespace Blueprint.Command

inductive Failure where
  | unreadable (path : String) (fault : FileFault)
  | rejected (rejection : Rejection)
  | unwritable (fault : FileFault)

def Failure.message : Failure → String
  | unreadable path fault => "failed to read " ++ path ++ ": " ++ fault.message
  | rejected rejection => rejection.message
  | unwritable fault => fault.message

/-- What a run asks of its surroundings. -/
structure Surroundings (M : Type → Type) where
  read : String → M (Except FileFault String)
  write : String → String → M (Except FileFault Unit)
  print : String → M Unit

namespace Arguments

section Steps

variable {M : Type → Type} [Monad M] (a : Arguments)

/-- The text of an input file. -/
def input (read : String → M (Except FileFault String)) (path : String) :
    ExceptT Failure M String :=
  .mk do return (← read path).mapError (.unreadable path)

/-- The options in force: the command line counts for more than the file. -/
def loadOptions (read : String → M (Except FileFault String)) : ExceptT Failure M Options := do
  let text ← a.config.mapM (input read)
  .mk (pure ((Options.ofText text a.nestedCreations).mapError .rejected))

/-- The text that the run is to write. The options are read before the model. -/
def load (read : String → M (Except FileFault String)) (order : StartOrder := .declared) :
    ExceptT Failure M String := do
  let o ← a.loadOptions read
  let text ← input read a.model
  let k ← ExceptT.mk (pure ((compileText o text order).mapError .rejected))
  return a.format.render k

/-- Puts the text where it belongs. -/
def deliver (s : Surroundings M) (text : String) : M (Option Failure) := do
  match a.output with
  | none =>
    s.print (text ++ "\n")
    return none
  | some path =>
    match ← s.write path text with
    | .error fault => return some (.unwritable fault)
    | .ok () => return none

/-- All that a run does, and why it fails if it does. -/
def perform (s : Surroundings M) (order : StartOrder := .declared) : M (Option Failure) := do
  match ← (a.load s.read order).run with
  | .error failure => return some failure
  | .ok text => a.deliver s text

end Steps

variable (a : Arguments) (read : String → Except FileFault String)

/-- The options in force, if this is what can be read. -/
def options : Except Failure Options := (a.loadOptions (M := Id) read).run

/-- The text that the run is to write, if this is what can be read. -/
def result (order : StartOrder := .declared) : Except Failure String :=
  (a.load (M := Id) read order).run

end Arguments

/-! ## Runs over given files -/

/-- What changes during a run. -/
structure World where
  system : FileSystem
  printed : String

namespace World

/-- Writes a file, or changes nothing. -/
def write (path text : String) (w : World) : Except FileFault Unit × World :=
  match w.system.write path text with
  | .error fault => (.error fault, w)
  | .ok written => (.ok (), { w with system := written })

def surroundings : Surroundings (StateM World) where
  read path := return (← get).system.read path
  write path text := modifyGet (write path text)
  print text := modify fun w => { w with printed := w.printed ++ text }

end World

/-- What a run leaves behind. -/
structure Outcome extends World where
  failure : Option Failure

def run (d : FileSystem) (a : Arguments) (order : StartOrder := .declared) : Outcome :=
  let left := (a.perform World.surroundings order).run ⟨d, ""⟩
  ⟨left.2, left.1⟩

end Blueprint.Command
