import Blueprint.Command.Run

/-!
# The command

Takes the steps of `Arguments.perform` over the files of the machine. A failure goes to standard
error.
-/
namespace Blueprint.Command

def usage : String :=
  "Usage: blueprint [OPTIONS] <MODEL>\n\n" ++
  "  -c, --config <FILE>                a file of options\n" ++
  "      --nested-creations[=<BOOL>]    new rows inside payloads\n" ++
  "      --format <table|json>          the form of the result\n" ++
  "  -o, --output <FILE>                a file for the result"

/-- What to say when there is nothing to run. -/
def Refusal.message : Refusal → String
  | unknownArgument => "unexpected argument"
  | invalidValue => "invalid value"
  | tooManyValues => "unexpected value"
  | argumentConflict => "an option is given more than once"
  | missingRequiredArgument => "no model is given"
  | helpWanted => usage
  | versionWanted => "blueprint 0.1.0"

def FileFault.ofError (e : IO.Error) : FileFault :=
  match e with
  | .noFileOrDirectory .. => .missing
  | .inappropriateType _ 21 _ => .isDirectory
  | .inappropriateType _ _ "not a directory" => .notDirectory
  | e => .other (toString e)

/-- The text of a file, or why there is none. -/
def readFile (path : String) : IO (Except FileFault String) := do
  try
    let bytes ← IO.FS.readBinFile path
    return match String.fromUTF8? bytes with
      | some text => .ok text
      | none => .error .notText
  catch e => return .error (.ofError e)

def writeFile (path text : String) : IO (Except FileFault Unit) := do
  try
    IO.FS.writeFile path text
    return .ok ()
  catch e => return .error (.ofError e)

/-- The files of the machine, and standard output. -/
def Surroundings.machine : Surroundings IO := ⟨readFile, writeFile, IO.print⟩

end Blueprint.Command

open Blueprint.Command in
def main (args : List String) : IO UInt32 := do
  match Arguments.ofList args with
  | .error refusal =>
    if refusal.exitCode = 0 then IO.println refusal.message else IO.eprintln refusal.message
    return UInt32.ofNat refusal.exitCode
  | .ok a =>
    match ← a.perform .machine with
    | none => return 0
    | some failure =>
      IO.eprintln ("Error: " ++ failure.message)
      return 1
