import Blueprint.NameTable

/-!
# Files

What a run meets of the files around it. A path may be absolute, or go up and down through
directories and over links, and whether anything can be read or written at its end is up to the
system. None of this is decided here: a system says for each path to which file it leads, or why to
none. Different paths may lead to one file. A file keeps what has been written into it, so devices
and pipes are none.
-/
namespace Blueprint.Command

/-- Why a file cannot be read or written. -/
inductive FileFault where
  | missing
  | isDirectory
  | notDirectory
  | notText
  | other (reason : String)
  deriving DecidableEq, Repr

def FileFault.message : FileFault → String
  | missing => "No such file or directory (os error 2)"
  | isDirectory => "Is a directory (os error 21)"
  | notDirectory => "Not a directory (os error 20)"
  | notText => "stream did not contain valid UTF-8"
  | other reason => reason

structure FileSystem where
  /-- What the files hold, each under a name that is its own, whatever paths lead to it. -/
  files : NameTable ByteArray
  /-- The file that is read at a path, be it there or not, or why none can be. -/
  source : String → Except FileFault String
  /-- The file that is written at a path, be it there or not, or why none can be. -/
  target : String → Except FileFault String
  /-- A path at which one can read and write leads to one file. -/
  target_eq_source : ∀ path name name',
    source path = .ok name → target path = .ok name' → name' = name

namespace FileSystem

variable (d : FileSystem)

/-- The text in the file at a path. -/
def read (path : String) : Except FileFault String := do
  let name ← d.source path
  match d.files.get? name with
  | none => .error .missing
  | some bytes =>
    match String.fromUTF8? bytes with
    | none => .error .notText
    | some text => .ok text

/-- The system in which a file holds a text and nothing else. -/
def holding (name text : String) : FileSystem :=
  { d with files := d.files.insert name text.toUTF8 }

/-- The system in which the file at a path has been written anew. -/
def write (path text : String) : Except FileFault FileSystem := do
  let name ← d.target path
  return d.holding name text

end FileSystem

end Blueprint.Command
