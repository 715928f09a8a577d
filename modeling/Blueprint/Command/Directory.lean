import Blueprint.Command.Files
import Blueprint.Text.Pieces

/-!
# A directory by itself

The least of file systems: one directory that holds files and no other directories, in which a run
takes place. There is no way out of it, so a path that goes on behind a directory above leads to no
file. It can be computed with; what holds of runs holds over every file system.
-/
namespace Blueprint.Command

/-- What a path leads to. -/
inductive Location where
  | directory
  /-- A name in the directory, whether or not a file has it. -/
  | entry (name : String)
  /-- A path that goes on behind a name in the directory. -/
  | beyond (name : String) (parts : List String)
  | outside
  deriving DecidableEq, Repr

namespace Location

/-- The part of a path stays where it is or goes up. -/
def staysAbove (part : String) : Bool := part = "" || part = "." || part = ".."

/-- Where the parts lead from a directory above. -/
def above (parts : List String) : Location :=
  if parts.all staysAbove then .directory else .outside

def ofParts : List String → Location
  | [] => .directory
  | part :: parts =>
    if part = "" ∨ part = "." then ofParts parts
    else if part = ".." then above parts
    else if parts.isEmpty then .entry part
    else .beyond part parts

def ofPath (path : String) : Location :=
  let parts := (Text.pieces '/' path.toList).map String.ofList
  if path.startsWith "/" then above parts else ofParts parts

end Location

structure Directory where
  files : NameTable ByteArray

namespace Directory

variable (d : Directory)

/-- The entry that is read at a path. -/
def source (path : String) : Except FileFault String :=
  match Location.ofPath path with
  | .directory => .error .isDirectory
  | .outside => .error .missing
  | .beyond name _ => .error (if (d.files.get? name).isSome then .notDirectory else .missing)
  | .entry name => .ok name

/-- The entry that is written at a path. A path that ends in a slash asks for a directory. -/
def target (path : String) : Except FileFault String :=
  match Location.ofPath path with
  | .beyond _ parts => if parts.all (· = "") then .error .isDirectory else d.source path
  | _ => d.source path

/-- What can be written at a path can be read there. -/
theorem source_of_target {path name : String} (h : d.target path = .ok name) :
    d.source path = .ok name := by
  unfold target at h
  split at h
  · split at h
    · simp at h
    · exact h
  · exact h

/-- The directory as all the files there are. -/
def system : FileSystem where
  files := d.files
  source := d.source
  target := d.target
  target_eq_source _ _ _ hname hname' :=
    Except.ok.inj ((d.source_of_target hname').symm.trans hname)

instance : Coe Directory FileSystem := ⟨system⟩

def read (path : String) : Except FileFault String := d.system.read path

end Directory

end Blueprint.Command
