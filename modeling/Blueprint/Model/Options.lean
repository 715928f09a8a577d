import Blueprint.Json.Record
import Blueprint.Json.Value

/-!
# Compile options
-/
namespace Blueprint

open Json

structure Options where
  /-- Fields for many-to-many relationships may carry whole new rows as well as ids. -/
  nestedCreations : Bool := false
  deriving DecidableEq, Repr

namespace Options

def toValue (o : Options) : Value := .object [("nested_creations", .bool o.nestedCreations)]

structure Draft where
  nestedCreations : Option Bool := none

/-- Options that are not known are refused, since a misspelt one would be ignored. -/
def record : Record Draft Options where
  title := "CompileConfig"
  slots := [
    ⟨"nested_creations", (·.nestedCreations.isSome),
      fun _ d => do return { d with nestedCreations := some (← boolean) }, true⟩]
  blank := {}
  finish d := .ok ⟨d.nestedCreations.getD false⟩
  closed := true

/-- Reads the text of an options file. -/
def ofJson (text : String) : Except Fault Options := parse (record.read maxLevels) text

end Options

end Blueprint
