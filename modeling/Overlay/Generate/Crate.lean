import Overlay.Files.Path
import Overlay.Generate.Failure
import Overlay.Json.Writer
import Overlay.Tree.Found

/-!
# Crates

What is known of a package without reading its sources: its name, where it is, the file its modules
start from, and what it depends on.
-/

namespace Overlay.Generate

open Files (Path)

/-- Defaults for a run that a manifest gives. -/
structure Settings where
  /-- Skipped arguments are a failure. -/
  strict : Bool
  deriving DecidableEq

namespace Settings

def default : Settings := ⟨false⟩

def wrongKind {α : Type} (t : Tree) (expected : String) : Except Failure α :=
  .error (.metadataJson
    ("invalid type: " ++ t.found "null" Json.doubleLayout ++ ", expected " ++ expected))

def readFlag : Tree → Except Failure Bool
  | .bool b => .ok b
  | t => wrongKind t "a boolean"

/-- Reads settings from a dictionary, in which all but one key is ignored, or from a list of at most
one element. -/
def ofTree : Tree → Except Failure Settings
  | .dict es =>
    match Tree.find? "strict" es with
    | some t => (readFlag t).map Settings.mk
    | none => .ok default
  | .list [] => .ok default
  | .list (t :: rest) => do
    let strict ← readFlag t
    if rest.isEmpty then return ⟨strict⟩
    throw (.metadataJson
      ("invalid length " ++ toString (rest.length + 1)
        ++ ", expected fewer elements in array"))
  | t => wrongKind t "struct LayercfgMetadata"

end Settings

/-- A dependency under the name that paths use. -/
structure Dependency where
  name : String
  /-- Its directory, if it is one of the same file system. -/
  path : Option Path
  deriving DecidableEq

structure Crate where
  /-- The name that paths use. -/
  ident : String
  /-- The directory of the manifest. -/
  root : Path
  /-- The file in which its modules start. -/
  rootFile : Option Path
  dependencies : List Dependency
  settings : Settings

namespace Crate

/-- Looks a dependency up by its name; the first one counts. -/
def dependency? (c : Crate) (name : String) : Option Dependency :=
  c.dependencies.find? fun d => d.name == name

end Crate

end Overlay.Generate
