import Overlay.Generate.Module
import Overlay.Generate.Script

/-!
# The local module

The files beside a build script make one module: the script first, the others in the order of their
names. The generated file is never read. If files cannot be parsed, all of them are reported.
-/

namespace Overlay.Generate

open Source (Diagnostic SourceFile)
open Files (FileSystem Path Place Entry)

namespace LocalModule

/-- Whether an entry is a source file beside the script. -/
def isSibling (name : String) : Entry → Bool
  | .file _ => Path.hasEnding ".rs" name && name != scriptName && name != outputName
  | _ => false

/-- The names of the source files of a directory, the script first. -/
def fileNames (children : List (String × Entry)) : List String :=
  scriptName ::
    (FileSystem.sortByName (children.filter fun (name, e) => isSibling name e)).map Prod.fst

/-- Reads the files of a directory: their units, and what is wrong with those that have none. -/
def readUnits (fs : FileSystem) (here : Place) (dir : Path) :
    List String → Except Failure (List SourceUnit × List Diagnostic)
  | [] => .ok ([], [])
  | name :: rest => do
    let path := dir.join name
    let text ← (fs.readBelow here name).mapError (.file path)
    let (units, diagnostics) ← readUnits fs here dir rest
    match SourceFile.parse path text with
    | .ok source => return (⟨source, source.tree.items⟩ :: units, diagnostics)
    | .error d => return (units, d :: diagnostics)

/-- The module of the directory of a script. -/
def load (fs : FileSystem) (script : Path) (name : String) : Except Failure Module := do
  let dir := script.parent?.getD "."
  let here ← match fs.openDirectory dir with
    | .error .notFound => .error (.moduleNotFound dir)
    | .error e => .error (.file dir e)
    | .ok here => .ok here
  let children := ((fs.root.get? here).map Entry.children).getD []
  let (units, diagnostics) ← readUnits fs here dir (fileNames children)
  if diagnostics.isEmpty then return ⟨name, dir, units⟩
  throw (.diagnostics diagnostics)

end LocalModule

end Overlay.Generate
