import Overlay.Files.Access
import Overlay.Generate.Script

/-!
# Discovery of build scripts

Below a directory every gated script is found, in the order of names. Hidden directories and those
of build results are left out, and links are not followed.
-/

namespace Overlay.Generate

open Files (FileSystem Path Entry)

namespace Discovery

def target : String := "cargo_layercfg::loader"

/-- The scripts that were found, or the failure. -/
abbrev Outcome := Reported (List Path)

/-- The outcomes of the entries of a directory, put together in the order of their names. Nothing
counts after a failure. -/
def inOrder (outcomes : List (String × Outcome)) : Outcome :=
  (FileSystem.sortByName outcomes).foldr
    (fun o rest => do return (← o.2) ++ (← rest)) (Reported.ok [])

/-- Whether a directory is searched. -/
def isSearched (name : String) : Bool := name.toList.head? != some '.' && name != "target"

/-- What a file with the name of a script comes to. -/
def scriptAt (path : Path) : Files.Content → Outcome
  | .binary _ => ([], .error (.file path .invalidText))
  | .text text =>
    if Script.isGated text then
      ([⟨.debug, target, "found build script", [("path", path)]⟩], .ok [path])
    else Reported.ok []

mutual

/-- What an entry of a directory comes to. -/
def search (path : Path) (name : String) : Entry → Outcome
  | .directory children =>
    if isSearched name then inOrder (searchAll path children) else Reported.ok []
  | .file content => if name == scriptName then scriptAt path content else Reported.ok []
  | .link _ => Reported.ok []

/-- What each entry of a directory comes to, under its name. -/
def searchAll (base : Path) : List (String × Entry) → List (String × Outcome)
  | [] => []
  | (name, e) :: rest => (name, search (base.join name) name e) :: searchAll base rest

end

/-- The gated scripts below a directory. -/
def scripts (fs : FileSystem) (root : Path) : Outcome :=
  match fs.openDirectory root with
  | .error .notFound => ([], .error (.moduleNotFound root))
  | .error e => ([], .error (.file root e))
  | .ok here =>
    let children := ((fs.root.get? here).map Entry.children).getD []
    inOrder (searchAll root children)

end Discovery

end Overlay.Generate
