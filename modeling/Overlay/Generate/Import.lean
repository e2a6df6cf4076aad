import Overlay.Source.Syntax
import Overlay.Event

/-!
# Flat imports

An import names several paths at once. Flattening lists them one by one, each with the name it is
bound to. Glob imports and anonymous ones bind no name that could be used; they are reported and
left out.
-/

namespace Overlay.Generate

open Source (UseTree)

/-- One imported path and the name it is bound to. -/
structure FlatImport where
  segments : List String
  bound : String
  deriving DecidableEq

namespace FlatImport

def target : String := "cargo_layercfg::imports"

/-- The path as it is written. -/
def path (segments : List String) : String := "::".intercalate segments

mutual

/-- The paths that a tree names below the path `base`, and what is left out. -/
def flattenBelow (base : List String) : UseTree → List FlatImport × List Event
  | .path name rest => flattenBelow (base ++ [name]) rest
  | .name name =>
    if name == "self" then
      match base.getLast? with
      | some last => ([⟨base, last⟩], [])
      | none => ([], [])
    else ([⟨base ++ [name], name⟩], [])
  | .rename name bound =>
    if bound == "_" then
      ([], [⟨.debug, target, "skipping anonymous import", [("name", name)]⟩])
    else ([⟨if name == "self" then base else base ++ [name], bound⟩], [])
  | .glob => ([], [⟨.debug, target, "skipping glob import", [("path", path base)]⟩])
  | .group trees => flattenAllBelow base trees

def flattenAllBelow (base : List String) : List UseTree → List FlatImport × List Event
  | [] => ([], [])
  | t :: rest =>
    let (imports, events) := flattenBelow base t
    let (moreImports, moreEvents) := flattenAllBelow base rest
    (imports ++ moreImports, events ++ moreEvents)

end

/-- The paths that an import names, one entry for each bound name, and what is left out. -/
def flatten (tree : UseTree) : List FlatImport × List Event := flattenBelow [] tree

end FlatImport

end Overlay.Generate
