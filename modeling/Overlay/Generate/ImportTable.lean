import Overlay.Generate.CrateGraph
import Overlay.Generate.Import

/-!
# The import table

The imports of a script are resolved one after another; the table holds what each name is bound to.
Of two imports of one name the later one counts. All imports that fail are reported together.
-/

namespace Overlay.Generate

open Source (Node UseTree)
open Files (FileSystem)

/-- What an imported name refers to. -/
inductive ImportTarget where
  | module (m : Module)
  /-- An item that the module should declare. -/
  | item (m : Module) (name : String)
  /-- Anything in a crate whose sources cannot be read. -/
  | sealed

/-- The bound names, the latest first. -/
structure ImportTable where
  entries : List (String × ImportTarget)

namespace ImportTable

def empty : ImportTable := ⟨[]⟩

def get? (t : ImportTable) (name : String) : Option ImportTarget :=
  (t.entries.find? fun e => e.1 == name).map Prod.snd

/-- Binds a name, in place of what it was bound to. -/
def insert (t : ImportTable) (name : String) (target : ImportTarget) : ImportTable :=
  ⟨(name, target) :: t.entries.filter fun e => e.1 != name⟩

/-- The number of bound names. -/
def size (t : ImportTable) : Nat := t.entries.length

end ImportTable

/-- Segments that stay in the local module. -/
def isLocalSegment (segment : String) : Bool := segment == "self" || segment == "super"

namespace Import

/-- Follows segments through child modules; `none` if one of them is missing. -/
def descend (fs : FileSystem) : Module → List String → Explore (Option Module)
  | m, [] => return some m
  | m, segment :: rest => do
    match ← CrateGraph.child fs m segment with
    | some next => descend fs next rest
    | none => return none

/-- The target of segments inside a module. -/
def targetIn (fs : FileSystem) (path : String) (root : Module) (segments : List String) :
    Explore ImportTarget := do
  match segments.getLast? with
  | none => return .module root
  | some last =>
    match ← descend fs root segments.dropLast with
    | none => throw (.importNotFound path)
    | some m =>
      match ← CrateGraph.child fs m last with
      | some found => return .module found
      | none => return .item m last

/-- What one import refers to. -/
def resolve (fs : FileSystem) (here : Module) (i : FlatImport) : Explore ImportTarget := do
  let path := FlatImport.path i.segments
  match i.segments with
  | [] => throw (.importNotFound path)
  | first :: rest =>
    if isLocalSegment first then
      targetIn fs path here (i.segments.dropWhile isLocalSegment)
    else
      match ← CrateGraph.crateRoot fs first with
      | some (.readable m) => targetIn fs path m rest
      | some .sealed => return .sealed
      | none => throw (.importNotFound path)

/-- A step whose failure is handed back and not passed on. -/
def attempt {α : Type} (step : Explore α) : Explore (Except Failure α) :=
  ExceptT.mk do return .ok (← step.run)

/-- Binds imports one after another and collects the failures. -/
def bindAll (fs : FileSystem) (here : Module) :
    ImportTable → List FlatImport → Explore (ImportTable × List Failure)
  | table, [] => return (table, [])
  | table, i :: rest => do
    match ← attempt (resolve fs here i) with
    | .ok target =>
      Explore.report ⟨.debug, FlatImport.target, "imported",
        [("alias", i.bound), ("path", FlatImport.path i.segments)]⟩
      bindAll fs here (table.insert i.bound target) rest
    | .error f =>
      let (table, failures) ← bindAll fs here table rest
      return (table, f :: failures)

/-- Binds what the import items of a script name, item by item. -/
def bindItems (fs : FileSystem) (here : Module) :
    ImportTable → List UseTree → Explore (ImportTable × List Failure)
  | table, [] => return (table, [])
  | table, tree :: rest => do
    let (imports, events) := FlatImport.flatten tree
    Explore.reportAll events
    let (table, failures) ← bindAll fs here table imports
    let (table, more) ← bindItems fs here table rest
    return (table, failures ++ more)

/-- What an import item names. -/
def treeOf? (item : Node) : Option UseTree :=
  match item.role with
  | .useDecl tree => some tree
  | _ => none

end Import

/-- The table of the imports of a script. -/
def ImportTable.build (fs : FileSystem) (here : Module) (items : List Node) :
    Explore ImportTable := do
  let (table, failures) ← Import.bindItems fs here .empty (items.filterMap Import.treeOf?)
  match Failure.join? failures with
  | some f => throw f
  | none => return table

end Overlay.Generate
