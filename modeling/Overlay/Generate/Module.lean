import Overlay.Files.Access
import Overlay.Generate.Failure

/-!
# Modules

A module has a name, a directory for the files of its child modules, and units: the declarations of
one source file each.
-/

namespace Overlay.Generate

open Source (Node SourceFile)
open Files (FileSystem FileError Path)

/-- Declarations and the file they come from. -/
structure SourceUnit where
  source : SourceFile
  items : List Node

structure Module where
  /-- The full name, with the crate first. -/
  name : String
  /-- The directory of the files of its child modules. -/
  dir : Path
  units : List SourceUnit

/-- The name of the type that an item declares. -/
def declaredType? (item : Node) : Option String :=
  match item.role with
  | .structDecl name .. => some name
  | .enumDecl name => some name
  | .aliasDecl name => some name
  | .unionDecl name => some name
  | _ => none

/-- The name of the module that an item declares, and whether it holds the module's items. -/
def declaredModule? (item : Node) : Option (String × Bool) :=
  match item.role with
  | .modDecl name isInline => some (name, isInline)
  | _ => none

namespace Module

/-- All items with the files that declare them. -/
def items (m : Module) : List (SourceFile × Node) :=
  m.units.flatMap fun u => u.items.map fun item => (u.source, item)

/-- The first declaration of a type with a name. -/
def declaration? (m : Module) (name : String) : Option (SourceFile × Node) :=
  m.items.find? fun (_, item) => declaredType? item == some name

/-- The first declaration of a child module with a name: its file, its item, and whether it holds
the module's items. -/
def childDeclaration? (m : Module) (name : String) : Option (SourceFile × Node × Bool) :=
  m.items.findSome? fun (source, item) =>
    match declaredModule? item with
    | some (declared, isInline) => if declared == name then some (source, item, isInline) else none
    | none => none

/-- The module of a whole file. -/
def ofFile (name : String) (dir : Path) (source : SourceFile) : Module :=
  ⟨name, dir, [⟨source, source.tree.items⟩]⟩

/-- The name of a child module. -/
def childName (m : Module) (name : String) : String := m.name ++ "::" ++ name

end Module

/-! ## Reading sources -/

/-- The text of a file; none if it or its directory is missing. -/
def readOptional (fs : FileSystem) (path : Path) : Except Failure (Option String) :=
  match path.parent?, path.fileName? with
  | some parent, some name =>
    match fs.openDirectory parent with
    | .error .notFound => .ok none
    | .error e => .error (.file parent e)
    | .ok dir =>
      match fs.readBelow dir name with
      | .error .notFound => .ok none
      | .error e => .error (.file path e)
      | .ok text => .ok (some text)
  | _, _ => .ok none

/-- The source file at a path; none if it is missing. -/
def loadSource (fs : FileSystem) (path : Path) : Except Failure (Option SourceFile) := do
  match ← readOptional fs path with
  | none => return none
  | some text =>
    match SourceFile.parse path text with
    | .ok source => return some source
    | .error d => throw (.diagnostics [d])

/-- The first source file among some paths. -/
def firstSource (fs : FileSystem) : List Path → Except Failure (Option SourceFile)
  | [] => .ok none
  | path :: rest => do
    match ← loadSource fs path with
    | some source => return some source
    | none => firstSource fs rest

end Overlay.Generate
