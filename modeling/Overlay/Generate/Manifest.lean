import Overlay.Files.Access
import Overlay.Generate.Crate
import Overlay.Text.Identifier
import Overlay.Toml.Reader

/-!
# Manifests

A manifest describes a package, a workspace, or both. This module reads one manifest on its own;
what it inherits from its workspace is passed in.
-/

namespace Overlay.Generate

open Files (FileSystem Path Place Entry)

/-- The entries of a table, none if there is no such table. -/
def tableOf : Option Tree → Tree.Entries
  | some (.dict es) => es
  | _ => []

def textOf? : Option Tree → Option String
  | some (.text s) => some s
  | _ => none

/-- The texts of a list. -/
def textsOf : Option Tree → List String
  | some (.list ts) => ts.filterMap fun
    | .text s => some s
    | _ => none
  | _ => []

def manifestName : String := "Cargo.toml"

/-- A path without dots, as if no link were on it. -/
def normalized (p : Path) : Path :=
  Path.ofParts
    (p.parts.foldl (fun up part => if part == ".." then up.dropLast else up ++ [part]) [])

/-- Dashes of a package name are underscores in paths. -/
def identOf (name : String) : String :=
  String.ofList (name.toList.map fun c => if c == '-' then '_' else c)

/-- What a workspace hands down to its members. -/
structure Inheritance where
  /-- The directory of the workspace. -/
  root : Path
  dependencies : Tree.Entries
  package : Tree.Entries

def Inheritance.none : Inheritance := ⟨"/", [], []⟩

/-- A package: what a crate needs of it, and the directories of all its path dependencies. -/
structure Package where
  crate : Except Failure Crate
  pathDependencies : List Path

namespace Manifest

/-! ## Names and versions -/

def isName (name : String) : Bool :=
  match name.toList with
  | [] => false
  | c :: rest =>
    (Text.isStart c || c == '_') && rest.all fun d => Text.isContinue d || d == '-'

/-- A number without zeros in front. -/
def isVersionNumber (part : List Char) : Bool :=
  !part.isEmpty && part.all Char.isDigit && (part.length = 1 || part.head? != some '0')

/-- The parts of a text between points. -/
def pointParts (s : String) : List (List Char) := divide [] s.toList
where
  divide (part : List Char) : List Char → List (List Char)
    | [] => [part.reverse]
    | c :: rest => if c == '.' then part.reverse :: divide [] rest else divide (c :: part) rest

/-- Three numbers, and after a dash or plus sign anything made of letters, digits, points and
dashes. -/
def isVersion (s : String) : Bool :=
  let isMark := fun c => c == '-' || c == '+'
  let numbers := pointParts (String.ofList (s.toList.takeWhile (!isMark ·)))
  numbers.length = 3 && numbers.all isVersionNumber
    && (s.toList.dropWhile (!isMark ·)).all fun c =>
      c.isAlphanum || c == '.' || c == '-' || c == '+'

def editions : List String := ["2015", "2018", "2021", "2024"]

/-- A key of the package that may be left to the workspace. -/
def inheritedText? (package : Tree.Entries) (up : Inheritance) (key : String) :
    Except Unit (Option String) :=
  match Tree.find? key package with
  | none => .ok none
  | some (.text s) => .ok (some s)
  | some (.dict es) =>
    match Tree.find? "workspace" es, Tree.find? key up.package with
    | some (.bool true), some (.text s) => .ok (some s)
    | _, _ => .error ()
  | some _ => .error ()

/-! ## Targets -/

/-- The names of the source files in a directory, in order. -/
def sourcesIn (fs : FileSystem) (dir : Path) : List String :=
  match fs.entry? dir with
  | some (.directory es) =>
    (Files.FileSystem.sortByName es).filterMap fun (name, e) =>
      match e with
      | .file _ => if Path.hasEnding ".rs" name then some name else none
      | .directory inner =>
        if (Entry.find? "main.rs" inner).isSome then some (name ++ "/main.rs") else none
      | .link _ => none
  | _ => []

/-- The library: its file, and whether other crates can use it as one. -/
def library (fs : FileSystem) (dir : Path) (es : Tree.Entries) :
    Except Unit (Option (Path × Bool)) :=
  let listing := Tree.find? "lib" es
  let table := tableOf listing
  let inferred := dir.join "src/lib.rs"
  let kinds := match Tree.find? "crate-type" table, Tree.find? "proc-macro" table with
    | _, some (.bool true) => ["proc-macro"]
    | some (.list _), _ => textsOf (Tree.find? "crate-type" table)
    | _, _ => ["lib"]
  let usable := kinds.contains "lib"
  match textOf? (Tree.find? "path" table) with
  | some path => .ok (some (dir.join path, usable))
  | none =>
    if fs.isFile inferred then .ok (some (inferred, usable))
    else if listing.isSome then .error ()
    else .ok none

/-- The file of a binary that is listed in the manifest. -/
def listedBinary (fs : FileSystem) (dir : Path) (package : String) (t : Tree) :
    Except Unit Path :=
  let table := tableOf (some t)
  match textOf? (Tree.find? "path" table), textOf? (Tree.find? "name" table) with
  | some path, some _ => .ok (dir.join path)
  | none, some name =>
    let candidates := [dir.join ("src/bin/" ++ name ++ ".rs"),
      dir.join ("src/bin/" ++ name ++ "/main.rs")]
      ++ (if name == package then [dir.join "src/main.rs"] else [])
    match candidates.find? fs.isFile with
    | some path => .ok path
    | none => .error ()
  | _, none => .error ()

/-- The files of the binaries: those that are listed, then those that are found. -/
def binaries (fs : FileSystem) (dir : Path) (package : String) (es : Tree.Entries) :
    Except Unit (List Path) := do
  let listed ← match Tree.find? "bin" es with
    | some (.list ts) => ts.mapM (listedBinary fs dir package)
    | some _ => .error ()
    | none => .ok []
  let found := [dir.join "src/main.rs"].filter fs.isFile
    ++ (sourcesIn fs (dir.join "src/bin")).map fun name => dir.join ("src/bin/" ++ name)
  let auto := match Tree.find? "autobins" (tableOf (Tree.find? "package" es)) with
    | some (.bool false) => false
    | _ => true
  return listed ++ (if auto then found.filter (!listed.contains ·) else [])

/-- Whether there are sources besides the library and the binaries. -/
def hasOtherTargets (fs : FileSystem) (dir : Path) : Bool :=
  ["examples", "tests", "benches"].any fun name => !(sourcesIn fs (dir.join name)).isEmpty

/-- The file in which the modules of the package start; a package has some target. -/
def rootFile (fs : FileSystem) (dir : Path) (package : String) (es : Tree.Entries) :
    Except Unit (Option Path) := do
  let lib ← library fs dir es
  let bins ← binaries fs dir package es
  if lib.isNone && bins.isEmpty && !hasOtherTargets fs dir then throw ()
  return match lib with
    | some (path, true) => some path
    | _ => bins.head?

/-! ## Dependencies -/

/-- Where a dependency comes from. -/
inductive Origin where
  | registry (version : String)
  | path (dir : Path)
  | git (url : String)
  deriving DecidableEq

/-- Whether a requirement on versions can be read: every part is a version, perhaps shortened or
with stars, after an operator. -/
def isRequirement (s : String) : Bool :=
  (commaParts [] s.toList).all fun part =>
    let body := (part.dropWhile (· == ' ')).dropWhile fun c =>
      c == '^' || c == '~' || c == '=' || c == '>' || c == '<' || c == ' '
    let body := (body.reverse.dropWhile (· == ' ')).reverse
    let core := body.takeWhile fun c => c != '-' && c != '+'
    let numbers := pointParts (String.ofList core)
    numbers.length ≤ 3 && numbers.all fun n => n == ['*'] || isVersionNumber n
where
  commaParts (part : List Char) : List Char → List (List Char)
    | [] => [part.reverse]
    | c :: rest =>
      if c == ',' then part.reverse :: commaParts [] rest else commaParts (c :: part) rest

/-- The origin that an entry of a table of dependencies gives, with paths from a directory. -/
def origin (dir : Path) : Tree → Except Unit Origin
  | .text version => if isRequirement version then .ok (.registry version) else .error ()
  | .dict es =>
    match Tree.find? "path" es, Tree.find? "git" es, Tree.find? "version" es with
    | some (.text path), none, _ => .ok (.path (normalized (dir.join path)))
    | none, some (.text url), _ => .ok (.git url)
    | none, none, some (.text version) =>
      if isRequirement version then .ok (.registry version) else .error ()
    | _, _, _ => .error ()
  | _ => .error ()

/-- The origin of a dependency, which the workspace may give. -/
def resolvedOrigin (dir : Path) (up : Inheritance) (key : String) (t : Tree) :
    Except Unit Origin :=
  match t with
  | .dict es =>
    match Tree.find? "workspace" es with
    | some (.bool true) =>
      match Tree.find? key up.dependencies with
      | some inherited => origin up.root inherited
      | none => .error ()
    | _ => origin dir t
  | _ => origin dir t

/-- The dependencies of one table, in the order of their keys. -/
def dependencyTable (dir : Path) (up : Inheritance) (t : Option Tree) :
    Except Unit (List (String × Origin)) :=
  (tableOf t).mapM fun (key, entry) => do return (key, ← resolvedOrigin dir up key entry)

/-- The tables of all targets under a key. -/
def targetTables (key : String) (es : Tree.Entries) : List (Option Tree) :=
  (tableOf (Tree.find? "target" es)).map fun (_, t) => Tree.find? key (tableOf (some t))

/-- All dependencies under a key: of the package itself, then of each target. -/
def dependenciesOf (dir : Path) (up : Inheritance) (key : String) (es : Tree.Entries) :
    Except Unit (List (String × Origin)) := do
  let tables := Tree.find? key es :: targetTables key es
  return (← tables.mapM (dependencyTable dir up)).flatten

/-- A dependency under one key has the same origin everywhere. -/
def agree (a b : List (String × Origin)) : Bool :=
  a.all fun (key, first) => b.all fun (other, second) => key != other || first = second

def pathsOf (dependencies : List (String × Origin)) : List Path :=
  dependencies.filterMap fun (_, o) =>
    match o with
    | .path p => some p
    | _ => none

/-! ## Packages -/

/-- The package that a manifest in a directory describes. -/
def package (fs : FileSystem) (dir : Path) (up : Inheritance) (es : Tree.Entries) :
    Except Unit Package := do
  let table := tableOf (Tree.find? "package" es)
  let name ← match Tree.find? "name" table with
    | some (.text s) => if isName s then .ok s else .error ()
    | _ => .error ()
  if !(← inheritedText? table up "version").all isVersion then throw ()
  if !(← inheritedText? table up "edition").all editions.contains then throw ()
  let rootFile ← rootFile fs dir name es
  let normal ← dependenciesOf dir up "dependencies" es
  let dev ← dependenciesOf dir up "dev-dependencies" es
  let build ← dependenciesOf dir up "build-dependencies" es
  if !agree normal dev || !agree normal build || !agree dev build then throw ()
  let settings := match Tree.find? "layercfg" (tableOf (Tree.find? "metadata" table)) with
    | some t => Settings.ofTree t
    | none => .ok .default
  return {
    crate := settings.map fun settings =>
      { ident := identOf name
        root := dir
        rootFile
        dependencies := normal.map fun (key, o) =>
          ⟨identOf key, match o with
            | .path p => some p
            | _ => none⟩
        settings }
    pathDependencies := pathsOf (normal ++ dev ++ build) }

/-- The entries of the manifest in a directory. -/
def entries (fs : FileSystem) (dir : Path) : Except Unit Tree.Entries :=
  match fs.readText (dir.join manifestName) with
  | .error _ => .error ()
  | .ok text =>
    match Toml.read? text with
    | some (.dict es) =>
      if (Tree.find? "package" es).isSome || (Tree.find? "workspace" es).isSome then .ok es
      else .error ()
    | _ => .error ()

end Manifest

end Overlay.Generate
