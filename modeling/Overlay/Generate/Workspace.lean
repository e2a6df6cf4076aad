import Overlay.Generate.Manifest
import Overlay.Generate.Report

/-!
# Workspaces

A manifest belongs to the workspace that it declares itself, or to the nearest one above it that
does not exclude it. All members of a workspace have to be sound, and a package below a workspace
has to be one of its members: listed, or a path dependency of a member.
-/

namespace Overlay.Generate

open Files (FileSystem Path Place Entry)

namespace Workspace

/-- A manifest that declares a workspace. -/
structure Root where
  dir : Path
  entries : Tree.Entries

def table (r : Root) : Tree.Entries := tableOf (Tree.find? "workspace" r.entries)

def inheritance (r : Root) : Inheritance :=
  ⟨r.dir, tableOf (Tree.find? "dependencies" (table r)), tableOf (Tree.find? "package" (table r))⟩

def declaresWorkspace (es : Tree.Entries) : Bool := (Tree.find? "workspace" es).isSome

def declaresPackage (es : Tree.Entries) : Bool := (Tree.find? "package" es).isSome

/-- Whether a directory is one of the given ones of a workspace, or below it. -/
def isBelowAny (r : Root) (dir : Path) (names : List String) : Bool :=
  names.any fun name => (Path.below? (normalized (r.dir.join name)) dir).isSome

/-- Whether a directory is excluded and not listed. -/
def excludes (r : Root) (dir : Path) : Bool :=
  isBelowAny r dir (textsOf (Tree.find? "exclude" (table r)))
    && !isBelowAny r dir (textsOf (Tree.find? "members" (table r)))

/-- The workspace above a directory, if there is one. All manifests on the way have to be sound. -/
def above (fs : FileSystem) (dir : Path) : List Path → Except Unit (Option Root)
  | [] => .ok none
  | up :: rest =>
    if (fs.entry? (up.join manifestName)).isNone then above fs dir rest
    else do
      let es ← Manifest.entries fs up
      let r : Root := ⟨up, es⟩
      if declaresPackage es then
        let _ ← Manifest.package fs up (inheritance r) es
      if !declaresWorkspace es then above fs dir rest
      else if excludes r dir then return none
      else return some r

/-! ## Members -/

/-- Whether a name fits a pattern with stars and question marks. -/
def fits : (pattern name : List Char) → Bool
  | [], name => name.isEmpty
  | '*' :: pattern, name => starFits (fits pattern) name
  | '?' :: pattern, _ :: name => fits pattern name
  | c :: pattern, d :: name => c == d && fits pattern name
  | _ :: _, [] => false
where
  starFits (rest : List Char → Bool) : List Char → Bool
    | [] => rest []
    | d :: name => rest (d :: name) || starFits rest name

def isPattern (part : String) : Bool := part.toList.any fun c => c == '*' || c == '?'

/-- The directories that the parts of a pattern stand for. -/
def expand (fs : FileSystem) : (dirs : List Path) → List String → List Path
  | dirs, [] => dirs
  | dirs, part :: rest =>
    if isPattern part then
      let next := dirs.flatMap fun dir =>
        match fs.entry? dir with
        | some (.directory es) =>
          (FileSystem.sortByName es).filterMap fun (name, _) =>
            match fs.entry? (dir.join name) with
            | some (.directory _) =>
              if fits part.toList name.toList then some (dir.join name) else none
            | _ => none
        | _ => []
      expand fs next rest
    else expand fs (dirs.map fun dir => normalized (dir.join part)) rest

/-- The directories of the members that a workspace lists, and of its own package. -/
def listed (fs : FileSystem) (r : Root) : List Path :=
  (if declaresPackage r.entries then [r.dir] else [])
    ++ (textsOf (Tree.find? "members" (table r))).flatMap fun member =>
      let found := expand fs [r.dir] (Path.parts member)
      if found.isEmpty then [normalized (r.dir.join member)] else found

/-- All members: those waiting to be read, and the path dependencies that are found on the way and
are below the workspace. The fuel bounds the number of members. -/
def members (fs : FileSystem) (r : Root) :
    Nat → (done : List (Path × Package)) → (waiting : List Path) →
      Except Unit (List (Path × Package))
  | 0, done, _ => .ok done
  | _ + 1, done, [] => .ok done
  | fuel + 1, done, dir :: waiting =>
    if done.any fun d => d.1 == dir then members fs r fuel done waiting
    else do
      let es ← Manifest.entries fs dir
      if !declaresPackage es then throw ()
      let p ← Manifest.package fs dir (inheritance r) es
      let more := p.pathDependencies.filter fun d => (Path.below? r.dir d).isSome
      members fs r fuel (done ++ [(dir, p)]) (waiting ++ more)

/-- A bound for the number of steps over all members. -/
def memberBound : Nat := 4096

/-- All members of a workspace. -/
def allMembers (fs : FileSystem) (r : Root) : Except Unit (List (Path × Package)) :=
  members fs r memberBound [] (listed fs r)

/-- The package in a directory; none if the manifest there declares only a workspace. -/
def packageAt (fs : FileSystem) (dir : Path) : Except Unit (Option Package) := do
  let es ← Manifest.entries fs dir
  let root ← if declaresWorkspace es then pure (some ⟨dir, es⟩)
    else above fs dir (dir.ancestors.drop 1)
  match root with
  | none => return some (← Manifest.package fs dir .none es)
  | some r =>
    let all ← allMembers fs r
    match all.find? fun m => m.1 == dir with
    | some (_, p) => return some p
    | none => if declaresPackage es then throw () else return none

end Workspace

/-! ## Loading crates -/

namespace Crate

def target : String := "cargo_layercfg::manifest"

/-- The crate of a manifest; none if the manifest declares no package. -/
def load (fs : FileSystem) (manifest : Path) : Reported (Option Crate) :=
  match fs.canonical manifest with
  | .error e => ([], .error (.file manifest e))
  | .ok canonical =>
    if canonical.fileName? != some manifestName then ([], .error .metadata)
    else match Workspace.packageAt fs (canonical.parent?.getD "/") with
      | .error _ => ([], .error .metadata)
      | .ok none =>
        ([⟨.debug, target, "manifest declares no package", [("manifest", canonical)]⟩], .ok none)
      | .ok (some p) => ([], p.crate.map some)

/-- The crate of the nearest manifest of a package among some directories. -/
def locateIn (fs : FileSystem) (dir : Path) :
    List Path → Reported Crate
  | [] => ([], .error (.manifestNotFound dir))
  | up :: rest =>
    if !fs.isFile (up.join manifestName) then locateIn fs dir rest
    else do
      match ← load fs (up.join manifestName) with
      | some c => return c
      | none => locateIn fs dir rest

/-- The crate that owns a directory. -/
def locate (fs : FileSystem) (dir : Path) : Reported Crate :=
  locateIn fs dir dir.ancestors

end Crate

end Overlay.Generate
