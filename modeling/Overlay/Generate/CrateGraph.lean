import Overlay.Generate.Module
import Overlay.Generate.Workspace
import Overlay.Text.Quoted

/-!
# The crate graph

Modules of the local crate and of its path dependencies are read when they are asked for and kept
under their names. A crate whose sources cannot be read is sealed: it is known, but nothing in it.
-/

namespace Overlay.Generate

open Source (SourceFile)
open Files (FileSystem Path)

/-- Crates that come with the toolchain. -/
def toolchainCrates : List String := ["std", "core", "alloc", "proc_macro", "test"]

/-- The modules that have been read, and the crates that are known to be sealed. -/
structure CrateGraph where
  localCrate : Crate
  modules : List (String × Module)
  sealedCrates : List String

/-- Where the first segment of a path leads. -/
inductive CrateRoot where
  | readable (m : Module)
  | sealed

namespace CrateGraph

def target : String := "cargo_layercfg::loader"

def new (c : Crate) : CrateGraph := ⟨c, [], []⟩

def module? (g : CrateGraph) (key : String) : Option Module :=
  (g.modules.find? fun m => m.1 == key).map Prod.snd

/-- Keeps a module under a name. -/
def keep (g : CrateGraph) (key : String) (m : Module) : CrateGraph :=
  { g with modules := (key, m) :: g.modules }

def setSealed (g : CrateGraph) (name : String) : CrateGraph :=
  { g with sealedCrates := name :: g.sealedCrates }

end CrateGraph

/-- A graph and what was reported while it grew. -/
structure Exploration where
  graph : CrateGraph
  events : List Event

/-- A step that may read modules and report. What it did before a failure stays. -/
abbrev Explore := ExceptT Failure (StateM Exploration)

namespace Explore

def report (e : Event) : Explore Unit :=
  modify fun s => { s with events := s.events ++ [e] }

def reportAll (es : List Event) : Explore Unit :=
  modify fun s => { s with events := s.events ++ es }

def graph : Explore CrateGraph := do return (← get).graph

def change (f : CrateGraph → CrateGraph) : Explore Unit :=
  modify fun s => { s with graph := f s.graph }

/-- A result that changes nothing. -/
def lift {α : Type} : Except Failure α → Explore α
  | .ok a => return a
  | .error f => throw f

/-- Runs a step on a graph. -/
def runOn {α : Type} (step : Explore α) (g : CrateGraph) :
    Except Failure α × CrateGraph × List Event :=
  let (result, s) := step.run.run ⟨g, []⟩
  (result, s.graph, s.events)

end Explore

namespace CrateGraph

/-- The name of the local crate inside itself. -/
def selfName : String := "crate"

/-- The file in which a known crate starts; the outer `none` says that the crate is unknown. -/
def rootFile (fs : FileSystem) (g : CrateGraph) (name : String) :
    Reported (Option (Option Path)) :=
  if name == selfName then ([], .ok (some g.localCrate.rootFile))
  else match g.localCrate.dependency? name with
    | none => ([], .ok none)
    | some ⟨_, none⟩ => ([], .ok (some none))
    | some ⟨_, some dir⟩ =>
      let (events, result) := Crate.load fs (dir.join manifestName)
      (events, result.map fun c? => some (c?.bind Crate.rootFile))

/-- Where a crate's name leads; `none` for names that are no dependencies. -/
def crateRoot (fs : FileSystem) (name : String) : Explore (Option CrateRoot) := do
  let g ← Explore.graph
  if toolchainCrates.contains name || g.sealedCrates.contains name then return some .sealed
  let key := if name == selfName then g.localCrate.ident else name
  match g.module? key with
  | some m => return some (.readable m)
  | none =>
    let (events, file) := g.rootFile fs name
    Explore.reportAll events
    match ← Explore.lift file with
    | none => return none
    | some none =>
      Explore.report ⟨.debug, target, "treating crate as opaque",
        [("crate_name", Text.Quoted.encode name)]⟩
      Explore.change (·.setSealed name)
      return some .sealed
    | some (some path) =>
      match ← Explore.lift (loadSource fs path) with
      | none =>
        Explore.change (·.setSealed name)
        return some .sealed
      | some source =>
        let m := Module.ofFile key (path.parent?.getD ".") source
        Explore.change (·.keep key m)
        return some (.readable m)

/-- The child module that a declaration in its parent stands for; none if its file is missing. -/
def declaredChild (fs : FileSystem) (parent : Module) (name : String) :
    SourceFile × Source.Node × Bool → Except Failure (Option Module)
  | (source, item, isInline) => do
    let key := parent.childName name
    let dir := parent.dir.join name
    if isInline then return some ⟨key, dir, [⟨source, item.parts⟩]⟩
    match ← firstSource fs [parent.dir.join (name ++ ".rs"), dir.join "mod.rs"] with
    | some source => return some (Module.ofFile key dir source)
    | none => return none

/-- The child module of a name; none if the parent declares none or its file is missing. -/
def child (fs : FileSystem) (parent : Module) (name : String) : Explore (Option Module) := do
  let key := parent.childName name
  match (← Explore.graph).module? key with
  | some m => return some m
  | none =>
    match parent.childDeclaration? name with
    | none => return none
    | some declaration =>
      match ← Explore.lift (declaredChild fs parent name declaration) with
      | some m =>
        Explore.change (·.keep key m)
        return some m
      | none =>
        Explore.report ⟨.debug, target, "module file not found", [("module", key)]⟩
        return none

end CrateGraph

end Overlay.Generate
