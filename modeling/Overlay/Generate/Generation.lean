import Overlay.Generate.Discovery
import Overlay.Generate.LocalModule
import Overlay.Generate.Render
import Overlay.Generate.Report
import Overlay.Generate.Resolution

/-!
# Generation

The steps from a directory to the generated module: the one build script below the directory, the
crate that owns it, the arguments of its aggregation call, the text, and the file beside the script.
-/

namespace Overlay.Generate

open Source (SourceFile)
open Files (FileSystem FileError Path)

/-- A build script that is ready for generation. -/
structure Setup where
  script : SourceFile
  /-- The module of the script's directory. -/
  here : Module
  crate : Crate
  /-- How the generated module names the script. -/
  sourceLabel : String
  /-- Whether arguments that cannot be resolved are an error. -/
  strict : Bool

/-- The generated module. -/
structure Rendered where
  outputPath : Path
  text : String
  aggregate : List AggregateField
  skipped : List Skipped

namespace Generation

/-- The name of the module of a directory of a crate. -/
def moduleName (c : Crate) (dir : Path) : String :=
  let base := (c.rootFile.bind Path.parent?).getD c.root
  FlatImport.path (c.ident :: (Path.below? base dir).getD [])

/-- The script's path below the crate's directory, if it is there. -/
def labelOf (c : Crate) (script : Path) : String :=
  match Path.below? c.root script with
  | some parts => "/".intercalate parts
  | none => script

/-- The only script that was found. -/
def single (root : Path) : List Path → Except Failure Path
  | [] => .error (.moduleNotFound root)
  | [script] => .ok script
  | scripts => .error (.ambiguousModule root scripts)

/-- Finds and reads the build script below a directory. Without a demand the crate's settings say
whether generation is strict. -/
def load (fs : FileSystem) (root : Path) (strict? : Option Bool) : Reported Setup := do
  let canonical ← Reported.of ((fs.canonical root).mapError fun _ => .moduleNotFound root)
  let scripts ← Discovery.scripts fs canonical
  let script ← Reported.of (single root scripts)
  Reported.event ⟨.debug, "cargo_layercfg::context", "using build script", [("script", script)]⟩
  let dir := script.parent?.getD canonical
  let crate ← Crate.locate fs dir
  let here ← Reported.of (LocalModule.load fs script (moduleName crate dir))
  match here.units with
  | [] => Reported.of (.error (.moduleNotFound root))
  | first :: _ =>
    return {
      script := first.source
      here
      crate
      sourceLabel := labelOf crate script
      strict := strict?.getD crate.settings.strict }

/-- The declarations of the arguments of the aggregation call, and the arguments left out. -/
def resolveArguments (fs : FileSystem) (setup : Setup) (e : Script.Extraction) :
    Reported (List Declaration × List Skipped) :=
  let step : Explore (List Declaration × List Skipped) := do
    let imports ← ImportTable.build fs setup.here e.imports
    Resolution.resolveAll fs setup.script setup.here imports e.arguments
  let (result, _, events) := step.runOn (.new setup.crate)
  (events, result)

/-- The text of the generated module. -/
def renderText (setup : Setup) (e : Script.Extraction) (declarations : List Declaration) :
    Except Failure (List AggregateField × String) :=
  let (tagged, aggregate) := Section.synthesize declarations
  aggregate.map fun aggregate =>
    (aggregate,
      Render.text
        { sourceLabel := setup.sourceLabel
          module := setup.here.name
          script := setup.script
          imports := e.topLevelImports
          declarations := tagged
          aggregate })

/-- Generates the module of a script. -/
def renderSetup (fs : FileSystem) (setup : Setup) : Reported Rendered := do
  let e ← Script.extract setup.script
  let (declarations, skipped) ← resolveArguments fs setup e
  if setup.strict && !skipped.isEmpty then Reported.of (.error (.unresolvedArguments skipped))
  else
    let (aggregate, text) ← Reported.of (renderText setup e declarations)
    return ⟨setup.here.dir.join outputName, text, aggregate, skipped⟩

/-- Generates the module of the build script below a directory. -/
def render (fs : FileSystem) (root : Path) (strict? : Option Bool) : Reported Rendered := do
  renderSetup fs (← load fs root strict?)

/-- Writes a generated module, in place of what its file holds. -/
def write (fs : FileSystem) (path : Path) (text : String) : Except Failure FileSystem :=
  match path.parent?, path.fileName? with
  | some parent, some name => do
    let dir ← (fs.openDirectory parent).mapError (.file parent)
    (fs.writeBelow dir name text).mapError (.file path)
  | _, _ => .error (.file path .invalidInput)

/-- Generates the module of the build script below a directory and writes it beside the script. -/
def generate (fs : FileSystem) (root : Path) (strict? : Option Bool) :
    Reported (Rendered × FileSystem) := do
  let rendered ← render fs root strict?
  let fs ← Reported.of (write fs rendered.outputPath rendered.text)
  Reported.event ⟨.info, "cargo_layercfg", "wrote generated configuration",
    [("path", rendered.outputPath),
      ("sections", toString (sectionFields rendered.aggregate).length),
      ("skipped", toString rendered.skipped.length)]⟩
  return (rendered, fs)

end Generation

end Overlay.Generate
