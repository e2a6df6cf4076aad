import Overlay.Command.Arguments
import Overlay.Command.Filter
import Overlay.Generate.Generation

/-!
# Runs of the program

A run takes the arguments, the demanded filter of events and the files, and gives what is printed,
the exit code and the files after it.
-/

namespace Overlay.Command

open Files (FileSystem Path)
open Generate

/-- What a run comes to. -/
structure Outcome where
  code : Nat
  /-- What is printed as the result. -/
  output : String
  /-- What is printed about the run. -/
  log : String
  fs : FileSystem
  /-- The file that was written. -/
  written : Option (Path × String)

/-- The version of the program. -/
def version : String := Render.version

/-- A line about an event: its level takes five places. -/
def eventLine (e : Event) : String :=
  let name := e.level.name
  String.ofList (List.replicate (5 - name.length) ' ') ++ name ++ " " ++ e.body ++ "\n"

/-- The events that a filter shows, line by line. -/
def eventLines (f : Filter) (events : List Event) : String :=
  String.join ((events.filter f.admits).map eventLine)

/-- The filter of a run. A filter that cannot be read is as good as none. -/
def filterOf (demanded? : Option String) (verbose : Bool) : Filter :=
  (demanded?.bind Filter.read?).getD (.ofThreshold (some (if verbose then .debug else .warn)))

/-- The event at the end of a successful run. -/
def finished (r : Rendered) : Event :=
  ⟨.debug, "cargo_layercfg", "generation finished",
    [("sections", toString r.aggregate.length), ("skipped", toString r.skipped.length)]⟩

/-- Generates as the options say. -/
def generate (fs : FileSystem) (o : Options) (filter : Filter) : Outcome :=
  match Generation.generate fs o.dir (if o.strict then some true else none) with
  | (events, .ok (r, fs)) =>
    ⟨0, "", eventLines filter (events ++ [finished r]), fs, some (r.outputPath, r.text)⟩
  | (events, .error f) =>
    ⟨1, "", eventLines filter events ++ "Error: " ++ f.message ++ "\n", fs, none⟩

/-- Runs the program. -/
def run (fs : FileSystem) (arguments : List String) (demanded? : Option String) : Outcome :=
  match readArguments arguments with
  | .error .help => ⟨0, helpText, "", fs, none⟩
  | .error .version => ⟨0, programName ++ " " ++ version ++ "\n", "", fs, none⟩
  | .error (.misuse m) => ⟨2, "", m.message, fs, none⟩
  | .ok o => generate fs o (filterOf demanded? o.verbose)

end Overlay.Command
