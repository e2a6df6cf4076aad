import Overlay.Text.Ticked
import Overlay.Source.SourceFile
import Overlay.Files.Error

/-!
# Skipped arguments and failures

An argument of the aggregation call that names no readable declaration is skipped with a reason.
What makes a whole run fail is a failure; several independent ones are reported together.
-/

namespace Overlay.Generate

open Source (Diagnostic)
open Text (ticked)
open Files (FileError)

/-- Why an argument contributes no section. -/
inductive SkipReason where
  /-- The argument is not a structure literal. -/
  | notStructLiteral
  /-- The first segment of the path is neither imported nor a known crate. -/
  | unknownAlias (name : String)
  /-- No declaration with this path could be read. -/
  | declarationNotFound (path : String)
  /-- The declaration is not a structure with named fields and without parameters. -/
  | notStructShaped (path : String)
  deriving DecidableEq

namespace SkipReason

def message : SkipReason → String
  | notStructLiteral => "not a struct literal"
  | unknownAlias name => "unknown alias " ++ ticked name
  | declarationNotFound path => "declaration of " ++ ticked path ++ " not found"
  | notStructShaped path => ticked path ++ " is not a struct with named fields"

/-- What the reason speaks of. -/
def subject? : SkipReason → Option String
  | notStructLiteral => none
  | unknownAlias name => some name
  | declarationNotFound path => some path
  | notStructShaped path => some path

end SkipReason

/-- An argument that was left out, by its place in the call. -/
structure Skipped where
  index : Nat
  reason : SkipReason
  deriving DecidableEq

def Skipped.message (s : Skipped) : String :=
  "argument " ++ toString s.index ++ ": " ++ s.reason.message

/-- Why a run failed. -/
inductive Failure where
  /-- The manifests do not describe a package. -/
  | metadata
  /-- The settings in the manifest are malformed. -/
  | metadataJson (text : String)
  /-- No gated script exists below the directory. -/
  | moduleNotFound (root : String)
  /-- More than one gated script exists below the directory. -/
  | ambiguousModule (root : String) (candidates : List String)
  /-- No package owns the directory. -/
  | manifestNotFound (dir : String)
  /-- Source files could not be read as such. -/
  | diagnostics (list : List Diagnostic)
  /-- The entry point has an empty body. -/
  | invalidEntryPoint (path : String)
  /-- An import names a crate or module that is not there. -/
  | importNotFound (path : String)
  /-- Arguments were skipped, and that is not allowed. -/
  | unresolvedArguments (skipped : List Skipped)
  /-- Two sections have the same field. -/
  | duplicateSection (first second field : String)
  /-- A section cannot have its own name. -/
  | reservedSectionName (name : String)
  /-- The text could not be written. -/
  | render
  /-- A file operation failed. -/
  | file (path : String) (cause : FileError)
  /-- Several failures. -/
  | aggregate (failures : List Failure)

namespace Failure

mutual

def message : Failure → String
  | metadata => "cargo metadata failed"
  | metadataJson text => "failed to parse package.metadata.layercfg: " ++ text
  | moduleNotFound root => "no module under " ++ root ++ " contains a gated config.rs"
  | ambiguousModule root candidates =>
    "multiple modules found containing config.rs under " ++ root ++ ": "
      ++ ", ".intercalate candidates
  | manifestNotFound dir => "no Cargo package owns " ++ dir
  | diagnostics list => "\n".intercalate (list.map Diagnostic.render)
  | invalidEntryPoint path => "invalid `main` function body in " ++ path
  | importNotFound path => "imported path " ++ ticked path ++ " not found"
  | unresolvedArguments skipped =>
    "unresolved build_configs arguments:\n" ++ "\n".intercalate (skipped.map Skipped.message)
  | duplicateSection first second field =>
    "sections " ++ ticked first ++ " and " ++ ticked second ++ " both map to field "
      ++ ticked field
  | reservedSectionName name =>
    "section " ++ ticked name
      ++ " cannot be emitted: its name is reserved in the generated module"
  | render =>
    "failed to render generated source: an error occurred when formatting an argument"
  | file path cause => "I/O error at " ++ path ++ ": " ++ cause.message
  | aggregate failures => "multiple errors:\n" ++ "\n".intercalate (numbered 1 failures)

/-- The messages of failures, each after its number. -/
def numbered (n : Nat) : List Failure → List String
  | [] => []
  | f :: rest => (toString n ++ ": " ++ message f) :: numbered (n + 1) rest

end

/-- One failure for several: nothing for none, a single one itself. -/
def join? : List Failure → Option Failure
  | [] => none
  | [f] => some f
  | failures => some (.aggregate failures)

end Failure

end Overlay.Generate
