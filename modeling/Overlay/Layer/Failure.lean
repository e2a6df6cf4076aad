import Overlay.Files.Error
import Overlay.Layer.Format
import Overlay.Layer.Mismatch

/-!
# Failures of layering and echo
-/

namespace Overlay.Layer

inductive LayerError where
  | read (path : String) (cause : Files.FileError)
  | unsupportedFile (path : String)
  | malformedFile (path : String)
  | gathering (causes : List Complaint)
  | serialize (format : Format) (text : String)
  | unknownFormat (name : String)
  | write (text : String)

namespace LayerError

def message : LayerError → String
  | read path cause => "failed to read configuration file '" ++ path ++ "': " ++ cause.message
  | unsupportedFile path =>
    "unsupported configuration file format for '" ++ path
      ++ "'; expected toml, json, yaml or yml"
  | malformedFile path => "Configuration file error in '" ++ path ++ "'"
  | gathering causes =>
    "Failed to gather configuration: " ++ "\n".intercalate (causes.map (·.cause.message))
  | serialize format text =>
    "failed to serialize configuration as " ++ format.name ++ ": " ++ text
  | unknownFormat name =>
    "unknown format '" ++ name ++ "'; expected one of json, yaml, env"
  | write text => "failed to write configuration: " ++ text

end LayerError

/-- The format of a name, or a failure. -/
def Format.parse (name : String) : Except LayerError Format :=
  match Format.ofName? name with
  | some f => .ok f
  | none => .error (.unknownFormat name)

end Overlay.Layer
