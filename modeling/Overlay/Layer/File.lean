import Overlay.Files.Access
import Overlay.Json.Reader
import Overlay.Json.Writer
import Overlay.Layer.Failure
import Overlay.Layer.Prefix
import Overlay.Toml.Reader
import Overlay.Tree.Found
import Overlay.Yaml.Reader

/-!
# The configuration file as a layer

The extension of a file decides its format. A file that is malformed in its format is a failure of
its own; one that is well formed but holds no dictionary is a complaint about the layer.
-/

namespace Overlay.Layer

open Files (FileSystem Path)

inductive FileFormat where
  | toml
  | json
  | yaml
  deriving DecidableEq

/-- The format of a file with a path. -/
def FileFormat.ofPath? (path : Path) : Option FileFormat :=
  match path.extension?.map smallLetters with
  | some "toml" => some .toml
  | some "json" => some .json
  | some "yaml" | some "yml" => some .yaml
  | _ => none

/-- Line and column behind some text, lines counted from one and columns in bytes. -/
def positionAfter (read : List Char) : Nat × Nat :=
  let line := (read.reverse.takeWhile (· != '\n')).reverse
  ((read.filter (· == '\n')).length + 1, (String.ofList line).utf8ByteSize)

/-- The complaint about a JSON document that is no dictionary. It names the place behind a scalar
and the place in front of a list. -/
def jsonComplaint (text : String) (found : Tree) : Complaint :=
  let cs := text.toList
  let start := Json.skipBlank cs
  let rest := match found, Json.value Json.depthLimit start with
    | .list _, _ => start
    | _, some (_, rest) => rest
    | _, none => start
  let (line, column) := positionAfter (cs.take (cs.length - rest.length))
  let words := "invalid type: " ++ found.found "null" Json.doubleLayout
    ++ ", expected a map at line " ++ toString line ++ " column " ++ toString column
  ⟨.document words, []⟩

/-- A layer: the entries of a dictionary, or the complaint that there is none. -/
abbrev LayerData := Except Complaint Tree.Entries

/-- The layer of a text in a format; `none` if it is malformed. -/
def parseLayer? (format : FileFormat) (text : String) : Option LayerData :=
  match format with
  | .toml => (Toml.read? text).map fun
    | .dict es => .ok es
    | _ => .ok []
  | .json => (Json.read? text).map fun
    | .dict es => .ok es
    | t => .error (jsonComplaint text t)
  | .yaml => (Yaml.read? text).map fun
    | .ok (.dict es) => .ok es
    | .ok _ => .ok []
    | .error u => .error ⟨.document u.text, []⟩

/-- The layer of the file at a path. -/
def fileLayer (fs : FileSystem) (path : Path) : Except LayerError LayerData :=
  match fs.readText path with
  | .error e => .error (.read path e)
  | .ok text =>
    match FileFormat.ofPath? path with
    | none => .error (.unsupportedFile path)
    | some format =>
      match parseLayer? format text with
      | none => .error (.malformedFile path)
      | some data => .ok data

end Overlay.Layer
