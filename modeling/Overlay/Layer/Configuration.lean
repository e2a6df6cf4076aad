import Overlay.Event
import Overlay.Layer.Environment
import Overlay.Layer.File
import Overlay.Layer.Schema
import Overlay.Yaml.Writer

/-!
# Configurations

A configuration is a value with a schema and a marker that remembers which sources it was last
initialized from. Initializing lays the file and then the environment over the current value and
reads the result back; if anything fails, neither value nor marker changes.
-/

namespace Overlay.Layer

open Files (FileSystem Path)

/-- The options that a configuration was initialized with. -/
structure Marker where
  envPrefix : Option String
  filePath : Option Path
  deriving DecidableEq

inductive ConfigOption where
  | configFile (path : Path)
  | envPrefix (name : String)

namespace Marker

def empty : Marker := ⟨none, none⟩

def apply (m : Marker) : ConfigOption → Marker
  | .configFile path => { m with filePath := some path }
  | .envPrefix name =>
    let normal := normalizePrefix name
    { m with envPrefix := if normal.isEmpty then none else some normal }

/-- The marker after all options, in order. -/
def applyAll (m : Marker) (options : List ConfigOption) : Marker := options.foldl apply m

end Marker

/-- What a configuration holds: a tree, or a dictionary of one entry whose own keys are no texts and
which therefore not every format can express. -/
inductive Holding where
  | tree (t : Tree)
  | keyed (name : String) (entries : List (Tree × Tree))

namespace Holding

/-- The complaint of formats whose keys are texts. -/
def keyMessage : String := "key must be a string"

/-- The value as a tree of plain values in the order of its keys. -/
def plain : Holding → Except String Tree
  | tree t => .ok t.plainValue
  | keyed name [] => .ok (.dict [(name, .dict [])])
  | keyed _ _ => .error keyMessage

/-- The indented text of the value, or the part of it before a key that is no text. -/
def indented : Holding → Except String String
  | tree t => .ok (Json.indented 0 t)
  | keyed name [] => .ok (Json.indented 0 (.dict [(name, .dict [])]))
  | keyed name _ => .error ("\x7b\n  " ++ Json.quote name ++ ": \x7b\n    ")

/-- The value as a YAML document. -/
def form : Holding → Yaml.Form
  | tree t => .ofTree t
  | keyed name entries =>
    .mapping [(.text name, .mapping (entries.map fun (k, v) => (.ofTree k, .ofTree v)))]

end Holding

structure Configuration where
  schema : Schema
  holding : Holding
  marker : Marker

namespace Configuration

/-- A configuration that has not been initialized from any source. -/
def ofTree (schema : Schema) (t : Tree) : Configuration := ⟨schema, .tree t, .empty⟩

/-- How an optional text is shown. -/
def shown : Option String → String
  | some s => "Some(" ++ Text.Quoted.encode s ++ ")"
  | none => "None"

/-- The report before the sources are read. -/
def layering (m : Marker) : Event :=
  ⟨.debug, "layercfg", "layering configuration sources",
    [("file", shown m.filePath), ("env_prefix", shown m.envPrefix)]⟩

/-- The defaults as the lowest layer. -/
def defaultLayer : Tree → LayerData
  | .dict es => .ok es
  | t => .error ⟨.kind t "map", []⟩

/-- The layers merged, the later ones over the earlier ones, or all complaints about them. -/
def mergeLayers (defaults : LayerData) (file : Option LayerData) (env : Tree.Entries) :
    Except LayerError Tree :=
  match defaults, file with
  | .error a, some (.error b) => .error (.gathering [a, b])
  | .error a, _ => .error (.gathering [a])
  | .ok _, some (.error b) => .error (.gathering [b])
  | .ok base, some (.ok layer) =>
    .ok (.dict (Tree.mergeEntries (Tree.mergeEntries base layer) env))
  | .ok base, none => .ok (.dict (Tree.mergeEntries base env))

/-- The layer of the file that a marker names. -/
def markedFile (fs : FileSystem) : Option Path → Except LayerError (Option LayerData)
  | some path => (fileLayer fs path).map some
  | none => .ok none

/-- The configuration with the sources of a marker laid over it. -/
def load (fs : FileSystem) (vars : Environment) (m : Marker) (c : Configuration) :
    Except LayerError Configuration := do
  let defaults ← c.holding.plain.mapError (.serialize .json)
  let file ← markedFile fs m.filePath
  let merged ← mergeLayers (defaultLayer defaults) file (bind m.envPrefix defaults vars)
  let value ← (c.schema.read merged).mapError fun complaint => .gathering [complaint]
  return ⟨c.schema, .tree value, m⟩

/-- Initializes a configuration. -/
def init (fs : FileSystem) (vars : Environment) (options : List ConfigOption)
    (c : Configuration) : List Event × Except LayerError Configuration :=
  let m := c.marker.applyAll options
  ([layering m], c.load fs vars m)

/-! ## Echo -/

/-- Where an echo goes: at most so many bytes are taken, and the end may fail. -/
structure Sink where
  limit : Option Nat
  flushFails : Bool

namespace Sink

def accepts (s : Sink) (text : String) : Bool := s.limit.all fun n => text.utf8ByteSize ≤ n

def fullMessage : String := "writer is full"

/-- Ends a text that was taken. -/
def finish (s : Sink) (text : String) : Except LayerError String :=
  if s.flushFails then .error (.write "flush failed") else .ok text

/-- Takes a text in lines of its own. -/
def take (s : Sink) (text : String) : Except LayerError String :=
  if s.accepts text then s.finish text else .error (.write fullMessage)

end Sink

/-- Writes the configuration in a format. -/
def echo (format : Format) (sink : Sink) (c : Configuration) : Except LayerError String :=
  match format with
  | .json =>
    match c.holding.indented with
    | .error part =>
      .error (.serialize .json (if sink.accepts part then Holding.keyMessage else Sink.fullMessage))
    | .ok text =>
      if sink.accepts text then sink.take (text ++ "\n")
      else .error (.serialize .json Sink.fullMessage)
  | .yaml =>
    let text := c.holding.form.document
    if sink.accepts text then sink.finish text
    else .error (.serialize .yaml Sink.fullMessage)
  | .env => do
    let t ← c.holding.plain.mapError (.serialize .env)
    sink.take (String.join ((assignments c.marker.envPrefix t).map (· ++ "\n")))

end Configuration

end Overlay.Layer
