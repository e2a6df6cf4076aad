import Overlay.Generate.Report

/-!
# Build scripts

A build script is a source file behind a gate. Its entry point is the first function called `main`
on a walk through the file, and the last aggregation call among the statements of that function
lists the sections. All imports of the script name what the arguments of the call refer to; those
at the top level are copied into the generated module.
-/

namespace Overlay.Generate

open Source

/-- The name of the file of a build script. -/
def scriptName : String := "config.rs"

/-- The name of the file of a generated module. -/
def outputName : String := "config_gen.rs"

/-- The condition behind which a build script stands. -/
def gate : String := "layercfg"

/-- The name of the function that holds the aggregation call. -/
def entryPoint : String := "main"

/-- The last segment of the path of the aggregation call. -/
def aggregationName : String := "build_configs"

namespace Script

/-! ## The gate -/

/-- Whether an attribute has exactly this path of one segment. -/
def hasPath (name : String) (n : Node) : Bool :=
  match n.role with
  | .attribute _ false [segment] _ => segment == name
  | _ => false

/-- Whether an attribute of the file is the gate: the name of the condition and nothing else. -/
def isGate (n : Node) : Bool :=
  match n.role with
  | .attribute true false ["cfg"] (.list _ [.ident text _]) => text == gate
  | _ => false

/-- Whether some tail of the characters starts with the word. -/
def containsWord (word : List Char) : List Char → Bool
  | [] => word.isEmpty
  | c :: rest => word.isPrefixOf (c :: rest) || containsWord word rest

/-- Whether a text is gated. A text that cannot be read counts by its characters, so that its
faults are reported and not the lack of a script. -/
def isGated (text : String) : Bool :=
  match parseFile text with
  | .ok file => file.attributes.any isGate
  | .error _ =>
    containsWord ("#![cfg(" ++ gate ++ ")]").toList (text.toList.filter (!Text.isBlank ·))

/-! ## The aggregation call -/

/-- One argument of the aggregation call and its place in the call. -/
structure Argument where
  index : Nat
  expr : Node

/-- What a script declares. -/
structure Extraction where
  /-- All imports of the script, in the order of the walk. -/
  imports : List Node
  /-- The imports at the top level of the script. -/
  topLevelImports : List Node
  /-- The arguments of the last aggregation call. -/
  arguments : List Argument

/-- An aggregation call, either of a function or of a macro. -/
inductive Call where
  | function (arguments : List Node)
  | macroCall (call : MacroCall)

/-- A path of at least two segments that ends in the name of the call. -/
def isAggregationPath (segments : List String) : Bool :=
  2 ≤ segments.length && segments.getLast? == some aggregationName

/-- The aggregation call that an expression is. -/
def callOf? (e : Node) : Option Call :=
  match e.role, e.parts with
  | .call, callee :: arguments =>
    match callee.role with
    | .path _ segments => if isAggregationPath segments then some (.function arguments) else none
    | _ => none
  | .macroCall call, _ => if isAggregationPath call.path then some (.macroCall call) else none
  | _, _ => none

/-- The aggregation call that a statement is; calls inside of other expressions do not count. -/
def statementCall? (s : Node) : Option Call :=
  match s.role with
  | .statement => s.parts.head?.bind callOf?
  | _ => none

def isEntryPoint (n : Node) : Bool :=
  match n.role with
  | .functionDecl name => name == entryPoint
  | _ => false

def isImport (n : Node) : Bool :=
  match n.role with
  | .useDecl _ => true
  | _ => false

/-- The statements of a function. -/
def statements (function : Node) : List Node :=
  match function.lastChild? with
  | some body => body.children
  | none => []

/-- All nodes of a file, in the order of the walk. -/
def allNodes (file : File) : List Node := Node.walkAll (file.attributes ++ file.items)

/-- The arguments of a call. -/
def Call.arguments (path : String) : Call → Except Failure (List Node)
  | .function arguments => .ok arguments
  | .macroCall call => call.arguments.mapError fun f => .diagnostics [f.diagnostic path]

def target : String := "cargo_layercfg::extract"

/-- The extraction with the given arguments. -/
def Extraction.of (file : File) (arguments : List Node) : Extraction :=
  { imports := (allNodes file).filter isImport
    topLevelImports := file.items.filter isImport
    arguments := arguments.mapIdx fun i e => ⟨i, e⟩ }

/-- What a script declares, and what is to be reported about it. -/
def extract (script : SourceFile) : Reported Extraction :=
  let file := script.tree
  let note (message : String) : Event := ⟨.debug, target, message, [("path", script.path)]⟩
  match (allNodes file).find? isEntryPoint with
  | none => ([note "build script has no entry point"], .ok (.of file []))
  | some entry =>
    if (statements entry).isEmpty then ([], .error (.invalidEntryPoint script.path))
    else match (statements entry).reverse.findSome? statementCall? with
      | none => ([note "entry point makes no aggregation call"], .ok (.of file []))
      | some call => ([], (call.arguments script.path).map (.of file))

end Script

end Overlay.Generate
