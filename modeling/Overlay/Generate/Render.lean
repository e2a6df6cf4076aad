import Overlay.Generate.Script
import Overlay.Generate.Section

/-!
# The text of the generated module

Types, defaults and imports are copied as they were written, so the text is put together from
snippets and fixed lines. Every function here gives lines; the text is their concatenation, each
with a line feed.
-/

namespace Overlay.Generate.Render

open Source Section

/-- The path of the library that the generated module uses. -/
def library : String := "::layercfg"

/-- The path of the library that derives reading and writing. -/
def serialization : String := "::serde"

def defaultCall : String := "::core::default::Default::default()"

/-- The version in the first line. -/
def version : String := "0.1.0"

/-- What the text is made from. -/
structure Input where
  /-- The path of the script below the package. -/
  sourceLabel : String
  /-- The name of the generated module. -/
  module : String
  script : SourceFile
  /-- The imports to copy. -/
  imports : List Node
  declarations : List Declaration
  aggregate : List AggregateField

/-- Curly braces around a text. -/
def inBraces (s : String) : String := "\x7b" ++ s ++ "\x7d"

/-- A text that ends by opening a brace. -/
def openBrace (s : String) : String := s ++ " \x7b"

def header (input : Input) : List String :=
  ["// Code generated by cargo-layercfg " ++ version ++ ": DO NOT EDIT.",
   "// source: " ++ input.sourceLabel,
   "// module: " ++ input.module,
   "#![cfg(not(layercfg))]",
   "#![allow(unused_imports)]"]

def imports (input : Input) : List String :=
  if input.imports.isEmpty then [] else "" :: input.imports.map input.script.snippet

/-- The lines of one field of a section. -/
def sectionField (f : DeclaredField) : List String :=
  f.attributes.map ("        " ++ ·) ++
  ["        #[serde(rename = \"" ++ f.tag.getD f.name ++ "\")]",
   "        pub " ++ f.ident ++ ": " ++ f.type ++ ","]

/-- The lines of one section. -/
def sectionStruct (d : Declaration) : List String :=
  let default := if d.derivesDefault then " Default," else ""
  ["",
   "    /// Copy of `" ++ d.module ++ "::" ++ d.name ++ "`.",
   "    #[derive(Debug, Clone," ++ default ++ " " ++ serialization ++ "::Deserialize, "
     ++ serialization ++ "::Serialize)]"] ++
  if d.fields.isEmpty then ["    pub struct " ++ d.name ++ " " ++ inBraces ""]
  else
    openBrace ("    pub struct " ++ d.name) :: d.fields.flatMap sectionField ++ ["    \x7d"]

def sections (declarations : List Declaration) : List String :=
  if declarations.isEmpty then []
  else
    ["",
     "/// Sections merged into [`" ++ aggregateName ++ "`].",
     openBrace "pub mod sections",
     "    use super::*;"] ++ declarations.flatMap sectionStruct ++ ["\x7d"]

/-- The lines of one field of the aggregate. -/
def aggregateField : AggregateField → List String
  | .marker =>
    ["    /// Layer sources applied by `" ++ aggregateName ++ "::new`.",
     "    #[serde(skip)]",
     "    pub " ++ markerName ++ ": " ++ library ++ "::Embedding,"]
  | .spacer => [""]
  | .sectionField f =>
    ["    /// The `" ++ f.typeName ++ "` section.",
     "    #[serde(rename = \"" ++ f.tag ++ "\")]",
     "    pub " ++ f.ident ++ ": sections::" ++ f.typeName ++ ","]

def aggregate (fields : List AggregateField) : List String :=
  ["",
   "/// Configuration assembled from the sections declared in `" ++ scriptName ++ "`.",
   "#[derive(Debug, Clone, " ++ serialization ++ "::Deserialize, " ++ serialization
     ++ "::Serialize)]",
   openBrace ("pub struct " ++ aggregateName)] ++ fields.flatMap aggregateField ++ ["\x7d"]

/-! ## Defaults -/

/-- The fields of a structure literal. -/
def literalFields (literal : Node) : List Node :=
  literal.parts.filter fun n =>
    match n.role with
    | .fieldValue => true
    | _ => false

/-- The base of a structure literal. -/
def literalBase? (literal : Node) : Option Node :=
  literal.parts.findSome? fun n =>
    match n.role with
    | .base => n.children.head?
    | _ => none

/-- Whether an expression is the default of a named type: `Type::default()` or a call through a
qualified path. Such a call names the declared type and not its copy. -/
def isTypeDefaultCall (e : Node) : Bool :=
  match e.role, e.parts with
  | .call, [callee] =>
    match callee.role with
    | .path qualified segments =>
      match segments.reverse with
      | last :: before =>
        last == "default" && (qualified || before.head?.any (· != "Default"))
      | [] => false
    | _ => false
  | _, _ => false

/-- What fills the fields that a literal does not give. -/
def base? (d : Declaration) : Option String :=
  match literalBase? d.literal with
  | some base =>
    some (".." ++ if isTypeDefaultCall base then defaultCall else d.literalSource.snippet base)
  | none =>
    if d.derivesDefault && (literalFields d.literal).length < d.fields.length then
      some (".." ++ defaultCall)
    else none

/-- The default of one section: the literal of the call. -/
def initializer (ident : String) (d : Declaration) : List String :=
  let fields := literalFields d.literal
  let base := base? d
  let head := "            " ++ ident ++ ": sections::" ++ d.name
  if fields.isEmpty && base.isNone then [head ++ " " ++ inBraces "" ++ ","]
  else
    openBrace head :: fields.map (fun f => "                " ++ d.literalSource.snippet f ++ ",")
      ++ (base.map ("                " ++ ·)).toList ++ ["            \x7d,"]

def initializers (input : Input) : List String :=
  ((sectionFields input.aggregate).zip input.declarations).flatMap fun (f, d) =>
    initializer f.ident d

def implementations (input : Input) : List String :=
  ["",
   openBrace ("impl " ++ library ++ "::Embedded for " ++ aggregateName),
   openBrace ("    fn embedding(&self) -> &" ++ library ++ "::Embedding"),
   "        &self." ++ markerName,
   "    \x7d",
   "",
   openBrace ("    fn embedding_mut(&mut self) -> &mut " ++ library ++ "::Embedding"),
   "        &mut self." ++ markerName,
   "    \x7d",
   "\x7d",
   "",
   openBrace ("impl " ++ aggregateName),
   "    /// Builds the configuration from its defaults, then the layers selected",
   "    /// by `opts`.",
   "    ///",
   "    /// # Errors",
   "    ///",
   "    /// Returns `LayerError` when a layer cannot be read or merged.",
   "    pub fn new<I>(opts: I) -> ::core::result::Result<Self, " ++ library ++ "::LayerError>",
   "    where",
   "        I: ::core::iter::IntoIterator<Item = " ++ library ++ "::ConfigOption>,",
   "    \x7b",
   "        let mut config = Self::new_default();",
   "        " ++ library ++ "::Embedding::init(&mut config, opts)?;",
   "        ::core::result::Result::Ok(config)",
   "    \x7d",
   "",
   "    /// Returns the defaults written in `" ++ scriptName ++ "`.",
   "    #[must_use]",
   openBrace "    pub fn new_default() -> Self",
   openBrace "        Self",
   "            " ++ markerName ++ ": " ++ library ++ "::Embedding::default(),"] ++
  initializers input ++
  ["        \x7d",
   "    \x7d",
   "\x7d",
   "",
   openBrace ("impl ::core::default::Default for " ++ aggregateName),
   openBrace "    fn default() -> Self",
   "        Self::new_default()",
   "    \x7d",
   "\x7d"]

/-- All lines of the generated module. -/
def lines (input : Input) : List String :=
  header input ++ imports input ++ sections input.declarations ++ aggregate input.aggregate
    ++ implementations input

/-- The text of the generated module. -/
def text (input : Input) : String := String.join ((lines input).map (· ++ "\n"))

end Overlay.Generate.Render
