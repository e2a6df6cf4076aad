import Overlay.Generate.ImportTable
import Overlay.Generate.Script
import Overlay.Generate.Section

/-!
# Resolution of arguments

Each argument of the aggregation call should be a literal of a structure whose declaration can be
found: in the local module, through an import, or along a path. An argument for which none is found
is skipped with a reason.
-/

namespace Overlay.Generate

open Source
open Files (FileSystem)

namespace Resolution

def target : String := "cargo_layercfg::resolve"

/-! ## Declarations -/

/-- Whether an item is a structure with named fields and without parameters. -/
def isStructShaped (item : Node) : Bool :=
  match item.role with
  | .structDecl _ false .named => true
  | _ => false

/-- Whether a token is a word. -/
def isWordToken (word : String) : Token → Bool
  | .ident text _ => text == word
  | _ => false

/-- Whether an attribute is carried over: documentation, conditions, and settings of the serializer
unless they rename. -/
def isCarried (a : Node) : Bool :=
  if Script.hasPath "doc" a || Script.hasPath "cfg" a then true
  else if Script.hasPath "serde" a then
    match a.role with
    | .attribute _ _ _ (.list _ body) => !body.any (isWordToken "rename")
    | _ => true
  else false

/-- The last segments of the paths between commas that some tokens are. -/
def lastSegments? (closing : Span) (body : List Token) : Option (List String) :=
  match parseTokens (fun g => Parser.commaList (Grammar.path g false)) closing.start body with
  | .ok paths => some (paths.filterMap fun p => p.segments.getLast?)
  | .error _ => none

/-- Whether an attribute derives the trait of defaults. -/
def derivesDefault (a : Node) : Bool :=
  Script.hasPath "derive" a &&
    match a.role with
    | .attribute _ _ _ (.list closing body) =>
      (lastSegments? closing body).any (·.contains "Default")
    | _ => false

/-- A field of a declaration. -/
def declaredField? (source : SourceFile) (field : Node) : Option DeclaredField :=
  match field.role, field.lastChild? with
  | .field (some ident), some type =>
    some
      { ident
        name := unraw ident
        type := source.snippet type
        attributes := (field.attributes.filter isCarried).map source.snippet
        tag := none }
  | _, _ => none

/-! ## Paths -/

/-- What a lookup came to. -/
inductive Lookup where
  | found (m : Module)
  | skip (reason : SkipReason)

/-- A name without a path: local declarations come before imports. Gives the module and the name of
the declaration in it. -/
def unqualified (here : Module) (imports : ImportTable) (name : String) :
    Except SkipReason (Module × String) :=
  if (here.declaration? name).isSome then .ok (here, name)
  else match imports.get? name with
    | some (.item m item) => .ok (m, item)
    | _ => .error (.declarationNotFound name)

/-- The module of a crate by its name. -/
def crateLookup (fs : FileSystem) (first : String) : Explore Lookup := do
  match ← CrateGraph.crateRoot fs first with
  | some (.readable m) => return .found m
  | some .sealed => return .skip (.declarationNotFound first)
  | none => return .skip (.unknownAlias first)

/-- The module that the first segment of a path names. -/
def aliasRoot (fs : FileSystem) (imports : ImportTable) (first : String) : Explore Lookup := do
  if first == CrateGraph.selfName then crateLookup fs first
  else match imports.get? first with
    | some (.module m) => return .found m
    | some (.item m name) =>
      match ← CrateGraph.child fs m name with
      | some found => return .found found
      | none => return .skip (.declarationNotFound first)
    | some .sealed => return .skip (.declarationNotFound first)
    | none => crateLookup fs first

/-- The module that segments inside a module name. -/
def below (fs : FileSystem) (written : String) (root : Module) (segments : List String) :
    Explore Lookup := do
  match ← Import.descend fs root segments with
  | some m => return .found m
  | none => return .skip (.declarationNotFound written)

/-- The module that the segments before the last one name. -/
def qualified (fs : FileSystem) (here : Module) (imports : ImportTable) (written : String)
    (qualifier : List String) : Explore Lookup := do
  match qualifier with
  | [] => return .found here
  | first :: rest =>
    if isLocalSegment first then below fs written here (qualifier.dropWhile isLocalSegment)
    else match ← aliasRoot fs imports first with
      | .found m => below fs written m rest
      | .skip reason => return .skip reason

/-- The module of a literal's declaration and the declared name. -/
def locate (fs : FileSystem) (here : Module) (imports : ImportTable) (written : String)
    (qualifier : List String) (name : String) : Explore (Except SkipReason (Module × String)) := do
  if qualifier.isEmpty then return unqualified here imports name
  match ← qualified fs here imports written qualifier with
  | .found m => return .ok (m, name)
  | .skip reason => return .error reason

/-! ## Arguments -/

/-- The literal that an argument is, or refers to. -/
def literal? (argument : Node) : Option (Node × List String) :=
  let expr := match argument.role with
    | .borrow => argument.parts.head?.getD argument
    | _ => argument
  match expr.role with
  | .record segments => some (expr, segments)
  | _ => none

/-- The declaration of a name in a module, for a literal. -/
def declare (script : SourceFile) (literal : Node) (written : String) (m : Module)
    (name : String) : Except SkipReason Declaration :=
  match m.declaration? name with
  | none => .error (.declarationNotFound written)
  | some (source, item) =>
    if isStructShaped item then
      .ok
        { name
          module := m.name
          fields := item.parts.filterMap (declaredField? source)
          derivesDefault := item.attributes.any derivesDefault
          literal
          declaredIn := source.path
          literalSource := script }
    else .error (.notStructShaped written)

/-- Resolves one argument. -/
def resolve (fs : FileSystem) (script : SourceFile) (here : Module) (imports : ImportTable)
    (argument : Node) : Explore (Except SkipReason Declaration) := do
  match literal? argument with
  | none => return .error .notStructLiteral
  | some (literal, segments) =>
    match segments.getLast? with
    | none => return .error .notStructLiteral
    | some name =>
      let written := FlatImport.path segments
      match ← locate fs here imports written segments.dropLast name with
      | .error reason => return .error reason
      | .ok (m, declared) => return declare script literal written m declared

/-- The report about a skipped argument. -/
def skipping (s : Skipped) : Event :=
  ⟨.warn, target, "skipping build_configs argument",
    [("index", toString s.index), ("reason", s.reason.message)]⟩

/-- Resolves the arguments in order: the declarations, and the arguments left out. -/
def resolveAll (fs : FileSystem) (script : SourceFile) (here : Module) (imports : ImportTable) :
    List Script.Argument → Explore (List Declaration × List Skipped)
  | [] => return ([], [])
  | a :: rest => do
    match ← resolve fs script here imports a.expr with
    | .ok d =>
      let (declarations, skipped) ← resolveAll fs script here imports rest
      return (d :: declarations, skipped)
    | .error reason =>
      let s : Skipped := ⟨a.index, reason⟩
      Explore.report (skipping s)
      let (declarations, skipped) ← resolveAll fs script here imports rest
      return (declarations, s :: skipped)

end Resolution

end Overlay.Generate
