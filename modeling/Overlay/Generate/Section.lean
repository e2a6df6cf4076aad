import Overlay.Generate.Failure
import Overlay.Text.Case

/-!
# Sections and the aggregate

Every resolved declaration becomes a section of the generated module. The aggregate has a marker
field and, for each section, a spacer and a field whose key is the snake case of the section's
name. Keys are unique, and a section cannot take a name that the module needs itself.
-/

namespace Overlay.Generate

open Source

/-- A field of a declaration. -/
structure DeclaredField where
  /-- The identifier as declared, with the mark of a raw one. -/
  ident : String
  /-- The identifier without that mark. -/
  name : String
  /-- The type as written. -/
  type : String
  /-- The attributes that are carried over. -/
  attributes : List String
  /-- The key, once it has been assigned. -/
  tag : Option String

/-- A declaration and the literal that gives its defaults. -/
structure Declaration where
  name : String
  /-- The module that declares it. -/
  module : String
  fields : List DeclaredField
  derivesDefault : Bool
  /-- The literal in the aggregation call. -/
  literal : Node
  /-- The file of the declaration. -/
  declaredIn : String
  /-- The file of the literal. -/
  literalSource : SourceFile

/-- A field of the aggregate that holds a section. -/
structure SectionField where
  ident : String
  tag : String
  typeName : String
  deriving DecidableEq

/-- A field of the aggregate, or a blank line in it. -/
inductive AggregateField where
  | marker
  | spacer
  | sectionField (field : SectionField)
  deriving DecidableEq

/-- The fields that hold sections. -/
def sectionFields (fields : List AggregateField) : List SectionField :=
  fields.filterMap fun
    | .sectionField f => some f
    | _ => none

namespace Section

/-- The name of the aggregate. -/
def aggregateName : String := "Config"

/-- The name of the marker field. -/
def markerName : String := "embedding"

/-- Words that have no raw form. -/
def unrawable : List String := ["crate", "self", "super", "Self", "_"]

/-- Whether a text is a name that can be written as it is. -/
def isPlainName (tag : String) : Bool :=
  match parseText (fun _ => Parser.name) tag.toList with
  | .ok _ => true
  | .error _ => false

/-- The identifier for a key: keywords are written raw. -/
def fieldIdent (tag : String) : String := if isPlainName tag then tag else "r#" ++ tag

/-- The keys of the fields of a declaration. -/
def tagFields (d : Declaration) : Declaration :=
  { d with fields := d.fields.map fun f => { f with tag := some (Text.Case.snakeCase f.name) } }

/-- The key of a section, or why it cannot have one. `claimed` holds the keys so far and the
sections they belong to. -/
def claim (claimed : List (String × String)) (name : String) : Except Failure String :=
  if name == aggregateName then .error (.reservedSectionName name)
  else
    let tag := Text.Case.snakeCase name
    if tag == markerName || unrawable.contains tag then .error (.reservedSectionName name)
    else match claimed.lookup tag with
      | some first => .error (.duplicateSection first name tag)
      | none => .ok tag

/-- Lays out the sections after those that have claimed their keys. A failure leaves the
declarations after the failing one without keys. -/
def layOut (claimed : List (String × String)) :
    List Declaration → List Declaration × Except Failure (List AggregateField)
  | [] => ([], .ok [])
  | d :: rest =>
    match claim claimed d.name with
    | .error f => (tagFields d :: rest, .error f)
    | .ok tag =>
      let (tagged, fields) := layOut ((tag, d.name) :: claimed) rest
      (tagFields d :: tagged,
        fields.map fun fields =>
          .spacer :: .sectionField ⟨fieldIdent tag, tag, d.name⟩ :: fields)

/-- The declarations with their keys, and the fields of the aggregate. -/
def synthesize (declarations : List Declaration) :
    List Declaration × Except Failure (List AggregateField) :=
  let (tagged, fields) := layOut [] declarations
  (tagged, fields.map (.marker :: ·))

end Section

end Overlay.Generate
