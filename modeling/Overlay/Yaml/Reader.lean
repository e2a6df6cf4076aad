import Overlay.Json.Writer
import Overlay.Tree.Found
import Overlay.Yaml.Node
import Overlay.Yaml.Scalar

/-!
# Reading YAML

A document is read as a dictionary. Keys are the texts of their scalars; a value with a local tag is
a dictionary with the tag as its one key. A text that is no document, repeats a key or has a value
that its tag does not fit is malformed; a document that is well formed but has no dictionary at its
top, or a key that is no scalar, is unsuitable.
-/

namespace Overlay.Yaml

/-- A document that is no dictionary with scalar keys: what was found, and where. -/
structure Unsuitable where
  path : List String
  message : String
  mark : Mark

namespace Unsuitable

/-- The message, the path of keys before it and the place after it. -/
def text (u : Unsuitable) : String :=
  (if u.path.isEmpty then "" else ".".intercalate u.path ++ ": ") ++ u.message ++ u.mark.suffix

end Unsuitable

/-- The name of a local tag. -/
def localTag? (tag : Option String) : Option String :=
  match tag.map String.toList with
  | some ('!' :: rest) => some (String.ofList (if rest.isEmpty then ['!'] else rest))
  | _ => none

def coreTag (name : String) : String := "tag:yaml.org,2002:" ++ name

/-- A plain word as a value. -/
def wordTree? (s : String) : Option Tree :=
  match Word.of s with
  | .null => some .null
  | .bool b => some (.bool b)
  | .number n => some (.number n)
  | .text => some (.text s)
  | .oversized => none

/-- A scalar as a value; `none` if it does not fit its tag. -/
def scalarTree? (tag : Option String) (s : String) (plain : Bool) : Option Tree :=
  match tag with
  | none => if plain then wordTree? s else some (.text s)
  | some t =>
    if t == coreTag "bool" then (boolWord? s).map .bool
    else if t == coreTag "int" then
      match (integer? s.toList).bind (integerWord? (s.toList.head? == some '-')) with
      | some (.number n) => some (.number n)
      | _ => none
    else if t == coreTag "float" then (double? s).map fun d => .number (.float d)
    else if t == coreTag "null" then if isNullWord s then some .null else none
    else some (.text s)

/-- A value under its local tag. -/
def tagged (tag : Option String) (t : Tree) : Tree :=
  match localTag? tag with
  | some name => .dict [(name, t)]
  | none => t

/-- The tag that a scalar is read by: a local one says nothing about its form. -/
def formTag (tag : Option String) : Option String :=
  if (localTag? tag).isSome then none else tag

mutual

/-- The value of any node. Keys that are no scalars count by their written form. -/
def Node.tree? : Node → Option Tree
  | .scalar _ tag s plain => (scalarTree? (formTag tag) s plain).map (tagged tag)
  | .sequence _ tag items => (Node.trees? items).map fun ts => tagged tag (.list ts)
  | .mapping _ tag entries => (Node.entryTrees? [] entries).map fun es =>
    tagged tag (Tree.ofEntries es)

def Node.trees? : List Node → Option (List Tree)
  | [] => some []
  | n :: rest => do return (← n.tree?) :: (← Node.trees? rest)

/-- Values of entries under the written forms of their keys, none of which may repeat. -/
def Node.entryTrees? (seen : List String) : List (Node × Node) → Option Tree.Entries
  | [] => some []
  | (k, v) :: rest => do
    let key := Json.compact (← k.tree?)
    if seen.contains key then none
    let tree ← v.tree?
    return (key, tree) :: (← Node.entryTrees? (key :: seen) rest)

end

/-- Doubles in messages: all digits and always a point. -/
def foundLayout : Decimal.Layout := { Decimal.Layout.plain with wholePoint := true }

/-- What a node is called in messages. -/
def Node.found : Node → String
  | .sequence .. => "sequence"
  | .mapping .. => "map"
  | .scalar _ tag s plain =>
    ((scalarTree? (formTag tag) s plain).getD (.text s)).found "unit value" foundLayout

mutual

/-- The value of a node whose keys have to be scalars. -/
def Node.value (path : List String) : Node → Except Unsuitable Tree
  | .scalar _ tag s plain =>
    .ok (tagged tag ((scalarTree? (formTag tag) s plain).getD .null))
  | .sequence _ tag items => do return tagged tag (.list (← Node.values path 0 items))
  | .mapping _ tag entries => do
    return tagged tag (Tree.ofEntries (← Node.entryValues path entries))

def Node.values (path : List String) (index : Nat) : List Node → Except Unsuitable (List Tree)
  | [] => .ok []
  | n :: rest => do
    let inner := path.dropLast ++ [path.getLastD "." ++ "[" ++ toString index ++ "]"]
    return (← n.value inner) :: (← Node.values path (index + 1) rest)

def Node.entryValues (path : List String) : List (Node × Node) → Except Unsuitable Tree.Entries
  | [] => .ok []
  | (.scalar _ _ key _, v) :: rest => do
    return (key, ← v.value (path ++ [key])) :: (← Node.entryValues path rest)
  | (.sequence mark .., _) :: _ =>
    .error ⟨path, "invalid type: sequence, expected a string", mark⟩
  | (.mapping mark .., _) :: _ => .error ⟨path, "invalid type: map, expected a string", mark⟩

end

/-- The levels that a document may have. -/
def depthLimit : Nat := 128

mutual

def Node.depth : Node → Nat
  | .scalar .. => 0
  | .sequence _ _ items => Node.depthOf items + 1
  | .mapping _ _ entries => Node.entryDepth entries + 1

def Node.depthOf : List Node → Nat
  | [] => 0
  | n :: rest => max n.depth (Node.depthOf rest)

def Node.entryDepth : List (Node × Node) → Nat
  | [] => 0
  | (k, v) :: rest => max (max k.depth v.depth) (Node.entryDepth rest)

end

/-- The dictionary of a document; an empty one has no entries. -/
def Node.dictionary (n : Node) : Except Unsuitable Tree :=
  match n with
  | .mapping _ _ entries => do return Tree.ofEntries (← Node.entryValues [] entries)
  | .scalar mark _ s _ =>
    if s.isEmpty then .ok (.dict [])
    else .error ⟨[], "invalid type: " ++ n.found ++ ", expected a map", mark⟩
  | .sequence mark .. => .error ⟨[], "invalid type: sequence, expected a map", mark⟩

/-- Reads a text: `none` if it is malformed. -/
def read? (text : String) : Option (Except Unsuitable Tree) :=
  match Node.ofText? text with
  | none => none
  | some none => some (.ok (.dict []))
  | some (some n) =>
    if n.tree?.isSome && n.depth ≤ depthLimit then some n.dictionary else none

end Overlay.Yaml
