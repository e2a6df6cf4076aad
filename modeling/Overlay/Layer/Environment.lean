import Overlay.Json.Reader
import Overlay.Json.Writer
import Overlay.Layer.Prefix

/-!
# The environment as a layer

A variable is bound to the path of keys that its name stands for. Its value is typed by the
defaults: where they hold text it stays text, elsewhere it is read as a truth value, a number or a
list if it can be. In the other direction, each leaf of a tree is one assignment.
-/

namespace Overlay.Layer

/-- The variables of a process, in order. -/
abbrev Environment := List (String × String)

/-- What the defaults say about a path. -/
inductive Slot where
  /-- The path cannot be bound: its first key is unknown, or it leads below a leaf. -/
  | closed
  /-- The defaults hold a value there. -/
  | held (t : Tree)
  /-- The defaults hold nothing there, but a dictionary around it. -/
  | free

/-- What the defaults say about the rest of a path, below a value. -/
def slotBelow : Tree → List String → Slot
  | t, [] => .held t
  | .dict es, key :: path =>
    match Tree.find? key es with
    | some t => slotBelow t path
    | none => .free
  | _, _ :: _ => .closed

/-- What the defaults say about a path. -/
def slot (defaults : Tree) : List String → Slot
  | [] => .closed
  | key :: path =>
    match defaults with
    | .dict es =>
      match Tree.find? key es with
      | some t => slotBelow t path
      | none => .closed
    | _ => .closed

/-- A raw text as a truth value, a number or a list if it is one, and as itself otherwise. -/
def untypedValue (raw : String) : Tree :=
  match Json.read? raw with
  | some (.bool b) => .bool b
  | some (.number n) => .number n
  | some (.list items) => .list items
  | _ => .text raw

/-- A raw text typed by what the defaults hold. -/
def typedValue (raw : String) : Slot → Option Tree
  | .closed => none
  | .held (.text _) => some (.text raw)
  | .held _ => some (untypedValue raw)
  | .free => some (untypedValue raw)

/-- Puts a value at a path. What is missing on the way becomes a dictionary, and so does what is
none. -/
def insertPath (value : Tree) : (path : List String) → Tree.Entries → Tree.Entries
  | [], es => es
  | [key], es => Tree.insert key value es
  | key :: path, es =>
    let inner := match Tree.find? key es with
      | some (.dict inner) => inner
      | _ => []
    Tree.insert key (.dict (insertPath value path inner)) es

/-- The path and value to which a variable is bound, if it is. -/
def binding? (envPrefix : Option String) (defaults : Tree) (assigned : String × String) :
    Option (List String × Tree) :=
  match afterPrefix? envPrefix assigned.1 with
  | none => none
  | some name =>
    let path := keyPath name
    if path.any (·.isEmpty) then none
    else (typedValue assigned.2 (slot defaults path)).map (path, ·)

/-- The entries that the variables give; of two that clash the later one counts. -/
def bind (envPrefix : Option String) (defaults : Tree) (vars : Environment) : Tree.Entries :=
  (vars.filterMap (binding? envPrefix defaults)).foldl (fun es b => insertPath b.2 b.1 es) []

/-! ## Assignments -/

/-- The text of a leaf. -/
def leafText : Tree → String
  | .null => ""
  | .text s => s
  | t => Json.compact t

/-- The assignment of a leaf. -/
def assignment (envPrefix : Option String) (path : List String) (leaf : Tree) : String :=
  withPrefix envPrefix (variableName path) ++ "=" ++ leafText leaf

mutual

/-- The leaves of a tree with their paths. A leaf at the top has no path and is left out. -/
def leaves (path : List String) : Tree → List (List String × Tree)
  | .dict es => entryLeaves path es
  | t => if path.isEmpty then [] else [(path, t)]

def entryLeaves (path : List String) : Tree.Entries → List (List String × Tree)
  | [] => []
  | (k, t) :: rest => leaves (path ++ [k]) t ++ entryLeaves path rest

end

/-- One assignment for each leaf of a tree. -/
def assignments (envPrefix : Option String) (t : Tree) : List String :=
  (leaves [] t).map fun (path, leaf) => assignment envPrefix path leaf

end Overlay.Layer
