import Overlay.Tree

/-!
# Tables under construction

A document defines its tables piece by piece. Whether a later piece may add to a table depends on
how the table came into being, so each one remembers that until the document is complete.
-/

namespace Overlay.Toml

/-- How a table came into being: by its own header, on the way of a longer header, or by a dotted
key. -/
inductive Origin where
  | header
  | implied
  | dotted
  deriving DecidableEq

/-- What a key stands for. An array of tables is open at its last table. -/
inductive Item where
  | value (tree : Tree)
  | table (origin : Origin) (entries : List (String × Item))
  | tables (earlier : List Tree) (last : List (String × Item))

abbrev Table := List (String × Item)

mutual

def Item.tree : Item → Tree
  | .value t => t
  | .table _ entries => Tree.ofEntries (Item.entryTrees entries)
  | .tables earlier last => .list (earlier ++ [Tree.ofEntries (Item.entryTrees last)])

def Item.entryTrees : List (String × Item) → Tree.Entries
  | [] => []
  | (k, i) :: rest => (k, i.tree) :: entryTrees rest

end

namespace Table

def tree (t : Table) : Tree := Tree.ofEntries (Item.entryTrees t)

/-- Changes what stands under a key, or adds it at the end. -/
def alter (key : String) (f : Option Item → Option Item) : Table → Option Table
  | [] => (f none).map fun item => [(key, item)]
  | (k, item) :: rest =>
    if k = key then (f (some item)).map fun item => (k, item) :: rest
    else (alter key f rest).map ((k, item) :: ·)

/-- A change of the table that an item is or is open at; a missing one is implied. -/
def inside (f : Table → Option Table) : Option Item → Option Item
  | none => (f []).map (.table .implied)
  | some (.table origin t) => (f t).map (.table origin)
  | some (.tables earlier t) => (f t).map (.tables earlier)
  | some (.value _) => none

/-- A change of the table at the end of a path. -/
def along : List String → (Table → Option Table) → Table → Option Table
  | [], f => f
  | k :: path, f => alter k (inside (along path f))

/-- Defines a table by its header; only an implied one may exist already. -/
def declare (key : String) : Table → Option Table :=
  alter key fun
    | none => some (.table .header [])
    | some (.table .implied t) => some (.table .header t)
    | _ => none

/-- Opens the next table of an array of tables. -/
def extend (key : String) : Table → Option Table :=
  alter key fun
    | none => some (.tables [] [])
    | some (.tables earlier last) => some (.tables (earlier ++ [tree last]) [])
    | _ => none

/-- Gives a value to a dotted key. No key gets two values, and a table with a header of its own is
not entered. -/
def assign : (path : List String) → Tree → Table → Option Table
  | [], _, _ => none
  | [k], v, t =>
    alter k (fun
      | none => some (.value v)
      | some _ => none) t
  | k :: path, v, t =>
    alter k (fun
      | none => (assign path v []).map (.table .dotted)
      | some (.table .header _) => none
      | some (.table origin inner) => (assign path v inner).map (.table origin)
      | _ => none) t

end Table

end Overlay.Toml
