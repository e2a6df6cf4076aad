import Overlay.Decimal.Double

/-!
# Trees of values

Configuration data is a tree: null, truth values, numbers, text, lists, and dictionaries from text
to trees. A number remembers whether it came as an unsigned integer, a signed integer or a double,
because readers of typed values tell these apart.
-/

namespace Overlay

open Decimal (Double)

/-- A number and the form it came in. -/
inductive Number where
  | unsigned (n : Nat)
  | signed (i : Int)
  | float (d : Double)
  deriving DecidableEq

/-- A value. The entries of a dictionary keep their order. -/
inductive Tree where
  | null
  | bool (b : Bool)
  | number (n : Number)
  | text (s : String)
  | list (items : List Tree)
  | dict (entries : List (String × Tree))

namespace Tree

/-- The entries of a dictionary. -/
abbrev Entries := List (String × Tree)

/-- Looks a key up. -/
def find? (key : String) : Entries → Option Tree
  | [] => none
  | (k, v) :: rest => if k = key then some v else find? key rest

/-- Puts an entry at its place in the order of the keys, replacing one of the same key. -/
def insert (key : String) (value : Tree) : Entries → Entries
  | [] => [(key, value)]
  | (k, v) :: rest =>
    if k = key then (key, value) :: rest
    else if key < k then (key, value) :: (k, v) :: rest
    else (k, v) :: insert key value rest

/-- A dictionary in the order of its keys; of several entries of one key the last one counts. -/
def ofEntries (entries : Entries) : Tree :=
  .dict (entries.foldl (fun sorted e => insert e.1 e.2 sorted) [])

/-- An unsigned integer. -/
def nat (n : Nat) : Tree := .number (.unsigned n)

mutual

/-- The tree with the entries of all its dictionaries in the order of their keys. -/
def sorted : Tree → Tree
  | list items => .list (sortedAll items)
  | dict entries => ofEntries (sortedEntries entries)
  | t => t

def sortedAll : List Tree → List Tree
  | [] => []
  | t :: rest => sorted t :: sortedAll rest

def sortedEntries : Entries → Entries
  | [] => []
  | (k, v) :: rest => (k, sorted v) :: sortedEntries rest

end

mutual

/-- Merges a later tree over an earlier one: dictionaries entry by entry, anything else by the
later one alone. -/
def merge : (earlier later : Tree) → Tree
  | .dict old, .dict new => .dict (mergeEntries old new)
  | _, later => later

/-- Merges entries: those of the later dictionary over those of the earlier one. -/
def mergeEntries (old : Entries) : Entries → Entries
  | [] => old
  | (k, v) :: rest =>
    let merged := match find? k old with
      | some before => merge before v
      | none => v
    mergeEntries (insert k merged old) rest

end

end Tree

end Overlay
