import Overlay.Tree

/-!
# Plain values

A tree of plain values tells numbers apart by their values alone, not by the form they came in.
-/

namespace Overlay.Tree

mutual

/-- The tree as a document of plain values: whole numbers that are not negative are unsigned, and
doubles that are not finite are null. -/
def plainValue : Tree → Tree
  | .number (.signed i) => if 0 ≤ i then .number (.unsigned i.toNat) else .number (.signed i)
  | .number (.float d) => if d.isFinite then .number (.float d) else .null
  | .list items => .list (plainValues items)
  | .dict entries => Tree.ofEntries (plainEntries entries)
  | t => t

def plainValues : List Tree → List Tree
  | [] => []
  | t :: rest => plainValue t :: plainValues rest

def plainEntries : Tree.Entries → Tree.Entries
  | [] => []
  | (k, v) :: rest => (k, plainValue v) :: plainEntries rest

end

end Overlay.Tree
