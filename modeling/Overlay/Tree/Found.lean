import Overlay.Decimal.Layout
import Overlay.Text.Quoted
import Overlay.Text.Ticked
import Overlay.Tree

/-!
# What was found

Readers that find a value of the wrong kind say what they found. Formats differ in the word for null
and in the layout of doubles.
-/

namespace Overlay.Tree

open Decimal (Layout)
open Text (ticked)

/-- What a value is called in messages. -/
def found (nullWord : String) (double : Layout) : Tree → String
  | .null => nullWord
  | .bool b => "boolean " ++ ticked (if b then "true" else "false")
  | .number (.float d) => "floating point " ++ ticked (double.write d)
  | .number (.unsigned n) => "integer " ++ ticked (toString n)
  | .number (.signed i) => "integer " ++ ticked (toString i)
  | .text s => "string " ++ Text.Quoted.encode s
  | .list _ => "sequence"
  | .dict _ => "map"

end Overlay.Tree
