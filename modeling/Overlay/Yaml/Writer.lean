import Overlay.Decimal.Layout
import Overlay.Yaml.Scalar
import Overlay.Yaml.Style

/-!
# Writing YAML

Values are written in blocks: one entry or item on a line, two blanks for each level, and sequences
inside mappings at the column of their key. A key that is long, has line breaks or is no scalar is
announced by a question mark.
-/

namespace Overlay.Yaml

/-- A value to be written. Keys may be of any form. -/
inductive Form where
  | scalar (text : String) (wish : Style)
  | sequence (items : List Form)
  | mapping (entries : List (Form × Form))

namespace Form

/-- Doubles have a point or an exponent, without a sign if it is positive. -/
def doubleLayout : Decimal.Layout := ⟨some (-5), some 15, true, "", ".inf", "-.inf", ".nan"⟩

/-- The style for a text: what would be read as something else is quoted, and what has line breaks
is a block. -/
def textStyle (s : String) : Style :=
  if s.toList.contains '\n' then .literal
  else match Word.of s with
    | .text => if isZeroPadded s.toList then .single else .plain
    | _ => .single

def text (s : String) : Form := .scalar s (textStyle s)

def plain (s : String) : Form := .scalar s .plain

mutual

def ofTree : Tree → Form
  | .null => plain "null"
  | .bool b => plain (if b then "true" else "false")
  | .number (.unsigned n) => plain (toString n)
  | .number (.signed i) => plain (toString i)
  | .number (.float d) => plain (doubleLayout.write d)
  | .text s => text s
  | .list items => .sequence (ofTrees items)
  | .dict entries => .mapping (ofEntries entries)

def ofTrees : List Tree → List Form
  | [] => []
  | t :: rest => ofTree t :: ofTrees rest

def ofEntries : Tree.Entries → List (Form × Form)
  | [] => []
  | (k, v) :: rest => (text k, ofTree v) :: ofEntries rest

end

/-- The bytes that a key without question mark may have. -/
def keyLimit : Nat := 128

/-- Whether a key needs no question mark. -/
def isSimpleKey : Form → Bool
  | .scalar s _ => !isMultiline s.toList && s.utf8ByteSize ≤ keyLimit
  | .sequence items => items.isEmpty
  | .mapping entries => entries.isEmpty

def scalarText (indent : Nat) (s : String) (wish : Style) : String :=
  String.ofList ((wish.admitted s.toList).write indent s.toList)

def margin (indent : Nat) : String := String.ofList (pad indent)

mutual

/-- A form that starts at a column. -/
def write (indent : Nat) : Form → String
  | .scalar s wish => scalarText indent s wish
  | .sequence [] => "[]"
  | .sequence (item :: rest) => "- " ++ write (indent + 2) item ++ writeItems indent rest
  | .mapping [] => "\x7b\x7d"
  | .mapping (e :: rest) => writeEntry indent e ++ writeEntries indent rest

/-- Further items, each on a new line. -/
def writeItems (indent : Nat) : List Form → String
  | [] => ""
  | item :: rest =>
    "\n" ++ margin indent ++ "- " ++ write (indent + 2) item ++ writeItems indent rest

def writeEntry (indent : Nat) : Form × Form → String
  | (k, v) =>
    if isSimpleKey k then write (indent + 2) k ++ ":" ++ writeValue indent v
    else "? " ++ write (indent + 2) k ++ "\n" ++ margin indent ++ ": " ++ write (indent + 2) v

/-- Further entries, each on a new line. -/
def writeEntries (indent : Nat) : List (Form × Form) → String
  | [] => ""
  | e :: rest => "\n" ++ margin indent ++ writeEntry indent e ++ writeEntries indent rest

/-- What follows the colon after a simple key at a column. -/
def writeValue (indent : Nat) : Form → String
  | .scalar s wish => " " ++ scalarText (indent + 2) s wish
  | .sequence [] => " []"
  | .sequence (item :: rest) =>
    "\n" ++ margin indent ++ "- " ++ write (indent + 2) item ++ writeItems indent rest
  | .mapping [] => " \x7b\x7d"
  | .mapping (e :: rest) =>
    "\n" ++ margin (indent + 2) ++ writeEntry (indent + 2) e ++ writeEntries (indent + 2) rest

end

/-- A document. -/
def document (f : Form) : String :=
  (match f with
    | .scalar s wish => scalarText 2 s wish
    | _ => write 0 f) ++ "\n"

end Form

/-- The document of a tree. -/
def write (t : Tree) : String := (Form.ofTree t).document

end Overlay.Yaml
