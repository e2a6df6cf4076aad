import Overlay.Decimal.Layout
import Overlay.Text.Quoted
import Overlay.Text.Ticked
import Overlay.Tree

/-!
# Values that do not fit

Why a value cannot be read into the place that a schema gives it.
-/

namespace Overlay.Layer

open Text (ticked)

/-- What a value is called in messages. -/
def described : Tree → String
  | .null => "unit"
  | .bool b => "bool " ++ (if b then "true" else "false")
  | .number (.unsigned n) => "unsigned int " ++ ticked (toString n)
  | .number (.signed i) => "signed int " ++ ticked (toString i)
  | .number (.float d) => "float " ++ ticked (Decimal.Layout.plain.write d)
  | .text s => "string " ++ Text.Quoted.encode s
  | .list _ => "sequence"
  | .dict _ => "map"

inductive Mismatch where
  /-- A value of the wrong kind. -/
  | kind (found : Tree) (expected : String)
  /-- A number outside its range. -/
  | range (found : Tree) (expected : String)
  | variant (found : String) (names : List String)
  | length (n : Nat) (expected : String)
  | missing (field : String)
  /-- A document that is no dictionary, in the words of its format. -/
  | document (text : String)

namespace Mismatch

/-- The names of variants in a message. -/
def oneOf : List String → String
  | [] => "there are no variants"
  | [a] => ticked a
  | [a, b] => ticked a ++ " or " ++ ticked b
  | names => "one of " ++ ", ".intercalate (names.map ticked)

def message : Mismatch → String
  | kind found expected => "invalid type: found " ++ described found ++ ", expected " ++ expected
  | range found expected => "invalid value " ++ described found ++ ", expected " ++ expected
  | variant found names =>
    "unknown variant: found " ++ ticked found ++ ", expected " ++ ticked (oneOf names)
  | length n expected => "invalid length " ++ toString n ++ ", expected " ++ expected
  | missing field => "missing field " ++ ticked field
  | document text => text

end Mismatch

/-- A mismatch and the path of keys to it. -/
structure Complaint where
  cause : Mismatch
  path : List String

namespace Complaint

/-- Parts of a key between dots, empty ones left out. -/
def keyParts (key : String) : List String := (splitDots [] key.toList).filter (!·.isEmpty)
where
  splitDots (part : List Char) : List Char → List String
    | [] => [String.ofList part.reverse]
    | c :: rest =>
      if c == '.' then String.ofList part.reverse :: splitDots [] rest
      else splitDots (c :: part) rest

/-- The complaint about a value under a key. -/
def under (key : String) (c : Complaint) : Complaint := { c with path := keyParts key ++ c.path }

end Complaint

end Overlay.Layer
