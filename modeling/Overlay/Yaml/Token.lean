/-!
# Tokens of YAML

The marks of structure that are written (dashes, colons, brackets) and those that indentation
implies (starts and ends of blocks).
-/

namespace Overlay.Yaml

/-- A place in a text, counted from zero in characters. -/
structure Mark where
  index : Nat
  line : Nat
  column : Nat
  deriving DecidableEq

namespace Mark

def start : Mark := ⟨0, 0, 0⟩

/-- The place as it is shown, counted from one; the very start is not shown. -/
def suffix (m : Mark) : String :=
  if m.line = 0 && m.column = 0 then ""
  else " at line " ++ toString (m.line + 1) ++ " column " ++ toString (m.column + 1)

end Mark

inductive TokenKind where
  | streamEnd
  | version (major minor : Nat)
  | tagHandle (handle stem : String)
  | documentStart
  | documentEnd
  | sequenceStart
  | mappingStart
  | blockEnd
  | listOpen
  | listClose
  | dictOpen
  | dictClose
  | entry
  | comma
  | key
  | value
  | reference (name : String)
  | anchor (name : String)
  | tag (handle suffix : String)
  /-- Plain scalars are those without quotes and block marks. -/
  | scalar (text : String) (plain : Bool)
  deriving DecidableEq

structure Token where
  kind : TokenKind
  mark : Mark

end Overlay.Yaml
