import Overlay.Tree
import Overlay.Decimal.Layout

/-!
# Writing JSON

Compact and indented text of a tree. Doubles that are not finite are written as null.
-/

namespace Overlay.Json

open Decimal (Layout)

/-- Doubles have a point or an exponent; those below `10 ^ -5` and from `10 ^ 16` on have an
exponent with its sign. -/
def doubleLayout : Layout := ⟨some (-5), some 15, true, "+", "null", "null", "null"⟩

def hexDigit (n : Nat) : Char := (Nat.toDigits 16 n).headD '0'

/-- What stands for a character inside a string. -/
def escapeChar (c : Char) : List Char :=
  if c == '"' then ['\\', '"']
  else if c == '\\' then ['\\', '\\']
  else if c == '\n' then ['\\', 'n']
  else if c == '\r' then ['\\', 'r']
  else if c == '\t' then ['\\', 't']
  else if c.toNat == 8 then ['\\', 'b']
  else if c.toNat == 12 then ['\\', 'f']
  else if c.toNat < 32 then
    ['\\', 'u', '0', '0', hexDigit (c.toNat / 16), hexDigit (c.toNat % 16)]
  else [c]

def quote (s : String) : String :=
  String.ofList ('"' :: s.toList.flatMap escapeChar ++ ['"'])

def writeNumber : Number → String
  | .unsigned n => toString n
  | .signed i => toString i
  | .float d => doubleLayout.write d

mutual

/-- A tree without blanks. -/
def compact : Tree → String
  | .null => "null"
  | .bool b => if b then "true" else "false"
  | .number n => writeNumber n
  | .text s => quote s
  | .list items => "[" ++ ",".intercalate (compactAll items) ++ "]"
  | .dict entries => "\x7b" ++ ",".intercalate (compactEntries entries) ++ "\x7d"

def compactAll : List Tree → List String
  | [] => []
  | t :: rest => compact t :: compactAll rest

def compactEntries : Tree.Entries → List String
  | [] => []
  | (k, v) :: rest => (quote k ++ ":" ++ compact v) :: compactEntries rest

end

/-- The start of a line at a level of nesting. -/
def margin (level : Nat) : String := String.ofList (List.replicate (2 * level) ' ')

mutual

/-- A tree with one element on a line, two blanks for each level. -/
def indented (level : Nat) : Tree → String
  | .list [] => "[]"
  | .dict [] => "\x7b\x7d"
  | .list items =>
    "[\n" ++ ",\n".intercalate (indentedAll (level + 1) items) ++ "\n" ++ margin level ++ "]"
  | .dict entries =>
    "\x7b\n" ++ ",\n".intercalate (indentedEntries (level + 1) entries) ++ "\n" ++ margin level
      ++ "\x7d"
  | t => compact t

def indentedAll (level : Nat) : List Tree → List String
  | [] => []
  | t :: rest => (margin level ++ indented level t) :: indentedAll level rest

def indentedEntries (level : Nat) : Tree.Entries → List String
  | [] => []
  | (k, v) :: rest =>
    (margin level ++ quote k ++ ": " ++ indented level v) :: indentedEntries level rest

end

end Overlay.Json
