import Overlay.Text.Printable

/-!
# Quoted text

Text between double quotes in which every character can be read off: quotes and backslashes are
escaped, controls and invisible characters are shown by letter or by number, and a mark is shown by
number so that it does not join its neighbour.
-/

namespace Overlay.Text.Quoted

/-- Lower-case hexadecimal digits, without leading zeros. -/
def hex (n : Nat) : String := String.ofList (Nat.toDigits 16 n)

def numbered (c : Char) : List Char :=
  ("\\u\x7b" ++ hex c.toNat ++ "\x7d").toList

/-- What stands for `c` between the quotes. -/
def encodeChar (c : Char) : List Char :=
  if c == '"' then ['\\', '"']
  else if c == '\\' then ['\\', '\\']
  else if c == '\n' then ['\\', 'n']
  else if c == '\r' then ['\\', 'r']
  else if c == '\t' then ['\\', 't']
  else if c.toNat == 0 then ['\\', '0']
  else if isPrintable c && !isExtend c then [c]
  else numbered c

/-- The text between quotes. -/
def encode (s : String) : String :=
  String.ofList ('"' :: s.toList.flatMap encodeChar ++ ['"'])

end Overlay.Text.Quoted
