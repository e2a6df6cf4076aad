import Overlay.Text.Digit
import Overlay.Tree

/-!
# Reading JSON

A text is read as one tree. Of several entries of one key the last one counts, and entries are kept
in the order of their keys. Integers that fit 64 bits stay integers, other numbers are doubles, and
a number beyond the doubles is refused, as is nesting of 128 and more levels.
-/

namespace Overlay.Json

open Decimal (Double)

def isBlank (c : Char) : Bool := c == ' ' || c == '\n' || c == '\t' || c == '\r'

def skipBlank (cs : List Char) : List Char := cs.dropWhile isBlank

/-! ## Strings -/

/-- The value of four hexadecimal digits. -/
def hex4? (digits : List Char) : Option Nat :=
  if digits.length = 4 then Text.valueOf? 16 digits else none

def simpleEscape? (c : Char) : Option Char :=
  if c == '"' || c == '\\' || c == '/' then some c
  else if c == 'b' then some (Char.ofNat 8)
  else if c == 'f' then some (Char.ofNat 12)
  else if c == 'n' then some '\n'
  else if c == 'r' then some '\r'
  else if c == 't' then some '\t'
  else none

/-- One escape after its backslash: the character, and the number of characters it took. -/
def escape? : List Char → Option (Char × Nat)
  | 'u' :: a :: b :: c :: d :: rest =>
    match hex4? [a, b, c, d] with
    | none => none
    | some hi =>
      if hi < 0xD800 || 0xE000 ≤ hi then some (Char.ofNat hi, 5)
      else if 0xDC00 ≤ hi then none
      else match rest with
        | '\\' :: 'u' :: e :: f :: g :: h :: _ =>
          match hex4? [e, f, g, h] with
          | none => none
          | some lo =>
            if 0xDC00 ≤ lo && lo < 0xE000 then
              some (Char.ofNat (0x10000 + (hi - 0xD800) * 0x400 + (lo - 0xDC00)), 11)
            else none
        | _ => none
  | c :: _ => (simpleEscape? c).map (·, 1)
  | [] => none

/-- The rest of a string after its opening quote: its characters, and what follows the closing
one. `skip` characters belong to an escape that has been read. -/
def stringRest (skip : Nat) : List Char → Option (List Char × List Char)
  | [] => none
  | c :: rest =>
    match skip with
    | k + 1 => stringRest k rest
    | 0 =>
      if c == '"' then some ([], rest)
      else if c == '\\' then
        match escape? rest with
        | none => none
        | some (e, n) => (stringRest n rest).map fun (s, r) => (e :: s, r)
      else if c.toNat < 32 then none
      else (stringRest 0 rest).map fun (s, r) => (c :: s, r)

/-! ## Numbers -/

def digits (cs : List Char) : List Char × List Char :=
  (cs.takeWhile Char.isDigit, cs.dropWhile Char.isDigit)

def natOf (cs : List Char) : Nat := cs.foldl (fun n c => n * 10 + (c.toNat - 48)) 0

/-- The integer of a number without point and exponent, if it fits; minus zero is a double. -/
def integer? (negative : Bool) (n : Nat) : Option Number :=
  if negative then
    if n = 0 || Nat.pow 2 63 < n then none else some (.signed (-(n : Int)))
  else if n < Nat.pow 2 64 then some (.unsigned n) else none

/-- The digits before the point: a zero stands alone. -/
def wholeDigits (cs : List Char) : Option (List Char × List Char) :=
  match cs with
  | '0' :: rest =>
    match rest with
    | d :: _ => if d.isDigit then none else some (['0'], rest)
    | [] => some (['0'], rest)
  | _ =>
    let (ds, rest) := digits cs
    if ds.isEmpty then none else some (ds, rest)

/-- The digits after a point, none if there is no point. -/
def fractionDigits (cs : List Char) : Option (List Char × List Char) :=
  match cs with
  | '.' :: rest =>
    let (ds, rest) := digits rest
    if ds.isEmpty then none else some (ds, rest)
  | _ => some ([], cs)

/-- The exponent, if there is one. -/
def exponentPart (cs : List Char) : Option (Option Int × List Char) :=
  match cs with
  | c :: rest =>
    if c == 'e' || c == 'E' then
      let (negative, rest) := match rest with
        | '+' :: r => (false, r)
        | '-' :: r => (true, r)
        | r => (false, r)
      let (ds, rest) := digits rest
      if ds.isEmpty then none
      else some (some (if negative then -(natOf ds : Int) else natOf ds), rest)
    else some (none, cs)
  | [] => some (none, [])

/-- The number of these digits and this exponent: an integer if it has neither point nor exponent
and fits, and a double otherwise. -/
def numeral? (negative : Bool) (whole fraction : List Char) (exponent : Option Int) :
    Option Number :=
  let double : Option Number :=
    let d := Double.ofDecimal negative (natOf (whole ++ fraction))
      (exponent.getD 0 - fraction.length)
    if d.isFinite then some (.float d) else none
  if fraction.isEmpty && exponent.isNone then integer? negative (natOf whole) <|> double
  else double

/-- A number after its sign, and what follows it. -/
def magnitude (negative : Bool) (cs : List Char) : Option (Number × List Char) := do
  let (whole, cs) ← wholeDigits cs
  let (fraction, cs) ← fractionDigits cs
  let (exponent, rest) ← exponentPart cs
  let n ← numeral? negative whole fraction exponent
  return (n, rest)

/-- A number and what follows it. -/
def number : List Char → Option (Number × List Char)
  | '-' :: rest => magnitude true rest
  | cs => magnitude false cs

/-! ## Values -/

/-- A value and what follows it. -/
abbrev Result := Option (Tree × List Char)

/-- The elements of a list after one of them has to follow. -/
def elements (value : List Char → Result) : Nat → List Char → Option (List Tree × List Char)
  | 0, _ => none
  | n + 1, cs => do
    let (v, rest) ← value (skipBlank cs)
    match skipBlank rest with
    | ',' :: rest =>
      let (vs, rest) ← elements value n rest
      return (v :: vs, rest)
    | ']' :: rest => return ([v], rest)
    | _ => none

/-- The entries of a dictionary after one of them has to follow. -/
def members (value : List Char → Result) : Nat → List Char → Option (Tree.Entries × List Char)
  | 0, _ => none
  | n + 1, cs => do
    match skipBlank cs with
    | '"' :: rest =>
      let (key, rest) ← stringRest 0 rest
      match skipBlank rest with
      | ':' :: rest =>
        let (v, rest) ← value (skipBlank rest)
        match skipBlank rest with
        | ',' :: rest =>
          let (vs, rest) ← members value n rest
          return ((String.ofList key, v) :: vs, rest)
        | '\x7d' :: rest => return ([(String.ofList key, v)], rest)
        | _ => none
      | _ => none
    | _ => none

/-- A word and what follows it. -/
def keyword (word : String) (t : Tree) (cs : List Char) : Result :=
  if word.toList.isPrefixOf cs then some (t, cs.drop word.length) else none

/-- A value with fewer than `depth` levels. -/
def value : Nat → List Char → Result
  | 0, _ => none
  | depth + 1, cs =>
    match cs with
    | '"' :: rest => (stringRest 0 rest).map fun (s, r) => (.text (String.ofList s), r)
    | '[' :: rest =>
      if depth = 0 then none
      else match skipBlank rest with
        | ']' :: rest => some (.list [], rest)
        | _ => (elements (value depth) (rest.length + 1) rest).map fun (vs, r) => (.list vs, r)
    | '\x7b' :: rest =>
      if depth = 0 then none
      else match skipBlank rest with
        | '\x7d' :: rest => some (.dict [], rest)
        | _ => (members (value depth) (rest.length + 1) rest).map fun (es, r) =>
          (Tree.ofEntries es, r)
    | 'n' :: _ => keyword "null" .null cs
    | 't' :: _ => keyword "true" (.bool true) cs
    | 'f' :: _ => keyword "false" (.bool false) cs
    | _ => (number cs).map fun (n, r) => (.number n, r)

/-- The levels that a document may have, and one more. -/
def depthLimit : Nat := 128

/-- Reads a document. -/
def read? (text : String) : Option Tree :=
  match value depthLimit (skipBlank text.toList) with
  | some (t, rest) => if (skipBlank rest).isEmpty then some t else none
  | none => none

end Overlay.Json
