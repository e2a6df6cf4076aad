import Overlay.Decimal.Numeral
import Overlay.Text.Digit
import Overlay.Tree

/-!
# What a plain scalar stands for

Null, truth values and numbers have a few spellings each; every other plain scalar is text.
-/

namespace Overlay.Yaml

open Decimal (Double numeral?)

def isNullWord (s : String) : Bool := s == "null" || s == "Null" || s == "NULL" || s == "~"

def boolWord? (s : String) : Option Bool :=
  if s == "true" || s == "True" || s == "TRUE" then some true
  else if s == "false" || s == "False" || s == "FALSE" then some false
  else none

/-- The base that two characters announce. -/
def base? : List Char → Option (Nat × List Char)
  | '0' :: 'x' :: rest => some (16, rest)
  | '0' :: 'o' :: rest => some (8, rest)
  | '0' :: 'b' :: rest => some (2, rest)
  | _ => none

/-- Digits only, more than one of them, the first one a zero: such words are text. -/
def isZeroPadded (cs : List Char) : Bool :=
  let digits := match cs with
    | '-' :: rest | '+' :: rest => rest
    | _ => cs
  1 < digits.length && digits.head? == some '0' && digits.all Char.isDigit

/-- The integer of digits without a sign, in an announced base or in base ten. -/
def magnitude? (cs : List Char) : Option Nat :=
  match (base? cs).bind fun (base, digits) => Text.valueOf? base digits with
  | some n => some n
  | none => Text.valueOf? 10 cs

/-- The integer of a word, of any size. -/
def integer? (cs : List Char) : Option Int :=
  if isZeroPadded cs then none
  else match cs with
    | '-' :: rest => (magnitude? rest).map fun n => -(n : Int)
    | '+' :: rest => (magnitude? rest).map fun n => (n : Int)
    | _ => (magnitude? cs).map fun n => (n : Int)

def infinityWords : List String := [".inf", ".Inf", ".INF"]

/-- The double of a word. Numerals beyond the doubles are text. -/
def double? (s : String) : Option Double :=
  let cs := s.toList
  let unsigned := match cs with
    | '+' :: rest => rest
    | _ => cs
  if infinityWords.contains (String.ofList unsigned) then some (.infinite false)
  else if cs.head? == some '-' && infinityWords.contains (String.ofList (cs.drop 1)) then
    some (.infinite true)
  else if s == ".nan" || s == ".NaN" || s == ".NAN" then some .nan
  else if cs.head? == some '+' && unsigned.head?.any (fun c => c == '+' || c == '-') then none
  else (numeral? unsigned).filter Double.isFinite

/-- What a word stands for. Integers that need more than 64 and at most 128 bits are refused. -/
inductive Word where
  | null
  | bool (b : Bool)
  | number (n : Number)
  | oversized
  | text

/-- The number of an integer, if it has at most 64 bits, and a refusal for at most 128. -/
def integerWord? (negative : Bool) (i : Int) : Option Word :=
  if negative then
    if -(Nat.pow 2 63 : Int) ≤ i then some (.number (.signed i))
    else if -(Nat.pow 2 127 : Int) ≤ i then some .oversized else none
  else if i < Nat.pow 2 64 then some (.number (.unsigned i.toNat))
  else if i < Nat.pow 2 128 then some .oversized
  else none

/-- The number of a word, if it is one. -/
def numberWord? (s : String) : Option Word :=
  match (integer? s.toList).bind (integerWord? (s.toList.head? == some '-')) with
  | some w => some w
  | none =>
    if isZeroPadded s.toList then none
    else (double? s).map fun d => .number (.float d)

def Word.of (s : String) : Word :=
  if s.isEmpty || isNullWord s then .null
  else match boolWord? s with
    | some b => .bool b
    | none => (numberWord? s).getD .text

end Overlay.Yaml
