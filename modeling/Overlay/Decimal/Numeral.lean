import Overlay.Decimal.Double

/-!
# Numerals

The written numbers that stand for doubles: digits with an optional point among, before or after
them, and an optional exponent.
-/

namespace Overlay.Decimal

/-- The number that a row of decimal digits stands for. -/
def digitsValue (digits : List Char) : Nat :=
  digits.foldl (fun n c => n * 10 + (c.toNat - 48)) 0

/-- An exponent with its mark, or nothing. -/
def exponent? : List Char → Option Int
  | [] => some 0
  | c :: rest =>
    if c == 'e' || c == 'E' then
      let (negative, digits) := match rest with
        | '-' :: digits => (true, digits)
        | '+' :: digits => (false, digits)
        | digits => (false, digits)
      if digits.isEmpty || !digits.all Char.isDigit then none
      else some (if negative then -(digitsValue digits : Int) else digitsValue digits)
    else none

/-- The double nearest to a numeral without a sign. -/
def unsignedNumeral? (negative : Bool) (cs : List Char) : Option Double :=
  let whole := cs.takeWhile Char.isDigit
  let rest := cs.dropWhile Char.isDigit
  let (fraction, rest) := match rest with
    | '.' :: rest => (rest.takeWhile Char.isDigit, rest.dropWhile Char.isDigit)
    | _ => ([], rest)
  if whole.isEmpty && fraction.isEmpty then none
  else (exponent? rest).map fun e =>
    Double.ofDecimal negative (digitsValue (whole ++ fraction)) (e - fraction.length)

/-- The double nearest to a numeral, which may have a sign. -/
def numeral? : List Char → Option Double
  | '-' :: cs => unsignedNumeral? true cs
  | '+' :: cs => unsignedNumeral? false cs
  | cs => unsignedNumeral? false cs

end Overlay.Decimal
