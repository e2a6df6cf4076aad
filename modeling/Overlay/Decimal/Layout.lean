import Overlay.Decimal.Shortest

/-!
# Written numbers

The places where point and exponent go are decisions of a format, gathered in a record.
-/

namespace Overlay.Decimal

/-- How a format writes doubles. Numbers whose leading digit stands for a power of ten between
`leastFixed` and `greatestFixed` are written without an exponent. -/
structure Layout where
  leastFixed : Option Int
  greatestFixed : Option Int
  /-- Whole numbers end in `.0`. -/
  wholePoint : Bool
  /-- Before the digits of an exponent that is not negative. -/
  positiveExponent : String
  infinity : String
  negativeInfinity : String
  nan : String

def zeros (n : Nat) : List Char := List.replicate n '0'

/-- Digits and point, without exponent. -/
def positional (digits : List Char) (exponent : Int) (wholePoint : Bool) : List Char :=
  let point : Int := digits.length + exponent
  if 0 ≤ exponent then
    digits ++ zeros exponent.toNat ++ (if wholePoint then ['.', '0'] else [])
  else if 0 < point then digits.take point.toNat ++ '.' :: digits.drop point.toNat
  else '0' :: '.' :: zeros (-point).toNat ++ digits

/-- One digit, the others after a point, and an exponent. -/
def scientific (digits : List Char) (exponent : Int) (positiveExponent : String) : List Char :=
  let power : Int := digits.length + exponent - 1
  let head := match digits with
    | d :: [] => [d]
    | d :: rest => d :: '.' :: rest
    | [] => ['0']
  head ++ 'e' :: (if 0 ≤ power then positiveExponent.toList else []) ++ (toString power).toList

/-- A double as the format writes it. -/
def Layout.write (l : Layout) : Double → String
  | .nan => l.nan
  | .infinite s => if s then l.negativeInfinity else l.infinity
  | .finite s m e =>
    let short := Double.shortest m e
    let digits := Nat.toDigits 10 short.digits
    let power : Int := digits.length + short.exponent - 1
    let fixed := (l.leastFixed.all fun least => least ≤ power)
      && (l.greatestFixed.all fun greatest => power ≤ greatest)
    let body := if fixed || m = 0 then positional digits short.exponent l.wholePoint
      else scientific digits short.exponent l.positiveExponent
    String.ofList (if s then '-' :: body else body)

/-- All digits and no exponent. -/
def Layout.plain : Layout :=
  ⟨none, none, false, "", "inf", "-inf", "NaN"⟩

end Overlay.Decimal
