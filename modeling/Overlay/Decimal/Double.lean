/-!
# Binary floating-point numbers

A double is `± m · 2 ^ e` with a mantissa of at most 53 bits, an infinity, or not a number. It is
held as these two numbers, so that reading, rounding and printing are exact arithmetic.
-/

namespace Overlay.Decimal

/-- A binary floating-point number of 64 bits. A finite one has `m < 2 ^ 53` and `e ≥ -1074`, and
the leading bit of `m` is set unless `e = -1074`. -/
inductive Double where
  | finite (negative : Bool) (mantissa : Nat) (exponent : Int)
  | infinite (negative : Bool)
  | nan
  deriving DecidableEq

namespace Double

def minExponent : Int := -1074

def maxExponent : Int := 971

def zero : Double := .finite false 0 minExponent

/-- `n · 2 ^ e` as a quotient. -/
def scaled (n : Nat) (e : Int) : Nat × Nat :=
  if 0 ≤ e then (n * Nat.pow 2 e.toNat, 1) else (n, Nat.pow 2 (-e).toNat)

/-- The quotient rounded to the nearest natural number, a half to the even one. -/
def roundDiv (num den : Nat) : Nat :=
  let q := num / den
  let r := num % den
  if 2 * r < den then q else if den < 2 * r then q + 1 else if q % 2 = 0 then q else q + 1

/-- `num / den / 2 ^ e`, rounded. -/
def mantissaAt (num den : Nat) (e : Int) : Nat :=
  if 0 ≤ e then roundDiv num (den * Nat.pow 2 e.toNat)
  else roundDiv (num * Nat.pow 2 (-e).toNat) den

/-- The exponent for a positive quotient: the one that leaves 53 bits before the point, but not
below the least one. -/
def exponentOf (num den : Nat) : Int :=
  let guess : Int := (Nat.log2 num : Int) - (Nat.log2 den : Int) - 52
  let tooSmall : Bool :=
    if 0 ≤ guess then num < den * Nat.pow 2 (guess.toNat + 52)
    else if guess + 52 ≥ 0 then num < den * Nat.pow 2 (guess + 52).toNat
    else num * Nat.pow 2 (-(guess + 52)).toNat < den
  max minExponent (if tooSmall then guess - 1 else guess)

/-- The double nearest to a quotient; ties go to the even mantissa. -/
def ofRatio (negative : Bool) (num den : Nat) : Double :=
  if num = 0 || den = 0 then .finite negative 0 minExponent
  else
    let e := exponentOf num den
    let m := mantissaAt num den e
    let (m, e) := if m = Nat.pow 2 53 then (Nat.pow 2 52, e + 1) else (m, e)
    if maxExponent < e then .infinite negative else .finite negative m e

/-- The double nearest to `digits · 10 ^ exponent`. Exponents that leave no doubt are cut short. -/
def ofDecimal (negative : Bool) (digits : Nat) (exponent : Int) : Double :=
  if digits = 0 then .finite negative 0 minExponent
  else
    let size : Int := (Nat.log2 digits : Int) / 3 + 1
    if exponent > 400 then .infinite negative
    else if exponent + size < -400 then .finite negative 0 minExponent
    else if 0 ≤ exponent then ofRatio negative (digits * Nat.pow 10 exponent.toNat) 1
    else ofRatio negative digits (Nat.pow 10 (-exponent).toNat)

/-- The double nearest to an integer. -/
def ofInt (i : Int) : Double := ofRatio (i < 0) i.natAbs 1

def isNegative : Double → Bool
  | .finite s _ _ => s
  | .infinite s => s
  | .nan => false

def isFinite : Double → Bool
  | .finite .. => true
  | _ => false

/-- The integer that the double is, if it is one. -/
def toInt? : Double → Option Int
  | .finite s m e =>
    let n := if 0 ≤ e then some (m * Nat.pow 2 e.toNat)
      else if m % Nat.pow 2 (-e).toNat = 0 then some (m / Nat.pow 2 (-e).toNat) else none
    n.map fun n => if s then -(n : Int) else n
  | _ => none

end Double

end Overlay.Decimal
