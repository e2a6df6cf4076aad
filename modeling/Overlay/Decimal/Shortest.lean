import Overlay.Decimal.Double

/-!
# The fewest digits that read back

A double is written with the fewest decimal digits that are read as this very double, and of those
with the digits nearest to it. All of it is exact arithmetic on the interval of numbers that round
to the double: for ever finer decimal grids, the two grid points around the double are tried.
-/

namespace Overlay.Decimal

/-- `digits · 10 ^ exponent`; the last digit is not zero, unless all is. -/
structure Scientific where
  digits : Nat
  exponent : Int

namespace Scientific

/-- Drops zeros at the end. The fuel bounds the number of digits. -/
def trim : Nat → Scientific → Scientific
  | 0, s => s
  | n + 1, s =>
    if s.digits ≠ 0 ∧ s.digits % 10 = 0 then trim n ⟨s.digits / 10, s.exponent + 1⟩ else s

end Scientific

namespace Double

/-- The numbers that round to a double, in units of a quarter of its last place: its value, the
ends of the interval, and whether the ends belong to it. -/
structure Interval where
  value : Nat
  low : Nat
  high : Nat
  closed : Bool

def interval (m : Nat) (e : Int) : Interval :=
  let low := if m = Nat.pow 2 52 && minExponent < e then 4 * m - 1 else 4 * m - 2
  ⟨4 * m, low, 4 * m + 2, m % 2 = 0⟩

/-- Compares with a grid point: `point · den` lies in the interval scaled by `num`. -/
def Interval.has (i : Interval) (num den point : Nat) : Bool :=
  let p := point * den
  if i.closed then i.low * num ≤ p && p ≤ i.high * num
  else i.low * num < p && p < i.high * num

/-- The grid point of `10 ^ k` that stands for the double, if one of the two around it does. -/
def gridPoint (i : Interval) (e : Int) (k : Int) : Option Nat :=
  let (n₂, d₂) := scaled 1 (e - 2)
  let num := if k < 0 then n₂ * Nat.pow 10 (-k).toNat else n₂
  let den := if k < 0 then d₂ else d₂ * Nat.pow 10 k.toNat
  let below := i.value * num / den
  let above := below + 1
  match i.has num den below, i.has num den above with
  | true, true =>
    if 2 * (i.value * num - below * den) ≤ den then some below else some above
  | true, false => some below
  | false, true => some above
  | false, false => none

/-- The first grid, from `10 ^ k` on to finer ones, that has a point for the double. -/
def firstGrid (i : Interval) (e : Int) : Nat → Int → Scientific
  | 0, k => ⟨0, k⟩
  | n + 1, k =>
    match gridPoint i e k with
    | some d => if d = 0 then firstGrid i e n (k - 1) else ⟨d, k⟩
    | none => firstGrid i e n (k - 1)

/-- A power of ten that is not below the value. -/
def coarsest (m : Nat) (e : Int) : Int :=
  ((Nat.log2 m : Int) + e) * 30103 / 100000 + 1

/-- The shortest digits of `m · 2 ^ e`. -/
def shortest (m : Nat) (e : Int) : Scientific :=
  if m = 0 then ⟨0, 0⟩
  else (firstGrid (interval m e) e 40 (coarsest m e)).trim 40

end Double

end Overlay.Decimal
