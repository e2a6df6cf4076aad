/-!
# Digits

The values of digits and of rows of digits, in any base up to 36.
-/

namespace Overlay.Text

/-- The value of a digit or letter. -/
def digit? (c : Char) : Option Nat :=
  if '0' ≤ c && c ≤ '9' then some (c.toNat - 48)
  else if 'a' ≤ c && c ≤ 'z' then some (c.toNat - 87)
  else if 'A' ≤ c && c ≤ 'Z' then some (c.toNat - 55)
  else none

/-- The value of a digit of a base. -/
def digitIn? (base : Nat) (c : Char) : Option Nat := (digit? c).filter (· < base)

def isDigitIn (base : Nat) (c : Char) : Bool := (digitIn? base c).isSome

/-- The number that a row of digits continues. -/
def valueFrom? (base : Nat) : Nat → List Char → Option Nat
  | n, [] => some n
  | n, c :: rest =>
    match digitIn? base c with
    | some d => valueFrom? base (n * base + d) rest
    | none => none

/-- The number that a row of at least one digit stands for. -/
def valueOf? (base : Nat) (digits : List Char) : Option Nat :=
  if digits.isEmpty then none else valueFrom? base 0 digits

/-- The character with a number, if there is one. -/
def scalar? (n : Nat) : Option Char :=
  if n < 0xD800 || (0xDFFF < n && n < 0x110000) then some (Char.ofNat n) else none

/-- The character that exactly `count` hexadecimal digits stand for. -/
def hexChar? (count : Nat) (digits : List Char) : Option Char :=
  if digits.length = count then (valueOf? 16 digits).bind scalar? else none

/-- Decimal digits, with zeros in front up to a width. -/
def padded (width n : Nat) : List Char :=
  let digits := Nat.toDigits 10 n
  List.replicate (width - digits.length) '0' ++ digits

end Overlay.Text
