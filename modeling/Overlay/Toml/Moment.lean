import Overlay.Text.Digit

/-!
# Dates and times

A moment is a date, a time of day, or both, and in the last case perhaps an offset. It is read from
its written form and written again in one form.
-/

namespace Overlay.Toml

open Text (valueOf? padded)

structure Date where
  year : Nat
  month : Nat
  day : Nat

/-- A time of day. A second may be a leap second. -/
structure Time where
  hour : Nat
  minute : Nat
  second : Nat
  nanosecond : Nat

/-- The distance from universal time. -/
inductive Offset where
  | universal
  | hours (negative : Bool) (hour minute : Nat)

structure Moment where
  date : Option Date
  time : Option Time
  offset : Option Offset

namespace Date

def isLeap (year : Nat) : Bool := year % 4 = 0 && (year % 100 ≠ 0 || year % 400 = 0)

/-- The days of a month. -/
def daysIn (year month : Nat) : Nat :=
  if month = 2 then (if isLeap year then 29 else 28)
  else if month = 4 || month = 6 || month = 9 || month = 11 then 30
  else 31

def ofDigits? : List Char → Option Date
  | [y, z, w, x, '-', m, n, '-', d, e] => do
    let year ← valueOf? 10 [y, z, w, x]
    let month ← valueOf? 10 [m, n]
    let day ← valueOf? 10 [d, e]
    if 1 ≤ month && month ≤ 12 && 1 ≤ day && day ≤ daysIn year month then
      return ⟨year, month, day⟩
    else none
  | _ => none

def write (d : Date) : List Char :=
  padded 4 d.year ++ '-' :: padded 2 d.month ++ '-' :: padded 2 d.day

end Date

namespace Time

/-- Billionths from the digits after a point; what is finer is dropped. -/
def nanosecondsOf? (digits : List Char) : Option Nat := do
  let _ ← valueOf? 10 digits
  valueOf? 10 ((digits ++ List.replicate 9 '0').take 9)

/-- A time of day, and what follows it. -/
def ofDigits? : List Char → Option (Time × List Char)
  | a :: b :: ':' :: c :: d :: ':' :: e :: f :: rest => do
    let hour ← valueOf? 10 [a, b]
    let minute ← valueOf? 10 [c, d]
    let second ← valueOf? 10 [e, f]
    if 23 < hour || 59 < minute || 60 < second then none
    match rest with
    | '.' :: rest =>
      let nanosecond ← nanosecondsOf? (rest.takeWhile Char.isDigit)
      return (⟨hour, minute, second, nanosecond⟩, rest.dropWhile Char.isDigit)
    | _ => return (⟨hour, minute, second, 0⟩, rest)
  | _ => none

def write (t : Time) : List Char :=
  let fraction :=
    if t.nanosecond = 0 then []
    else '.' :: ((padded 9 t.nanosecond).reverse.dropWhile (· == '0')).reverse
  padded 2 t.hour ++ ':' :: padded 2 t.minute ++ ':' :: padded 2 t.second ++ fraction

end Time

namespace Offset

def ofDigits? : List Char → Option Offset
  | [c] => if c == 'Z' || c == 'z' then some .universal else none
  | [s, a, b, ':', c, d] => do
    if s != '+' && s != '-' then none
    let hour ← valueOf? 10 [a, b]
    let minute ← valueOf? 10 [c, d]
    if 23 < hour || 59 < minute then none
    return .hours (s == '-') hour minute
  | _ => none

def write : Offset → List Char
  | universal => ['Z']
  | hours negative hour minute =>
    (if negative then '-' else '+') :: padded 2 hour ++ ':' :: padded 2 minute

end Offset

namespace Moment

def isDivider (c : Char) : Bool := c == 'T' || c == 't' || c == ' '

/-- Reads a moment. -/
def ofChars? (cs : List Char) : Option Moment :=
  match Time.ofDigits? cs with
  | some (time, []) => some ⟨none, some time, none⟩
  | some _ => none
  | none => do
    let date ← Date.ofDigits? (cs.take 10)
    match cs.drop 10 with
    | [] => return ⟨some date, none, none⟩
    | divider :: rest =>
      if !isDivider divider then none
      let (time, rest) ← Time.ofDigits? rest
      match rest with
      | [] => return ⟨some date, some time, none⟩
      | rest => return ⟨some date, some time, some (← Offset.ofDigits? rest)⟩

/-- The one written form of a moment. -/
def write (m : Moment) : String :=
  let date := (m.date.map Date.write).getD []
  let time := (m.time.map Time.write).getD []
  let offset := (m.offset.map Offset.write).getD []
  let divider := if m.date.isSome && m.time.isSome then ['T'] else []
  String.ofList (date ++ divider ++ time ++ offset)

end Moment

end Overlay.Toml
