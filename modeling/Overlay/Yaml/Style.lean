import Overlay.Yaml.Char

/-!
# The styles of scalars

A scalar is written as it stands, between single or double quotes, or as a literal block, whichever
of the styles is the plainest that its text admits.
-/

namespace Overlay.Yaml

inductive Style where
  | plain
  | single
  | double
  | literal
  deriving DecidableEq

def isSpaceOrBreak (c : Char) : Bool := isBlank c || c.toNat == 0 || isBreak c

/-- Marks with which no plain scalar begins. -/
def isLeadingMark (c : Char) : Bool :=
  ("#,[]\x7b\x7d&*!|>'\"%@".toList).contains c || c == Char.ofNat 0x60

/-- Whether the characters after the first hold a mark of structure: a colon before a gap, or a
hash after one. -/
def hasInnerMark : (previous : Char) → List Char → Bool
  | _, [] => false
  | previous, c :: rest =>
    (c == ':' && rest.head?.all isSpaceOrBreak) || (c == '#' && isSpaceOrBreak previous)
      || hasInnerMark c rest

/-- Whether a text would be taken for structure. -/
def hasMark : List Char → Bool
  | [] => false
  | c :: rest =>
    let gap := rest.head?.all isSpaceOrBreak
    isLeadingMark c || ((c == '?' || c == ':' || c == '-') && gap) || hasInnerMark c rest
      || (c :: rest).take 3 == ['-', '-', '-'] || (c :: rest).take 3 == ['.', '.', '.']

/-- Whether two characters of two kinds stand side by side. -/
def hasPair (first second : Char → Bool) : List Char → Bool
  | a :: b :: rest => (first a && second b) || hasPair first second (b :: rest)
  | _ => false

/-- Whether the text holds a line break. -/
def isMultiline (cs : List Char) : Bool := cs.any isBreak

def admitsSingle (cs : List Char) : Bool :=
  cs.all isWritable && !hasPair isBreak (· == ' ') cs && !hasPair (· == ' ') isBreak cs

def admitsPlain (cs : List Char) : Bool :=
  let outer := fun c => c == ' ' || isBreak c
  admitsSingle cs && !isMultiline cs && !hasMark cs && !cs.head?.any outer
    && !cs.getLast?.any outer

def admitsLiteral (cs : List Char) : Bool :=
  !cs.isEmpty && cs.all isWritable && !hasPair (· == ' ') isBreak cs
    && cs.getLast? != some ' '

/-- The style in place of a wished one. -/
def Style.admitted (cs : List Char) : Style → Style
  | plain => if admitsPlain cs then plain else if admitsSingle cs then single else double
  | single => if admitsSingle cs then single else double
  | double => double
  | literal => if admitsLiteral cs then literal else double

/-! ## Texts in the styles -/

def pad (n : Nat) : List Char := List.replicate n ' '

def upperHex (width n : Nat) : List Char :=
  let digits := (Nat.toDigits 16 n).map Char.toUpper
  List.replicate (width - digits.length) '0' ++ digits

/-- The letter of a short escape. -/
def escapeLetter? (c : Char) : Option Char :=
  match c.toNat with
  | 0 => some '0'
  | 7 => some 'a'
  | 8 => some 'b'
  | 9 => some 't'
  | 10 => some 'n'
  | 11 => some 'v'
  | 12 => some 'f'
  | 13 => some 'r'
  | 27 => some 'e'
  | 34 => some '"'
  | 92 => some '\\'
  | 0x85 => some 'N'
  | 0x2028 => some 'L'
  | 0x2029 => some 'P'
  | _ => none

/-- What stands for a character between double quotes. -/
def doubleChar (c : Char) : List Char :=
  if isWritable c && !isBreak c && c != '"' && c != '\\' then [c]
  else match escapeLetter? c with
    | some letter => ['\\', letter]
    | none =>
      let n := c.toNat
      if n ≤ 0xFF then '\\' :: 'x' :: upperHex 2 n
      else if n ≤ 0xFFFF then '\\' :: 'u' :: upperHex 4 n
      else '\\' :: 'U' :: upperHex 8 n

def doubleText (cs : List Char) : List Char := '"' :: cs.flatMap doubleChar ++ ['"']

/-- The characters between single quotes: quotes are doubled, and a new line starts at the
margin. -/
def singleChars (indent : Nat) : (broken : Bool) → List Char → List Char
  | broken, [] => if broken then pad indent else []
  | broken, c :: rest =>
    if isBreak c then c :: singleChars indent true rest
    else
      let margin := if broken then pad indent else []
      margin ++ (if c == '\'' then ['\'', '\''] else [c]) ++ singleChars indent false rest

def singleText (indent : Nat) (cs : List Char) : List Char :=
  '\'' :: singleChars indent false cs ++ ['\'']

/-- The marks after the bar of a literal block: its indentation if its first line has blanks of its
own, and how it ends. -/
def literalHints (cs : List Char) : List Char :=
  let indentation := if cs.head?.any fun c => c == ' ' || isBreak c then ['2'] else []
  let ending := match cs.reverse with
    | last :: rest =>
      if !isBreak last then ['-']
      else if rest.head?.all isBreak then ['+'] else []
    | [] => ['-']
  indentation ++ ending

def literalLines (indent : Nat) : (broken : Bool) → List Char → List Char
  | _, [] => []
  | broken, c :: rest =>
    if isBreak c then c :: literalLines indent true rest
    else (if broken then pad indent else []) ++ c :: literalLines indent false rest

/-- A literal block without the line break at its end. -/
def literalText (indent : Nat) (cs : List Char) : List Char :=
  let lines := literalLines indent true cs
  let lines := if lines.getLast?.any isBreak then lines.dropLast else lines
  '|' :: literalHints cs ++ '\n' :: lines

/-- A scalar in a style that it admits. Lines after the first are indented. -/
def Style.write (indent : Nat) (cs : List Char) : Style → List Char
  | plain => cs
  | single => singleText indent cs
  | double => doubleText cs
  | literal => literalText indent cs

end Overlay.Yaml
