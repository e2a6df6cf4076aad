import Overlay.Toml.Moment
import Overlay.Toml.Table

/-!
# Reading TOML

A document is a row of statements: headers, which choose the table that follows, and assignments.
Integers have 64 bits and a sign, and dates are dictionaries with one entry that holds their text.
-/

namespace Overlay.Toml

open Decimal (Double)
open Text (valueOf? hexChar? isDigitIn)

/-! ## Blanks and comments -/

def isBlank (c : Char) : Bool := c == ' ' || c == '\t'

def skipBlank (cs : List Char) : List Char := cs.dropWhile isBlank

/-- Characters that may stand in comments and strings: no control character but the tab. -/
def isTextChar (c : Char) : Bool := c == '\t' || (32 ≤ c.toNat && c.toNat != 127)

/-- Skips blanks, line ends and comments. -/
def skipLines (inComment : Bool) : List Char → Option (List Char)
  | [] => some []
  | '\r' :: '\n' :: rest => skipLines false rest
  | c :: rest =>
    if c == '\n' then skipLines false rest
    else if inComment then if isTextChar c then skipLines true rest else none
    else if c == '#' then skipLines true rest
    else if isBlank c then skipLines false rest
    else some (c :: rest)

/-- Skips blanks and a comment up to the end of a line, and refuses anything else. -/
def skipLine (inComment : Bool) : List Char → Option (List Char)
  | [] => some []
  | '\r' :: '\n' :: rest => some rest
  | c :: rest =>
    if c == '\n' then some rest
    else if inComment then if isTextChar c then skipLine true rest else none
    else if c == '#' then skipLine true rest
    else if isBlank c then skipLine false rest
    else none

/-! ## Strings -/

def simpleEscape? (c : Char) : Option Char :=
  if c == '"' || c == '\\' then some c
  else if c == 'b' then some (Char.ofNat 8)
  else if c == 't' then some '\t'
  else if c == 'n' then some '\n'
  else if c == 'f' then some (Char.ofNat 12)
  else if c == 'r' then some '\r'
  else none

/-- The characters of a line break that stands first. -/
def breakLength : List Char → Nat
  | '\n' :: _ => 1
  | '\r' :: '\n' :: _ => 2
  | _ => 0

/-- The blanks and line breaks that stand first. -/
def gapLength : List Char → Nat
  | '\r' :: '\n' :: rest => gapLength rest + 2
  | c :: rest => if isBlank c || c == '\n' then gapLength rest + 1 else 0
  | [] => 0

/-- One escape after its backslash: what it stands for, and the number of characters it took. -/
def escape? (cs : List Char) : Option (List Char × Nat) :=
  match cs with
  | 'u' :: rest => (hexChar? 4 (rest.take 4)).map fun c => ([c], 5)
  | 'U' :: rest => (hexChar? 8 (rest.take 8)).map fun c => ([c], 9)
  | c :: _ => (simpleEscape? c).map fun e => ([e], 1)
  | [] => none

/-- A backslash at the end of a line swallows the gap up to the next text. -/
def lineEscape? (cs : List Char) : Option (List Char × Nat) :=
  let blanks := (cs.takeWhile isBlank).length
  let ending := breakLength (cs.drop blanks)
  if ending = 0 then none else some ([], gapLength cs)

/-- The rest of a string on one line, and what follows it. `skip` characters belong to an escape
that has been read. -/
def lineString (quote : Char) (skip : Nat) : List Char → Option (List Char × List Char)
  | [] => none
  | c :: rest =>
    match skip with
    | k + 1 => lineString quote k rest
    | 0 =>
      if c == quote then some ([], rest)
      else if c == '\\' && quote == '"' then
        match escape? rest with
        | none => none
        | some (e, n) => (lineString quote n rest).map fun (s, r) => (e ++ s, r)
      else if isTextChar c then (lineString quote 0 rest).map fun (s, r) => (c :: s, r)
      else none

/-- The rest of a string between tripled quotes; up to two more quotes may stand before the closing
ones. -/
def blockString (quote : Char) (skip : Nat) : List Char → Option (List Char × List Char)
  | [] => none
  | c :: rest =>
    match skip with
    | k + 1 => blockString quote k rest
    | 0 =>
      if c == quote then
        let quotes := min 5 (((c :: rest).takeWhile (· == quote)).length)
        if 3 ≤ quotes then some (List.replicate (quotes - 3) quote, rest.drop (quotes - 1))
        else (blockString quote 0 rest).map fun (s, r) => (c :: s, r)
      else if c == '\\' && quote == '"' then
        match (lineEscape? rest).or (escape? rest) with
        | none => none
        | some (e, n) => (blockString quote n rest).map fun (s, r) => (e ++ s, r)
      else match breakLength (c :: rest) with
        | n + 1 => (blockString quote n rest).map fun (s, r) => ('\n' :: s, r)
        | 0 =>
          if isTextChar c then (blockString quote 0 rest).map fun (s, r) => (c :: s, r) else none

/-- A string, whose first quote is given, and what follows it. -/
def string (quote : Char) (cs : List Char) : Option (String × List Char) :=
  let inner :=
    if cs.take 3 = [quote, quote, quote] then
      let body := cs.drop 3
      blockString quote (breakLength body) body
    else lineString quote 0 (cs.drop 1)
  inner.map fun (s, rest) => (String.ofList s, rest)

/-! ## Keys -/

def isBare (c : Char) : Bool := c.isAlphanum || c == '_' || c == '-'

/-- One part of a key. -/
def keyPart (cs : List Char) : Option (String × List Char) :=
  match cs with
  | '"' :: rest | '\'' :: rest =>
    (lineString (cs.headD '"') 0 rest).map fun (s, r) => (String.ofList s, r)
  | _ =>
    let bare := cs.takeWhile isBare
    if bare.isEmpty then none else some (String.ofList bare, cs.dropWhile isBare)

/-- A key with its dots, and the blanks after it. -/
def key : Nat → List Char → Option (List String × List Char)
  | 0, _ => none
  | fuel + 1, cs => do
    let (part, rest) ← keyPart cs
    match skipBlank rest with
    | '.' :: rest =>
      let (parts, rest) ← key fuel (skipBlank rest)
      return (part :: parts, rest)
    | rest => return ([part], rest)

/-! ## Numbers and moments -/

/-- The digits of a number in which single underscores may stand between digits. -/
def underscored (base : Nat) : List Char → Option (List Char)
  | [] => none
  | [d] => if isDigitIn base d then some [d] else none
  | d :: '_' :: rest => if isDigitIn base d then (underscored base rest).map (d :: ·) else none
  | d :: rest => if isDigitIn base d then (underscored base rest).map (d :: ·) else none

/-- The digits of a decimal number without zeros in front. -/
def wholeDigits (cs : List Char) : Option (List Char) := do
  let digits ← underscored 10 cs
  if digits.length > 1 && digits.head? == some '0' then none else return digits

/-- An integer that fits 64 bits with a sign. -/
def integer (negative : Bool) (n : Nat) : Option Number :=
  let i : Int := if negative then -(n : Int) else n
  if -(Nat.pow 2 63 : Int) ≤ i && i < Nat.pow 2 63 then some (.signed i) else none

def splitSign : List Char → Bool × List Char
  | '-' :: rest => (true, rest)
  | '+' :: rest => (false, rest)
  | cs => (false, cs)

/-- A double with a fraction or an exponent or both. -/
def double? (negative : Bool) (cs : List Char) : Option Number := do
  let isMark := fun c => c == 'e' || c == 'E'
  let mantissa := cs.takeWhile (!isMark ·)
  let exponent ← match cs.dropWhile (!isMark ·) with
    | [] => some (0 : Int)
    | _ :: rest => do
      let (below, digits) := splitSign rest
      let n ← valueOf? 10 (← underscored 10 digits)
      some (if below then -(n : Int) else n)
  let whole ← wholeDigits (mantissa.takeWhile (· != '.'))
  let fraction ← match mantissa.dropWhile (· != '.') with
    | [] => some []
    | _ :: rest => underscored 10 rest
  let d := Double.ofDecimal negative (← valueOf? 10 (whole ++ fraction))
    (exponent - fraction.length)
  if d.isFinite then return .float d else none

/-- The number that a word stands for. -/
def number? (word : List Char) : Option Number :=
  match word with
  | '0' :: 'x' :: rest => (underscored 16 rest).bind (valueOf? 16) |>.bind (integer false)
  | '0' :: 'o' :: rest => (underscored 8 rest).bind (valueOf? 8) |>.bind (integer false)
  | '0' :: 'b' :: rest => (underscored 2 rest).bind (valueOf? 2) |>.bind (integer false)
  | _ =>
    let (negative, rest) := splitSign word
    if rest = ['i', 'n', 'f'] then some (.float (.infinite negative))
    else if rest = ['n', 'a', 'n'] then some (.float .nan)
    else match wholeDigits rest with
      | some digits => (valueOf? 10 digits).bind (integer negative)
      | none => double? negative rest

/-- The key of the entry that holds the text of a moment. -/
def momentKey : String := "$__toml_private_datetime"

/-- Characters of numbers, moments and words. -/
def isWordChar (c : Char) : Bool := isBare c || c == '+' || c == '.' || c == ':'

/-- The characters of a value that is neither string nor bracketed: a date and a time may be
divided by a blank. -/
def word (cs : List Char) : List Char :=
  let first := cs.takeWhile isWordChar
  match cs.dropWhile isWordChar with
  | ' ' :: d :: rest =>
    if d.isDigit && (Date.ofDigits? first).isSome then
      first ++ ' ' :: (d :: rest).takeWhile isWordChar
    else first
  | _ => first

/-- The value of a word. -/
def wordValue? (w : List Char) : Option Tree :=
  if w = "true".toList then some (.bool true)
  else if w = "false".toList then some (.bool false)
  else match number? w with
    | some n => some (.number n)
    | none => (Moment.ofChars? w).map fun m => .dict [(momentKey, .text m.write)]

/-! ## Values -/

/-- The elements of an array up to its closing bracket. -/
def elements (value : List Char → Option (Tree × List Char)) :
    Nat → List Char → Option (List Tree × List Char)
  | 0, _ => none
  | fuel + 1, cs => do
    match ← skipLines false cs with
    | ']' :: rest => return ([], rest)
    | cs =>
      let (v, rest) ← value cs
      match ← skipLines false rest with
      | ',' :: rest =>
        let (vs, rest) ← elements value fuel rest
        return (v :: vs, rest)
      | ']' :: rest => return ([v], rest)
      | _ => none

/-- The assignments of a table on one line, after one of them has to follow. -/
def members (value : List Char → Option (Tree × List Char)) :
    Nat → Table → List Char → Option (Table × List Char)
  | 0, _, _ => none
  | fuel + 1, table, cs => do
    match ← key cs.length (skipBlank cs) with
    | (path, '=' :: rest) =>
      let (v, rest) ← value (skipBlank rest)
      let table ← table.assign path v
      match skipBlank rest with
      | ',' :: rest => members value fuel table rest
      | '\x7d' :: rest => return (table, rest)
      | _ => none
    | _ => none

/-- A value with at most `depth` levels of brackets, and what follows it. -/
def value : (depth : Nat) → List Char → Option (Tree × List Char)
  | 0, _ => none
  | depth + 1, cs =>
    match cs with
    | '"' :: _ => (string '"' cs).map fun (s, r) => (.text s, r)
    | '\'' :: _ => (string '\'' cs).map fun (s, r) => (.text s, r)
    | '[' :: rest =>
      (elements (value depth) (rest.length + 1) rest).map fun (vs, r) => (.list vs, r)
    | '\x7b' :: rest =>
      match skipBlank rest with
      | '\x7d' :: rest => some (.dict [], rest)
      | rest => (members (value depth) (rest.length + 1) [] rest).map fun (t, r) => (t.tree, r)
    | _ =>
      let w := word cs
      (wordValue? w).map fun v => (v, cs.drop w.length)

/-- The levels of brackets that a value may have, and one more. -/
def depthLimit : Nat := 81

/-! ## Documents -/

/-- What has been read: all tables, and the path of the open one. -/
structure Document where
  root : Table
  path : List String

/-- A header: the path up to its last part, the last part, and what follows. -/
def header (closing : List Char) (cs : List Char) :
    Option (List String × String × List Char) := do
  let (path, rest) ← key (cs.length + 1) (skipBlank cs)
  let last ← path.getLast?
  if closing.isPrefixOf rest then
    return (path.dropLast, last, ← skipLine false (rest.drop closing.length))
  else none

/-- One statement, and what follows its line. -/
def statement (d : Document) (cs : List Char) : Option (Document × List Char) :=
  match cs with
  | '[' :: '[' :: rest => do
    let (path, last, rest) ← header [']', ']'] rest
    return (⟨← Table.along path (Table.extend last) d.root, path ++ [last]⟩, rest)
  | '[' :: rest => do
    let (path, last, rest) ← header [']'] rest
    return (⟨← Table.along path (Table.declare last) d.root, path ++ [last]⟩, rest)
  | _ => do
    match ← key cs.length cs with
    | (path, '=' :: rest) =>
      let (v, rest) ← value depthLimit (skipBlank rest)
      let root ← Table.along d.path (Table.assign path v) d.root
      return (⟨root, d.path⟩, ← skipLine false rest)
    | _ => none

def statements : Nat → Document → List Char → Option Document
  | 0, _, _ => none
  | fuel + 1, d, cs => do
    match ← skipLines false cs with
    | [] => return d
    | cs =>
      let (d, rest) ← statement d cs
      statements fuel d rest

/-- Reads a document. A byte order mark may stand first. -/
def read? (text : String) : Option Tree :=
  let cs := match text.toList with
    | '\ufeff' :: rest => rest
    | cs => cs
  (statements (cs.length + 1) ⟨[], []⟩ cs).map fun d => d.root.tree

end Overlay.Toml
