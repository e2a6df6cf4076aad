import Overlay.Source.Token
import Overlay.Text.Blank
import Overlay.Text.Identifier

/-!
# From text to tokens

A scanner looks at the start of the remaining characters and says how many of them its lexeme
takes. `tokenize` skips blanks and comments, takes one lexeme after another and nests what stands
between delimiters. It fails at the place of the first character that starts no token, at a closing
delimiter that closes nothing, or at the innermost delimiter left open.

Comments of documentation are attributes: the three tokens of such an attribute all have the place
of the comment.
-/

namespace Overlay.Source.Lexer

open Overlay.Text

/-- The number of characters that a lexeme takes, if one starts here. -/
abbrev Scanner := List Char → Option Nat

/-- Whether the characters start with the word. -/
def startsWith (word : String) (cs : List Char) : Bool := word.toList.isPrefixOf cs

/-! ## Blanks and comments -/

/-- A blank between tokens: besides white space the two marks of writing direction. -/
def isSpace (c : Char) : Bool := isBlank c || c.toNat == 0x200e || c.toNat == 0x200f

/-- The characters up to the end of the line, a carriage return before it left out. -/
def lineLength : List Char → Nat
  | [] => 0
  | '\n' :: _ => 0
  | '\r' :: '\n' :: _ => 0
  | _ :: rest => lineLength rest + 1

/-- The length of a block comment whose opening marks are still to be counted; comments nest. -/
def blockLength (depth : Nat) : List Char → Option Nat
  | '/' :: '*' :: rest => (blockLength (depth + 1) rest).map (· + 2)
  | '*' :: '/' :: rest =>
    if depth ≤ 1 then some 2 else (blockLength (depth - 1) rest).map (· + 2)
  | _ :: rest => (blockLength depth rest).map (· + 1)
  | [] => none

/-- A comment that is not documentation. -/
def plainComment (cs : List Char) : Option Nat :=
  if startsWith "//" cs && (!startsWith "///" cs || startsWith "////" cs)
      && !startsWith "//!" cs then some (lineLength cs)
  else if startsWith "/**/" cs then some 4
  else if startsWith "/*" cs && (!startsWith "/**" cs || startsWith "/***" cs)
      && !startsWith "/*!" cs then blockLength 0 cs
  else none

/-- A comment of documentation: its length, its content, and whether it belongs to what is around
it and not to what follows. -/
def docComment (cs : List Char) : Option (Nat × List Char × Bool) :=
  if startsWith "//!" cs then
    let n := lineLength cs
    some (n, (cs.take n).drop 3, true)
  else if startsWith "/*!" cs then
    (blockLength 0 cs).map fun n => (n, (cs.take (n - 2)).drop 3, true)
  else if startsWith "///" cs && !startsWith "////" cs then
    let n := lineLength cs
    some (n, (cs.take n).drop 3, false)
  else if startsWith "/**" cs && !startsWith "/***" cs then
    (blockLength 0 cs).map fun n => (n, (cs.take (n - 2)).drop 3, false)
  else none

/-- A carriage return that no line feed follows. -/
def hasBareReturn : List Char → Bool
  | [] => false
  | '\r' :: '\n' :: rest => hasBareReturn rest
  | '\r' :: _ => true
  | _ :: rest => hasBareReturn rest

/-! ## Names -/

/-- A name without a raw mark. -/
def name (cs : List Char) : Option Nat :=
  match cs with
  | c :: rest => if isIdentStart c then some ((rest.takeWhile isContinue).length + 1) else none
  | [] => none

/-- A name, raw or not. Some keywords have no raw form. -/
def anyName (cs : List Char) : Option Nat :=
  if startsWith "r#" cs then
    match name (cs.drop 2) with
    | some n =>
      let text := String.ofList ((cs.drop 2).take n)
      if text ∈ ["_", "super", "self", "Self", "crate"] then none else some (n + 2)
    | none => none
  else name cs

/-- The starts of literals that are not to be read as names. -/
def literalStarts : List String :=
  ["r\"", "r#\"", "r##", "b\"", "b'", "br\"", "br#", "c\"", "cr\"", "cr#"]

/-- A name that is not the start of a literal. -/
def ident (cs : List Char) : Option Nat :=
  if literalStarts.any (startsWith · cs) then none else anyName cs

/-! ## Literals -/

def isHex (c : Char) : Bool := c.isDigit || ('a' ≤ c && c ≤ 'f') || ('A' ≤ c && c ≤ 'F')

def hexValue (c : Char) : Nat :=
  if c.isDigit then c.toNat - 48 else if 'a' ≤ c && c ≤ 'f' then c.toNat - 87 else c.toNat - 55

/-- The name that may follow a literal directly. -/
def suffix (cs : List Char) : Nat := (name cs).getD 0

/-- The rest of a braced character number after its opening brace: its length and its value.
Underscores may stand between the digits, of which there are one to six. -/
def braced (count value : Nat) : List Char → Option (Nat × Nat)
  | [] => none
  | c :: rest =>
    if isHex c then
      if count == 6 then none
      else (braced (count + 1) (value * 16 + hexValue c) rest).map fun (n, v) => (n + 1, v)
    else if c == '_' && count > 0 then
      (braced count value rest).map fun (n, v) => (n + 1, v)
    else if c == '\x7d' && count > 0 then
      if value < 0xD800 || (0xDFFF < value && value < 0x110000) then some (1, value) else none
    else none

/-- What kinds of text a quoted literal admits. -/
inductive Quote where
  | text
  | bytes
  | terminated
  deriving DecidableEq

/-- An escape after its backslash, line breaks apart: the number of characters it takes. -/
def escape (q : Quote) : List Char → Option Nat
  | 'x' :: a :: b :: _ =>
    let fits := match q with
      | .text => '0' ≤ a && a ≤ '7' && isHex b
      | .bytes => isHex a && isHex b
      | .terminated => isHex a && isHex b && !(a == '0' && b == '0')
    if fits then some 3 else none
  | 'u' :: '\x7b' :: rest =>
    match q, braced 0 0 rest with
    | .text, some (n, _) => some (n + 2)
    | .terminated, some (n, v) => if v == 0 then none else some (n + 2)
    | _, _ => none
  | c :: _ =>
    if c ∈ ['n', 'r', 't', '\\', '\'', '"'] || (c == '0' && q ≠ .terminated) then some 1 else none
  | [] => none

/-- A character that may stand for itself between quotes. -/
def plain (q : Quote) (c : Char) : Bool :=
  match q with
  | .text => true
  | .bytes => c.toNat < 128
  | .terminated => c.toNat != 0

/-- The rest of a quoted literal after its opening quote, the closing quote included. `skip`
characters have been looked at already; `joining` holds after a backslash at the end of a line,
while blanks are passed over. -/
def quoted (q : Quote) (skip : Nat) (joining : Bool) : List Char → Option Nat
  | [] => none
  | c :: rest =>
    let more (skip : Nat) (joining : Bool) := (quoted q skip joining rest).map (· + 1)
    match skip with
    | k + 1 => more k joining
    | 0 =>
      if c == '\r' then
        match rest with
        | '\n' :: _ => more 1 joining
        | _ => none
      else if joining && (c == ' ' || c == '\t' || c == '\n') then more 0 true
      else if c == '"' then some 1
      else if c == '\\' then
        match rest with
        | '\n' :: _ => more 1 true
        | '\r' :: '\n' :: _ => more 2 true
        | _ => match escape q rest with
          | some n => more n false
          | none => none
      else if plain q c then more 0 false else none

/-- The rest of a raw literal after its opening quote, up to the quote with `hashes` hashes. -/
def rawQuoted (q : Quote) (hashes : List Char) : List Char → Option Nat
  | [] => none
  | '\r' :: '\n' :: rest => (rawQuoted q hashes rest).map (· + 2)
  | c :: rest =>
    if c == '\r' then none
    else if c == '"' && hashes.isPrefixOf rest then some (hashes.length + 1)
    else if plain q c then (rawQuoted q hashes rest).map (· + 1)
    else none

/-- A raw literal after its letters: hashes, a quote, text, a quote and as many hashes. -/
def raw (q : Quote) (cs : List Char) : Option Nat :=
  let hashes := cs.takeWhile (· == '#')
  match cs.drop hashes.length with
  | '"' :: rest =>
    if hashes.length > 255 then none
    else (rawQuoted q hashes rest).map (· + (hashes.length + 1))
  | _ => none

/-- Adds the name that may follow the first `n` characters. -/
def withSuffix (cs : List Char) (n : Nat) : Nat := n + suffix (cs.drop n)

/-- A literal between quotes, plain or raw, whose letters are given. -/
def quotedLiteral (letters : String) (q : Quote) (cs : List Char) : Option Nat :=
  let k := letters.length
  if startsWith (letters ++ "\"") cs then
    (quoted q 0 false (cs.drop (k + 1))).map fun n => withSuffix cs (n + k + 1)
  else if startsWith (letters ++ "r") cs then
    (raw q (cs.drop (k + 1))).map fun n => withSuffix cs (n + k + 1)
  else none

/-- A single character between apostrophes, after the opening one: the closing one included. -/
def single (q : Quote) (cs : List Char) : Option Nat :=
  let length :=
    match cs with
    | '\\' :: rest =>
      match q, rest with
      | .bytes, 'u' :: _ => none
      | _, _ => (escape q rest).map (· + 1)
    | c :: _ => if plain q c then some 1 else none
    | [] => none
  match length with
  | some n => if (cs.drop n).head? == some '\'' then some (n + 1) else none
  | none => none

def charLiteral (cs : List Char) : Option Nat :=
  match cs with
  | '\'' :: rest => (single .text rest).map fun n => withSuffix cs (n + 1)
  | _ => none

def byteLiteral (cs : List Char) : Option Nat :=
  match cs with
  | 'b' :: '\'' :: rest => (single .bytes rest).map fun n => withSuffix cs (n + 2)
  | _ => none

/-! ## Numbers -/

/-- What has been seen of a number with a point or an exponent. -/
structure FloatShape where
  length : Nat
  dot : Bool
  exponent : Bool

/-- The digits of a number, one point and the letter of an exponent. -/
def mantissa (shape : FloatShape) : List Char → Option FloatShape
  | [] => some shape
  | c :: rest =>
    if c.isDigit || c == '_' then mantissa ⟨shape.length + 1, shape.dot, false⟩ rest
    else if c == '.' then
      if shape.dot then some shape
      else if rest.head?.any (fun d => d == '.' || isIdentStart d) then none
      else mantissa ⟨shape.length + 1, true, false⟩ rest
    else if c == 'e' || c == 'E' then some ⟨shape.length + 1, shape.dot, true⟩
    else some shape

/-- The digits of an exponent after its letter: their length, or none if there is no value. A
second sign before any digit spoils it. -/
def exponentLength (sign value : Bool) : List Char → Option Nat
  | [] => if value then some 0 else none
  | c :: rest =>
    if c == '+' || c == '-' then
      if value then some 0
      else if sign then none
      else (exponentLength true value rest).map (· + 1)
    else if c.isDigit then (exponentLength sign true rest).map (· + 1)
    else if c == '_' then (exponentLength sign value rest).map (· + 1)
    else if value then some 0 else none

def floatDigits (cs : List Char) : Option Nat :=
  match cs with
  | c :: rest =>
    if !c.isDigit then none
    else match mantissa ⟨1, false, false⟩ rest with
      | none => none
      | some shape =>
        if shape.exponent then
          match exponentLength false false (cs.drop shape.length) with
          | some n => some (shape.length + n)
          | none => if shape.dot then some (shape.length - 1) else none
        else if shape.dot then some shape.length
        else none
  | [] => none

/-- A number may be followed directly by a name, and then by nothing that would go on with it. -/
def endNumber (cs : List Char) (n : Nat) : Option Nat :=
  let m := withSuffix cs n
  if (cs.drop m).head?.any isContinue then none else some m

/-- Digits of a base: their number, or none if one of them is too large. `some` digit has to be
there, and a decimal number does not start with an underscore. -/
def baseDigits (base : Nat) (isEmpty : Bool) : List Char → Option Nat
  | [] => if isEmpty then none else some 0
  | c :: rest =>
    if c.isDigit then
      if base ≤ c.toNat - 48 then none else (baseDigits base false rest).map (· + 1)
    else if isHex c then
      if base ≤ 10 then (if isEmpty then none else some 0)
      else (baseDigits base false rest).map (· + 1)
    else if c == '_' then
      if isEmpty && base == 10 then none else (baseDigits base isEmpty rest).map (· + 1)
    else if isEmpty then none else some 0

def intDigits (cs : List Char) : Option Nat :=
  if startsWith "0x" cs then (baseDigits 16 true (cs.drop 2)).map (· + 2)
  else if startsWith "0o" cs then (baseDigits 8 true (cs.drop 2)).map (· + 2)
  else if startsWith "0b" cs then (baseDigits 2 true (cs.drop 2)).map (· + 2)
  else baseDigits 10 true cs

def number (cs : List Char) : Option Nat :=
  ((floatDigits cs).bind (endNumber cs)).orElse fun _ => (intDigits cs).bind (endNumber cs)

/-- A literal of any kind. -/
def literal (cs : List Char) : Option Nat :=
  (quotedLiteral "" .text cs).orElse fun _ =>
  (quotedLiteral "b" .bytes cs).orElse fun _ =>
  (quotedLiteral "c" .terminated cs).orElse fun _ =>
  (byteLiteral cs).orElse fun _ =>
  (charLiteral cs).orElse fun _ => number cs

/-! ## Marks -/

def marks : List Char := "~!@#$%^&*-=+|;:,<.>/?'".toList

/-- Whether a mark starts here; the slash of a comment is none. -/
def startsMark (cs : List Char) : Bool :=
  match cs with
  | c :: _ => c ∈ marks && !startsWith "//" cs && !startsWith "/*" cs
  | [] => false

/-! ## Tokens -/

/-- The remaining characters and their place. -/
structure Cursor where
  rest : List Char
  place : Position

def Cursor.drop (c : Cursor) (n : Nat) : Cursor :=
  ⟨c.rest.drop n, c.place.advanceAll (c.rest.take n)⟩

def Cursor.spanOf (c : Cursor) (n : Nat) : Span := ⟨c.place, (c.drop n).place⟩

def Cursor.text (c : Cursor) (n : Nat) : String := String.ofList (c.rest.take n)

/-- The cursor after blanks and plain comments. -/
def skipSpace : Nat → Cursor → Cursor
  | 0, c => c
  | fuel + 1, c =>
    match plainComment c.rest with
    | some n => skipSpace fuel (c.drop n)
    | none =>
      match c.rest with
      | ch :: _ => if isSpace ch then skipSpace fuel (c.drop 1) else c
      | [] => c

/-- One token that is no group, and the number of its characters. -/
def leaf (c : Cursor) : Option (Token × Nat) :=
  match literal c.rest with
  | some n => some (.literal (c.text n) (c.spanOf n), n)
  | none =>
    if startsMark c.rest then
      match c.rest with
      | '\'' :: rest =>
        match anyName rest with
        | none => none
        | some n =>
          let after := (rest.drop n).head?
          if after == some '\'' || (after == some '#' && !startsWith "r#" rest) then none
          else if (literal rest).isNone && (ident rest).isSome then
            some (.lifetime (c.text (n + 1)) (c.spanOf (n + 1)), n + 1)
          else some (.punct '\'' true (c.spanOf 1), 1)
      | ch :: rest => some (.punct ch (startsMark rest) (c.spanOf 1), 1)
      | [] => none
    else (ident c.rest).map fun n => (.ident (c.text n) (c.spanOf n), n)

/-- The text of a literal with the given content, as documentation attributes hold it. -/
def stringLiteral (content : List Char) : String :=
  String.ofList ('"' :: content.flatMap (fun c =>
    if c == '"' then ['\\', '"'] else if c == '\\' then ['\\', '\\'] else [c]) ++ ['"'])

/-- The tokens of a documentation comment. -/
def docTokens (span : Span) (content : List Char) (inner : Bool) : List Token :=
  let close : Span := ⟨⟨span.stop.line, span.stop.column - 1⟩, span.stop⟩
  let body := [.ident "doc" span, .punct '=' false span, .literal (stringLiteral content) span]
  let group := Token.group .bracket span close body
  if inner then [.punct '#' false span, .punct '!' false span, group]
  else [.punct '#' false span, group]

/-- An open group: its delimiter, the place of it, and the tokens before it, last first. -/
structure Frame where
  delimiter : Delimiter
  opening : Span
  before : List Token

/-- Reads tokens until the text ends. `done` holds the tokens of the current group, last first.
A failure is the place of what cannot be read. -/
def scan : Nat → Cursor → List Frame → List Token → Except Position (List Token)
  | 0, c, _, _ => .error c.place
  | fuel + 1, c₀, stack, done =>
    let c := skipSpace (fuel + 1) c₀
    match (docComment c.rest).filter (fun d => !hasBareReturn d.2.1) with
    | some (n, content, inner) =>
      scan fuel (c.drop n) stack ((docTokens (c.spanOf n) content inner).reverse ++ done)
    | none =>
      match c.rest with
      | [] =>
        match stack with
        | [] => .ok done.reverse
        | frame :: _ => .error frame.opening.start
      | ch :: _ =>
        match Delimiter.ofOpening? ch, Delimiter.ofClosing? ch with
        | some d, _ => scan fuel (c.drop 1) (⟨d, c.spanOf 1, done⟩ :: stack) []
        | none, some d =>
          match stack with
          | [] => .error c.place
          | frame :: outer =>
            if frame.delimiter = d then
              scan fuel (c.drop 1) outer
                (.group d frame.opening (c.spanOf 1) done.reverse :: frame.before)
            else .error c.place
        | none, none =>
          match leaf c with
          | some (token, n) => scan fuel (c.drop n) stack (token :: done)
          | none => .error c.place

/-- The tokens of a text whose first character stands at `place`. -/
def tokenizeFrom (place : Position) (cs : List Char) : Except Position (List Token) :=
  scan (cs.length + 1) ⟨cs, place⟩ [] []

end Overlay.Source.Lexer
