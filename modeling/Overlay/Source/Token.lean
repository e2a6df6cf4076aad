/-!
# Positions and tokens

A source text is read as a list of token trees: names, marks, lifetimes, literals, and groups
between delimiters that hold token trees again. Every token knows where it starts and where it
ends, counted in lines and characters.
-/

namespace Overlay.Source

/-- A place between two characters: lines count from one, columns from zero. -/
structure Position where
  line : Nat
  column : Nat
  deriving DecidableEq

namespace Position

/-- Where a text starts. -/
def start : Position := ⟨1, 0⟩

/-- The position after the character `c`. -/
def advance (p : Position) (c : Char) : Position :=
  if c = '\n' then ⟨p.line + 1, 0⟩ else ⟨p.line, p.column + 1⟩

/-- The position after all of `cs`. -/
def advanceAll (p : Position) (cs : List Char) : Position := cs.foldl advance p

/-- Order of reading. -/
def before (p q : Position) : Bool :=
  p.line < q.line || (p.line == q.line && p.column < q.column)

end Position

/-- A stretch of text, from the first position up to the second. -/
structure Span where
  start : Position
  stop : Position

/-- The kinds of brackets. -/
inductive Delimiter where
  | paren
  | bracket
  | brace
  deriving DecidableEq

namespace Delimiter

def opening : Delimiter → Char
  | paren => '('
  | bracket => '['
  | brace => '\x7b'

def closing : Delimiter → Char
  | paren => ')'
  | bracket => ']'
  | brace => '\x7d'

/-- The delimiter that `c` opens. -/
def ofOpening? (c : Char) : Option Delimiter :=
  if c = '(' then some paren else if c = '[' then some bracket
  else if c = '\x7b' then some brace else none

/-- The delimiter that `c` closes. -/
def ofClosing? (c : Char) : Option Delimiter :=
  if c = ')' then some paren else if c = ']' then some bracket
  else if c = '\x7d' then some brace else none

end Delimiter

/-- A token tree. A name keeps the mark `r#` of a raw identifier; a mark is one character and says
whether the next character is a mark too; a group keeps the places of both delimiters. -/
inductive Token where
  | ident (text : String) (span : Span)
  | punct (char : Char) (joint : Bool) (span : Span)
  | lifetime (text : String) (span : Span)
  | literal (text : String) (span : Span)
  | group (delimiter : Delimiter) (opening closing : Span) (body : List Token)

namespace Token

/-- Where the token starts. -/
def start : Token → Position
  | ident _ s => s.start
  | punct _ _ s => s.start
  | lifetime _ s => s.start
  | literal _ s => s.start
  | group _ o _ _ => o.start

/-- Where the token ends. -/
def stop : Token → Position
  | ident _ s => s.stop
  | punct _ _ s => s.stop
  | lifetime _ s => s.stop
  | literal _ s => s.stop
  | group _ _ c _ => c.stop

mutual

/-- The number of tokens in a token tree. -/
def size : Token → Nat
  | group _ _ _ body => sizeAll body + 2
  | _ => 1

/-- The number of tokens in a list of token trees. -/
def sizeAll : List Token → Nat
  | [] => 0
  | t :: rest => size t + sizeAll rest

end

mutual

/-- The characters of a token tree, tokens kept apart by one blank. -/
def render : Token → String
  | ident text _ => text
  | punct c _ _ => c.toString
  | lifetime text _ => text
  | literal text _ => text
  | group d _ _ body =>
    let inner := renderAll body
    if d = .brace then
      if inner.isEmpty then "\x7b \x7d" else "\x7b " ++ inner ++ " \x7d"
    else d.opening.toString ++ inner ++ d.closing.toString

/-- The characters of token trees in a row; a joint mark stands directly before its neighbour. -/
def renderAll : List Token → String
  | [] => ""
  | [t] => render t
  | punct c true _ :: rest => c.toString ++ renderAll rest
  | t :: rest => render t ++ " " ++ renderAll rest

end

/-- A brace group. -/
def isBraceGroup : Token → Bool
  | group .brace _ _ _ => true
  | _ => false

end Token

/-- The name without the mark of a raw identifier. -/
def unraw (name : String) : String :=
  match name.toList with
  | 'r' :: '#' :: rest => String.ofList rest
  | _ => name

end Overlay.Source
