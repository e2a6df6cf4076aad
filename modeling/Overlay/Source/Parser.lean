import Overlay.Source.Syntax
import Overlay.Text.Ticked

/-!
# Parsing tokens

A parser reads from a stream: the tokens left in the group at hand, and the place where that group
ends. What is left over in a group whose parser is done is remembered, the first such place only,
and is a fault once all else has been read.
-/

namespace Overlay.Source

open Text (ticked)

/-- Why a text is not a valid source text. -/
inductive Cause where
  /-- The text cannot be split into balanced tokens. -/
  | unreadable
  /-- One of several things was expected here. -/
  | expected (atEnd : Bool) (alternatives : List String)
  /-- A mark was expected here. -/
  | expectedMark (mark : String)
  /-- A group holds more than it should. -/
  | stray (delimiter : Delimiter)
  /-- Any other rule of the grammar. -/
  | rule (atEnd : Bool) (text : String)

def Cause.message : Cause → String
  | .unreadable => "cannot parse string into token stream"
  | .expected atEnd alternatives =>
    match alternatives with
    | [] => if atEnd then "unexpected end of input" else "unexpected token"
    | [a] => ending atEnd ++ "expected " ++ a
    | [a, b] => ending atEnd ++ "expected " ++ a ++ " or " ++ b
    | _ => ending atEnd ++ "expected one of: " ++ ", ".intercalate alternatives
  | .expectedMark mark => "expected " ++ ticked mark
  | .stray d => "unexpected token, expected " ++ ticked d.closing.toString
  | .rule atEnd text => ending atEnd ++ text
where
  ending (atEnd : Bool) : String := if atEnd then "unexpected end of input, " else ""

/-- A cause and its place. -/
structure Fault where
  cause : Cause
  place : Position

/-- The tokens that are left, the number of those read before them in the same group, the place
where the group ends, and the first place where a group held too much. -/
structure Stream where
  rest : List Token
  taken : Nat
  ending : Position
  stray : Option Fault

abbrev Parser := StateT Stream (Except Fault)

namespace Parser

/-- The place of the next token, or the end of the group. -/
def place (s : Stream) : Position :=
  match s.rest with
  | t :: _ => t.start
  | [] => s.ending

/-- Fails at the next token, saying first if there is none. -/
def refuse {α : Type} (text : String) : Parser α := fun s =>
  .error ⟨.rule s.rest.isEmpty text, place s⟩

/-- Fails at the next token, for which none of the alternatives stands. -/
def expected {α : Type} (alternatives : List String) : Parser α := fun s =>
  .error ⟨.expected s.rest.isEmpty alternatives, place s⟩

/-- Fails at the given place. -/
def refuseAt {α : Type} (p : Position) (text : String) : Parser α := fun _ =>
  .error ⟨.rule false text, p⟩

/-! ## Looking ahead -/

/-- Whether the tokens start with the characters of a mark, joined to each other. -/
def marksAhead : List Char → List Token → Bool
  | [c], .punct d _ _ :: _ => c == d && d != '\''
  | c :: more, .punct d joint _ :: rest => c == d && d != '\'' && joint && marksAhead more rest
  | _, _ => false

/-- Whether the tokens start with a mark such as `::`. -/
def isMark (mark : String) (ts : List Token) : Bool := marksAhead mark.toList ts

/-- Whether the tokens start with the word. -/
def isWord (word : String) : List Token → Bool
  | .ident text _ :: _ => text == word
  | _ => false

def isAnyWord (words : List String) (ts : List Token) : Bool := words.any (isWord · ts)

/-- Words that are not names. -/
def keywords : List String :=
  ["_", "abstract", "as", "async", "await", "become", "box", "break", "const", "continue", "crate",
   "do", "dyn", "else", "enum", "extern", "false", "final", "fn", "for", "if", "impl", "in", "let",
   "loop", "macro", "match", "mod", "move", "mut", "override", "priv", "pub", "ref", "return",
   "Self", "self", "static", "struct", "super", "trait", "true", "try", "type", "typeof", "unsafe",
   "unsized", "use", "virtual", "where", "while", "yield"]

/-- Whether the tokens start with a name that is no keyword. -/
def isName : List Token → Bool
  | .ident text _ :: _ => !keywords.contains text
  | _ => false

/-- Whether the tokens start with a name or keyword. -/
def isIdent : List Token → Bool
  | .ident .. :: _ => true
  | _ => false

def isLifetime : List Token → Bool
  | .lifetime .. :: _ => true
  | _ => false

def isGroup (d : Delimiter) : List Token → Bool
  | .group e _ _ _ :: _ => d == e
  | _ => false

/-- Whether the tokens start with a literal; truth values and signed numbers are literals too. -/
def isLiteral : List Token → Bool
  | .literal .. :: _ => true
  | .ident text _ :: _ => text == "true" || text == "false"
  | .punct '-' _ _ :: .literal text _ :: _ => text.toList.head?.any Char.isDigit
  | _ => false

/-- Whether the text of a literal is that of a string. -/
def isStringText (text : String) : Bool :=
  match text.toList with
  | c :: _ => c == '"' || c == 'r'
  | [] => false

def isString : List Token → Bool
  | .literal text _ :: _ => isStringText text
  | _ => false

/-- Whether a number has a point or an exponent. -/
def isFloatText (text : String) : Bool :=
  match text.toList with
  | '0' :: c :: _ =>
    if c == 'x' || c == 'o' || c == 'b' then false else decimal (text.toList.drop 1)
  | c :: rest => c.isDigit && decimal rest
  | [] => false
where
  /-- Looks for a point, or for an exponent that has a value. -/
  decimal : List Char → Bool
    | [] => false
    | c :: rest =>
      if c.isDigit || c == '_' then decimal rest
      else if c == '.' then true
      else if c == 'e' || c == 'E' then
        match rest.dropWhile (· == '_') with
        | d :: _ => d.isDigit || d == '+' || d == '-'
        | [] => false
      else false

def isNumberText (text : String) : Bool := text.toList.head?.any Char.isDigit

/-! ## Reading -/

/-- What is left of the group at hand. -/
def ahead : Parser (List Token) := fun s => .ok (s.rest, s)

/-- Whether the group at hand has been read to its end. -/
def atEnd : Parser Bool := fun s => .ok (s.rest.isEmpty, s)

/-- Passes over `n` tokens. -/
def skip (n : Nat) : Parser Unit := fun s =>
  .ok ((), { s with rest := s.rest.drop n, taken := s.taken + n })

/-- Reads a mark. -/
def mark (m : String) : Parser Unit := do
  if isMark m (← ahead) then skip m.length
  else fun s => .error ⟨.expectedMark m, place s⟩

/-- Reads a mark if it stands here. -/
def mark? (m : String) : Parser Bool := do
  if isMark m (← ahead) then skip m.length; return true else return false

/-- Reads a word. -/
def word (w : String) : Parser Unit := do
  if isWord w (← ahead) then skip 1 else expected [ticked w]

/-- Reads a word if it stands here. -/
def word? (w : String) : Parser Bool := do
  if isWord w (← ahead) then skip 1; return true else return false

/-- Reads a name that is no keyword. -/
def name : Parser String := do
  match ← ahead with
  | .ident text _ :: _ =>
    if keywords.contains text then refuse ("expected identifier, found keyword " ++ ticked text)
    else skip 1; return text
  | _ => refuse "expected identifier"

/-- Reads a name or keyword. -/
def anyIdent : Parser String := do
  match ← ahead with
  | .ident text _ :: _ => skip 1; return text
  | _ => refuse "expected ident"

def lifetime : Parser Unit := do
  if isLifetime (← ahead) then skip 1 else refuse "expected lifetime"

/-- Reads a literal. -/
def literal : Parser Unit := do
  match ← ahead with
  | .punct '-' _ _ :: .literal .. :: _ => skip 2
  | ts => if isLiteral ts then skip 1 else refuse "expected literal"

/-- The name of a group in messages. -/
def groupName : Delimiter → String
  | .paren => "parentheses"
  | .bracket => "square brackets"
  | .brace => "curly braces"

/-- Reads a group, and its content with `p`; what `p` leaves over is stray. -/
def group {α : Type} (d : Delimiter) (p : Parser α) : Parser α := fun s =>
  match s.rest with
  | .group e _ close body :: rest =>
    if d = e then
      match p ⟨body, 0, close.start, s.stray⟩ with
      | .error f => .error f
      | .ok (a, inner) =>
        let stray := inner.stray.or <|
          inner.rest.head?.map fun t => ⟨.stray d, t.start⟩
        .ok (a, { s with rest := rest, taken := s.taken + 1, stray := stray })
    else .error ⟨.rule false ("expected " ++ groupName d), place s⟩
  | _ => .error ⟨.rule s.rest.isEmpty ("expected " ++ groupName d), place s⟩

/-- Reads a group without looking at its content. -/
def anyGroup : Parser (Delimiter × Span × List Token) := do
  match ← ahead with
  | .group d _ close body :: _ => skip 1; return (d, close, body)
  | _ => refuse "expected delimiter"

/-- Runs `p` from here without reading anything. -/
def peek {α : Type} (p : Parser α) : Parser (Except Fault α) := fun s =>
  match p s with
  | .ok (a, _) => .ok (.ok a, s)
  | .error f => .ok (.error f, s)

/-- Reads with `p` if it succeeds, and reads nothing otherwise. -/
def attempt {α : Type} (p : Parser α) : Parser (Option α) := fun s =>
  match p s with
  | .ok (a, t) => .ok (some a, t)
  | .error _ => .ok (none, s)

/-- The tokens read since `before`. -/
def since (before : Stream) : Parser (List Token) := fun s =>
  .ok (before.rest.take (s.taken - before.taken), s)

/-- A node of the tokens read since `before`. -/
def nodeSince (before : Stream) (role : Role) (children : List Node) : Parser Node := do
  return .mk role (← since before) children

/-- A node of the tokens that `p` reads. -/
def node (role : Role) (p : Parser (List Node)) : Parser Node := do
  let before ← get
  nodeSince before role (← p)

/-! ## Repetition -/

/-- Repeats a step until it gives nothing. Every step reads at least one token, so the number of
tokens left bounds the repetitions. -/
def steps {α : Type} (step : Parser (Option α)) : Nat → Parser (List α)
  | 0 => return []
  | n + 1 => do
    match ← step with
    | none => return []
    | some a => return a :: (← steps step n)

def repeating {α : Type} (step : Parser (Option α)) : Parser (List α) := do
  steps step ((← ahead).length + 1)

/-- Repeats `p` until the group ends. -/
def untilEnd {α : Type} (p : Parser α) : Parser (List α) :=
  repeating do if ← atEnd then return none else return some (← p)

/-- Repeats `p` with a mark between two of them, until `stop` holds before either. -/
def separatedUntil {α : Type} (stop : List Token → Bool) (separator : String) (p : Parser α) :
    Parser (List α) := do
  go ((← ahead).length + 1)
where
  go : Nat → Parser (List α)
    | 0 => return []
    | n + 1 => do
      if stop (← ahead) then return []
      let a ← p
      if stop (← ahead) then return [a]
      mark separator
      return a :: (← go n)

/-- Repeats `p` until the group ends, with commas between. -/
def commaList {α : Type} (p : Parser α) : Parser (List α) :=
  separatedUntil List.isEmpty "," p

/-- Repeats `p` as long as the mark follows it and `stop` does not hold before the next one. -/
def separatedWhile {α : Type} (stop : List Token → Bool) (separator : String) (p : Parser α) :
    Parser (List α) := do
  go ((← ahead).length + 1)
where
  go : Nat → Parser (List α)
    | 0 => return []
    | n + 1 => do
      if stop (← ahead) then return []
      let a ← p
      if ← mark? separator then return a :: (← go n) else return [a]

end Parser

end Overlay.Source
