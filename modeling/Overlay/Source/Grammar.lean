import Overlay.Source.Grammar.Item
import Overlay.Source.Lexer

/-!
# The whole grammar

The productions are closed into one grammar. Every production that stands inside another one reads
at least one token or opens a group first, so the depth of the grammar is bounded by the number of
tokens; the bound is found from the tokens, and no caller sees it.
-/

namespace Overlay.Source

namespace Grammar

/-- The grammar at depth zero, which reads nothing. -/
def floor : Grammar :=
  let stop {α : Type} : Parser α := Parser.refuse "nesting too deep"
  { expr := fun _ => stop
    unary := fun _ => stop
    climb := fun _ _ _ => stop
    statementExpr := stop
    type := fun _ => stop
    bound := stop
    pattern := stop
    statements := stop
    item := stop
    useTree := fun _ => stop
    namedFields := stop }

/-- The grammar with at most `depth` productions inside each other. -/
def ofDepth : Nat → Grammar
  | 0 => floor
  | depth + 1 =>
    { expr := fun b s => exprProduction (ofDepth depth) b s
      unary := fun b s => unaryProduction (ofDepth depth) b s
      climb := fun n b l s => climbProduction (ofDepth depth) n b l s
      statementExpr := fun s => statementExprProduction (ofDepth depth) s
      type := fun b s => typeProduction (ofDepth depth) b s
      bound := fun s => boundProduction (ofDepth depth) s
      pattern := fun s => patternProduction (ofDepth depth) s
      statements := fun s => statementsProduction (ofDepth depth) s
      item := fun s => itemProduction (ofDepth depth) s
      useTree := fun b s => useTreeProduction (ofDepth depth) b s
      namedFields := fun s => namedFieldsProduction (ofDepth depth) s }

/-- The grammar that is deep enough for the tokens. -/
def forTokens (ts : List Token) : Grammar := ofDepth (2 * Token.sizeAll ts + 8)

end Grammar

/-- Reads all tokens with the production that the grammar gives. What a group held too much is a
fault, and so is a token that is left. -/
def parseTokens {α : Type} (p : Grammar → Parser α) (ending : Position) (ts : List Token) :
    Except Fault α :=
  match p (.forTokens ts) ⟨ts, 0, ending, none⟩ with
  | .error f => .error f
  | .ok (a, s) =>
    match s.stray, s.rest with
    | some f, _ => .error f
    | none, t :: _ => .error ⟨.expected false [], t.start⟩
    | none, [] => .ok a

/-- The mark that may stand before a text and is no part of it. -/
def byteOrderMark : Char := Char.ofNat 0xFEFF

/-- The tokens of a text. A byte order mark at its start is passed over, but has its column. -/
def tokenize (cs : List Char) : Except Fault (List Token) :=
  let result := match cs with
    | c :: rest =>
      if c == byteOrderMark then Lexer.tokenizeFrom (Position.start.advance c) rest
      else Lexer.tokenizeFrom .start cs
    | [] => .ok []
  result.mapError fun p => ⟨.unreadable, p⟩

/-- Reads a text with the production that the grammar gives. -/
def parseText {α : Type} (p : Grammar → Parser α) (cs : List Char) : Except Fault α :=
  (tokenize cs).bind (parseTokens p .start)

/-- The text of a file without its byte order mark and its first line, if that names an
interpreter. -/
def fileContent (cs : List Char) : List Char :=
  let cs := match cs with
    | c :: rest => if c == byteOrderMark then rest else cs
    | [] => []
  match cs with
  | '#' :: '!' :: rest =>
    let next := (Lexer.skipSpace (rest.length + 1) ⟨rest, .start⟩).rest
    if next.head? == some '[' then cs else cs.dropWhile (· != '\n')
  | _ => cs

/-- The content of a file: inner attributes and declarations. -/
def fileProduction (g : Grammar) : Parser File := do
  let attributes ← Grammar.innerAttributes g
  let items ← Parser.untilEnd g.item
  return { attributes, items }

/-- Reads the text of a file. -/
def parseFile (text : String) : Except Fault File :=
  parseText fileProduction (fileContent text.toList)

/-- Reads the arguments of a macro call as expressions with commas between them. -/
def MacroCall.arguments (call : MacroCall) : Except Fault (List Node) :=
  parseTokens (fun g => Parser.commaList (g.expr true)) call.closing.start call.body

/-- Reads one import on its own: its attributes, its visibility and what it names. -/
def parseUse (text : String) : Except Fault UseTree :=
  parseText (fun g => do
    let _ ← Grammar.outerAttributes g
    match ← Grammar.useItem g false with
    | some tree => return tree
    | none => Parser.refuse "expected identifier") text.toList

end Overlay.Source
