import Overlay.Yaml.Cursor

/-!
# The tokens of a text

Outside brackets, indentation makes structure: a deeper column opens a block, a lesser one closes
those that are deeper. A key need not be announced, so the place of each scalar that might turn out
to be one is remembered until a colon confirms it or a new line refutes it.
-/

namespace Overlay.Yaml

/-- A place where a key might have begun: the number of its first token, and whether anything but a
key would be an error there. -/
structure Candidate where
  number : Nat
  mark : Mark
  required : Bool

/-- How far a text has been taken apart. -/
structure Scan where
  cursor : Cursor
  /-- The tokens found, the last one first. -/
  found : List Token
  /-- The column of the open block, and those of the blocks around it. -/
  indent : Int
  indents : List Int
  keyAllowed : Bool
  /-- The candidate of each level of brackets, the innermost first. -/
  candidates : List (Option Candidate)

namespace Scan

def start (text : List Char) : Scan := ⟨⟨text, .start⟩, [], -1, [], true, [none]⟩

def mark (s : Scan) : Mark := s.cursor.mark

/-- Whether brackets are open. -/
def flow (s : Scan) : Bool := 1 < s.candidates.length

def push (s : Scan) (kind : TokenKind) (mark : Mark) : Scan :=
  { s with found := ⟨kind, mark⟩ :: s.found }

/-- Puts a token in front of the token with a number. -/
def pushAt (s : Scan) (number : Nat) (kind : TokenKind) (mark : Mark) : Scan :=
  let later := s.found.length - number
  { s with found := s.found.take later ++ ⟨kind, mark⟩ :: s.found.drop later }

def skip (s : Scan) (n : Nat) : Scan := { s with cursor := s.cursor.skip n }

def allowKey (s : Scan) (allowed : Bool) : Scan := { s with keyAllowed := allowed }

def candidate? (s : Scan) : Option Candidate := s.candidates.head?.join

/-- Gives a candidate up; a required one must not be given up. -/
def dropCandidate (s : Scan) : Option Scan :=
  match s.candidates with
  | some c :: rest => if c.required then none else some { s with candidates := none :: rest }
  | _ => some s

/-- Remembers that a key might begin here. -/
def saveCandidate (s : Scan) : Option Scan :=
  if s.keyAllowed then do
    let s ← s.dropCandidate
    let c : Candidate := ⟨s.found.length, s.mark, !s.flow && s.indent == s.mark.column⟩
    return { s with candidates := some c :: s.candidates.drop 1 }
  else some s

/-- A key stands on one line and has at most 1024 characters. -/
def isStale (s : Scan) (c : Candidate) : Bool :=
  c.mark.line < s.mark.line || c.mark.index + 1024 < s.mark.index

def dropStale (s : Scan) : Option Scan := do
  let candidates ← s.candidates.mapM fun c? =>
    match c? with
    | some c => if s.isStale c then if c.required then none else some none else some (some c)
    | none => some none
  return { s with candidates }

/-- Opens a block at a deeper column. -/
def openBlock (s : Scan) (column : Nat) (number : Nat) (kind : TokenKind) (mark : Mark) : Scan :=
  if s.flow || (column : Int) ≤ s.indent then s
  else { s with indent := column, indents := s.indent :: s.indents }.pushAt number kind mark

/-- Closes the blocks that are deeper than a column. -/
def closeBlocks (s : Scan) (column : Int) : Scan :=
  if s.flow then s
  else close s.indents s
where
  close : List Int → Scan → Scan
    | [], s => s
    | outer :: rest, s =>
      if s.indent > column then
        close rest ({ s with indent := outer, indents := rest }.push .blockEnd s.mark)
      else s

/-- Skips blanks, comments and line breaks up to the next token. -/
def skipGap : Nat → Scan → Scan
  | 0, s => s
  | fuel + 1, s =>
    let tabs := s.flow || !s.keyAllowed
    let c := s.cursor.skipWhile fun d => d == ' ' || (tabs && d == '\t')
    let c := if c.startsWith '#' then c.skipWhile (!isBreak ·) else c
    if c.rest.head?.any isBreak then
      skipGap fuel { s with cursor := c.lineBreak.2, keyAllowed := s.keyAllowed || !s.flow }
    else { s with cursor := c }

/-! ## One token at a time -/

/-- A token of one mark. -/
def single (s : Scan) (kind : TokenKind) (width : Nat) : Scan := (s.push kind s.mark).skip width

def openBrackets (s : Scan) (kind : TokenKind) : Option Scan := do
  let s ← s.saveCandidate
  return { s with candidates := none :: s.candidates, keyAllowed := true }.single kind 1

def closeBrackets (s : Scan) (kind : TokenKind) : Option Scan := do
  let s ← s.dropCandidate
  let candidates := if s.flow then s.candidates.drop 1 else s.candidates
  return { s with candidates, keyAllowed := false }.single kind 1

def comma (s : Scan) : Option Scan := do
  return ((← s.dropCandidate).allowKey true).single .comma 1

def documentMark (s : Scan) (kind : TokenKind) : Option Scan := do
  return ((← (s.closeBlocks (-1)).dropCandidate).allowKey false).single kind 3

def blockEntry (s : Scan) : Option Scan := do
  if !s.flow && !s.keyAllowed then none
  let s := s.openBlock s.mark.column s.found.length .sequenceStart s.mark
  return ((← s.dropCandidate).allowKey true).single .entry 1

def explicitKey (s : Scan) : Option Scan := do
  if !s.flow && !s.keyAllowed then none
  let s := s.openBlock s.mark.column s.found.length .mappingStart s.mark
  return ((← s.dropCandidate).allowKey (!s.flow)).single .key 1

/-- A colon confirms the candidate; without one it follows an announced key. -/
def colon (s : Scan) : Option Scan :=
  match s.candidate? with
  | some c =>
    let s := s.pushAt c.number .key c.mark
    let s := s.openBlock c.mark.column c.number .mappingStart c.mark
    let s := { s with candidates := none :: s.candidates.drop 1, keyAllowed := false }
    some (s.single .value 1)
  | none =>
    if !s.flow && !s.keyAllowed then none
    else
      let s := s.openBlock s.mark.column s.found.length .mappingStart s.mark
      some ((s.allowKey (!s.flow)).single .value 1)

/-- A token that takes a scalar, a name or a tag off the cursor. -/
def take (s : Scan) (kind : TokenKind) (c : Cursor) : Scan :=
  { s.push kind s.mark with cursor := c }

def anchored (s : Scan) (kind : String → TokenKind) : Option Scan := do
  let s := (← s.saveCandidate).allowKey false
  let (name, c) ← anchorName (s.cursor.skip 1)
  return s.take (kind name) c

def tagged (s : Scan) : Option Scan := do
  let s := (← s.saveCandidate).allowKey false
  let (handle, text, c) ← tag s.flow s.cursor
  return s.take (.tag handle text) c

def block (s : Scan) (literal : Bool) : Option Scan := do
  let s := (← s.dropCandidate).allowKey true
  let (text, c) ← blockScalar literal s.indent (s.cursor.skip 1)
  return s.take (.scalar (String.ofList text) false) c

def quoted (s : Scan) (quote : Char) : Option Scan := do
  let s := (← s.saveCandidate).allowKey false
  let (text, c) ← quotedRest quote (s.cursor.rest.length + 1) [] (s.cursor.skip 1)
  return s.take (.scalar (String.ofList text) false) c

def plain (s : Scan) : Option Scan := do
  let s := (← s.saveCandidate).allowKey false
  let (text, broken, c) ←
    plainRest s.flow (s.indent + 1) (s.cursor.rest.length + 1) [] .empty s.cursor
  return (s.take (.scalar (String.ofList text) true) c).allowKey broken

/-- The rest of a directive's line. -/
def directiveEnd (c : Cursor) : Option Cursor :=
  let c := c.skipWhile isBlank
  let c := if c.startsWith '#' then c.skipWhile (!isBreak ·) else c
  if atLineEnd c.rest then some c.lineBreak.2 else none

/-- A version: two numbers of at most nine digits with a point between them. -/
def versionNumbers (c : Cursor) : Option (Nat × Nat × Cursor) := do
  let major := c.rest.takeWhile Char.isDigit
  let c := c.skip major.length
  if !c.startsWith '.' then none
  let minor := (c.rest.drop 1).takeWhile Char.isDigit
  if 9 < major.length || 9 < minor.length then none
  return (← Text.valueOf? 10 major, ← Text.valueOf? 10 minor, c.skip (minor.length + 1))

def directive (s : Scan) : Option Scan := do
  let s := (← (s.closeBlocks (-1)).dropCandidate).allowKey false
  let name := (s.cursor.rest.drop 1).takeWhile isWordChar
  let c := s.cursor.skip (name.length + 1)
  if !atGap c.rest then none
  let c := c.skipWhile isBlank
  if name = "YAML".toList then
    let (major, minor, c) ← versionNumbers c
    return s.take (.version major minor) (← directiveEnd c)
  else if name = "TAG".toList then
    if !c.startsWith '!' then none
    let word := (c.rest.drop 1).takeWhile isWordChar
    let after := c.skip (word.length + 1)
    let closed := after.startsWith '!'
    if !closed && !word.isEmpty then none
    let after := if closed then after.skip 1 else after
    if !after.rest.head?.any isBlank then none
    let (stem, rest) ← tagText true (after.skipWhile isBlank)
    if stem.isEmpty || !atGap rest.rest then none
    let handle := '!' :: word ++ (if closed then ['!'] else [])
    return s.take (.tagHandle (String.ofList handle) stem) (← directiveEnd rest)
  else none

/-- Characters with which no plain scalar begins. -/
def isIndicator (c : Char) : Bool :=
  ("-?:,[]\x7b\x7d#&*!|>'\"%@".toList).contains c || c == Char.ofNat 0x60

/-- The next token, which begins with a given character. -/
def token (s : Scan) (d : Char) (rest : List Char) : Option Scan :=
  if s.mark.column = 0 && d == '%' then s.directive
  else if s.cursor.atDocumentMark then
    s.documentMark (if d == '-' then .documentStart else .documentEnd)
  else if d == '[' then s.openBrackets .listOpen
  else if d == '\x7b' then s.openBrackets .dictOpen
  else if d == ']' then s.closeBrackets .listClose
  else if d == '\x7d' then s.closeBrackets .dictClose
  else if d == ',' then s.comma
  else if d == '-' && atGap rest then s.blockEntry
  else if d == '?' && (s.flow || atGap rest) then s.explicitKey
  else if d == ':' && (s.flow || atGap rest) then s.colon
  else if d == '*' then s.anchored .reference
  else if d == '&' then s.anchored .anchor
  else if d == '!' then s.tagged
  else if d == '|' && !s.flow then s.block true
  else if d == '>' && !s.flow then s.block false
  else if d == '\'' || d == '"' then s.quoted d
  else if !(isBlank d || isIndicator d)
      || (d == '-' && !(rest.head?.any isBlank))
      || (!s.flow && (d == '?' || d == ':') && !atGap rest) then s.plain
  else none

/-- The end of the text closes all blocks. -/
def finish (s : Scan) : Option Scan := do
  let s := if s.mark.column = 0 then s
    else { s with cursor := ⟨[], ⟨s.mark.index, s.mark.line + 1, 0⟩⟩ }
  return (← (s.closeBlocks (-1)).dropCandidate).push .streamEnd s.mark

/-- All further tokens. -/
def run : Nat → Scan → Option (List Token)
  | 0, _ => none
  | fuel + 1, s => do
    let s := s.skipGap (s.cursor.rest.length + 1)
    let s := (← s.dropStale).closeBlocks s.mark.column
    match s.cursor.rest with
    | [] => return (← s.finish).found.reverse
    | d :: rest => run fuel (← s.token d rest)

end Scan

/-- The tokens of a text. A byte order mark may stand first. -/
def tokens? (text : String) : Option (List Token) :=
  let cs := match text.toList with
    | '\ufeff' :: rest => rest
    | cs => cs
  if cs.all isPermitted then Scan.run (cs.length + 2) (Scan.start cs) else none

end Overlay.Yaml
