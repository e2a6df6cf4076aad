import Overlay.Text.Digit
import Overlay.Yaml.Char
import Overlay.Yaml.Token

/-!
# Scalars of YAML

A cursor is what remains of a text and where it starts. The functions of this module take a scalar,
an anchor or a tag off it. Line breaks inside a scalar are folded: one break becomes a blank, and of
several the first one is dropped.
-/

namespace Overlay.Yaml

/-- What remains of a text, and where it starts. -/
structure Cursor where
  rest : List Char
  mark : Mark

/-- Whether the text ends or has a blank or a break first. -/
def atGap : List Char → Bool
  | [] => true
  | c :: _ => isBlank c || isBreak c

/-- Whether the text ends or has a break first. -/
def atLineEnd : List Char → Bool
  | [] => true
  | c :: _ => isBreak c

namespace Cursor

def column (c : Cursor) : Nat := c.mark.column

/-- Leaves out characters that are not breaks. -/
def skip (c : Cursor) (n : Nat) : Cursor :=
  ⟨c.rest.drop n, ⟨c.mark.index + n, c.mark.line, c.mark.column + n⟩⟩

/-- Takes a line break, if there is one; all but two kinds count as a line feed. -/
def lineBreak (c : Cursor) : List Char × Cursor :=
  let next (n : Nat) : Cursor := ⟨c.rest.drop n, ⟨c.mark.index + n, c.mark.line + 1, 0⟩⟩
  match c.rest with
  | '\r' :: '\n' :: _ => (['\n'], next 2)
  | d :: _ =>
    if d == '\u2028' || d == '\u2029' then ([d], next 1)
    else if isBreak d then (['\n'], next 1)
    else ([], c)
  | [] => ([], c)

def skipWhile (p : Char → Bool) (c : Cursor) : Cursor := c.skip (c.rest.takeWhile p).length

def startsWith (c : Cursor) (d : Char) : Bool := c.rest.head? == some d

/-- Three dashes or three dots at the start of a line, with a gap after them. -/
def atDocumentMark (c : Cursor) : Bool :=
  c.column = 0 && (c.rest.take 3 == ['-', '-', '-'] || c.rest.take 3 == ['.', '.', '.'])
    && atGap (c.rest.drop 3)

end Cursor

/-! ## Gaps inside scalars -/

/-- Blanks and breaks between two parts of a scalar. -/
structure Gap where
  blanks : List Char
  first : List Char
  more : List Char
  broken : Bool

namespace Gap

def empty : Gap := ⟨[], [], [], false⟩

/-- What a gap stands for. -/
def fold (g : Gap) : List Char :=
  if g.broken then
    if g.first = ['\n'] then if g.more.isEmpty then [' '] else g.more
    else g.first ++ g.more
  else g.blanks

/-- Takes the blanks and breaks at a cursor. A tab in front of the column `margin` is refused. -/
def scan (margin : Int) : Nat → Gap → Cursor → Option (Gap × Cursor)
  | 0, g, c => some (g, c)
  | fuel + 1, g, c =>
    match c.rest with
    | [] => some (g, c)
    | d :: _ =>
      if isBlank d then
        if g.broken then
          if d == '\t' && (c.column : Int) < margin then none
          else scan margin fuel g (c.skip 1)
        else scan margin fuel { g with blanks := g.blanks ++ [d] } (c.skip 1)
      else if isBreak d then
        let (b, c) := c.lineBreak
        if g.broken then scan margin fuel { g with more := g.more ++ b } c
        else scan margin fuel ⟨[], b, [], true⟩ c
      else some (g, c)

end Gap

/-! ## Plain scalars -/

/-- The characters of a plain scalar up to a gap or a mark that ends it. -/
def plainRun (flow : Bool) : List Char → Option (List Char)
  | [] => some []
  | c :: rest =>
    if isBlank c || isBreak c then some []
    else if flow && c == ':' && rest.head?.any (fun d => isFlowMark d || d == '?') then none
    else if (c == ':' && atGap rest) || (flow && isFlowMark c) then some []
    else (plainRun flow rest).map (c :: ·)

/-- The rest of a plain scalar after a gap: its text, whether it ends at a new line, and what
follows. -/
def plainRest (flow : Bool) (margin : Int) :
    Nat → List Char → Gap → Cursor → Option (List Char × Bool × Cursor)
  | 0, _, _, _ => none
  | fuel + 1, text, gap, c =>
    if c.atDocumentMark || c.startsWith '#' then some (text, gap.broken, c)
    else do
      let run ← plainRun flow c.rest
      if run.isEmpty then return (text, gap.broken, c)
      let text := text ++ gap.fold ++ run
      let c := c.skip run.length
      if c.rest.isEmpty || !atGap c.rest then return (text, false, c)
      let (gap, c) ← Gap.scan margin c.rest.length .empty c
      if !flow && (c.column : Int) < margin then return (text, gap.broken, c)
      plainRest flow margin fuel text gap c

/-! ## Quoted scalars -/

def simpleEscape? (c : Char) : Option Char :=
  if c == '0' then some (Char.ofNat 0)
  else if c == 'a' then some (Char.ofNat 7)
  else if c == 'b' then some (Char.ofNat 8)
  else if c == 't' || c == '\t' then some '\t'
  else if c == 'n' then some '\n'
  else if c == 'v' then some (Char.ofNat 11)
  else if c == 'f' then some (Char.ofNat 12)
  else if c == 'r' then some '\r'
  else if c == 'e' then some (Char.ofNat 27)
  else if c == ' ' || c == '"' || c == '/' || c == '\\' then some c
  else if c == 'N' then some '\u0085'
  else if c == '_' then some '\u00a0'
  else if c == 'L' then some '\u2028'
  else if c == 'P' then some '\u2029'
  else none

/-- One escape after its backslash: the character, and the number of characters it took. -/
def escape? (cs : List Char) : Option (Char × Nat) :=
  match cs with
  | 'x' :: rest => (Text.hexChar? 2 (rest.take 2)).map (·, 3)
  | 'u' :: rest => (Text.hexChar? 4 (rest.take 4)).map (·, 5)
  | 'U' :: rest => (Text.hexChar? 8 (rest.take 8)).map (·, 9)
  | c :: _ => (simpleEscape? c).map (·, 1)
  | [] => none

/-- The characters of a quoted scalar up to a gap, a closing quote or an escaped break. Also
says how many characters they took. -/
def quotedRun (quote : Char) : Nat → List Char → Option (List Char × Nat)
  | 0, _ => none
  | fuel + 1, cs =>
    match cs with
    | [] => some ([], 0)
    | c :: rest =>
      if isBlank c || isBreak c then some ([], 0)
      else if c == quote then
        if quote == '\'' && rest.head? == some '\'' then
          (quotedRun quote fuel (rest.drop 1)).map fun (s, n) => ('\'' :: s, n + 2)
        else some ([], 0)
      else if c == '\\' && quote == '"' then
        if rest.head?.any isBreak then some ([], 0)
        else do
          let (e, n) ← escape? rest
          let (s, m) ← quotedRun quote fuel (rest.drop n)
          return (e :: s, n + m + 1)
      else (quotedRun quote fuel rest).map fun (s, n) => (c :: s, n + 1)

/-- The rest of a quoted scalar: its text, and what follows its closing quote. -/
def quotedRest (quote : Char) : Nat → List Char → Cursor → Option (List Char × Cursor)
  | 0, _, _ => none
  | fuel + 1, text, c =>
    if c.atDocumentMark then none
    else do
      let (run, n) ← quotedRun quote (c.rest.length + 1) c.rest
      let text := text ++ run
      let c := c.skip n
      match c.rest with
      | [] => none
      | d :: _ =>
        let (gap, c) :=
          if d == '\\' then ({ Gap.empty with broken := true }, (c.skip 1).lineBreak.2)
          else (Gap.empty, c)
        if c.startsWith quote then return (text, c.skip 1)
        let (gap, c) ← Gap.scan 0 c.rest.length gap c
        quotedRest quote fuel (text ++ gap.fold) c

/-! ## Block scalars -/

/-- What becomes of the line breaks at the end of a block scalar. -/
inductive Chomp where
  | strip
  | clip
  | keep
  deriving DecidableEq

def chomp? (c : Char) : Option Chomp :=
  if c == '+' then some .keep else if c == '-' then some .strip else none

/-- The indicators after the mark of a block scalar: indentation, chomping, and how many there
are. -/
def blockIndicators (cs : List Char) : Option (Nat × Chomp × Nat) :=
  match cs with
  | a :: b :: _ =>
    match chomp? a, chomp? b with
    | some ch, _ => if b.isDigit then indented b ch 2 else some (0, ch, 1)
    | none, some ch => if a.isDigit then indented a ch 2 else some (0, .clip, 0)
    | none, none => if a.isDigit then indented a .clip 1 else some (0, .clip, 0)
  | [a] =>
    match chomp? a with
    | some ch => some (0, ch, 1)
    | none => if a.isDigit then indented a .clip 1 else some (0, .clip, 0)
  | [] => some (0, .clip, 0)
where
  indented (d : Char) (ch : Chomp) (n : Nat) : Option (Nat × Chomp × Nat) :=
    if d == '0' then none else some (d.toNat - 48, ch, n)

/-- Takes indentation and empty lines: the breaks, the greatest column reached, and what
follows. An indentation of zero is not known yet. -/
def blockBreaks (indent : Nat) :
    Nat → List Char → Nat → Cursor → Option (List Char × Nat × Cursor)
  | 0, breaks, reached, c => some (breaks, reached, c)
  | fuel + 1, breaks, reached, c =>
    let blanks := (c.rest.takeWhile (· == ' ')).length
    let c := c.skip (if indent = 0 then blanks else min blanks (indent - c.column))
    let reached := max reached c.column
    if (indent = 0 || c.column < indent) && c.startsWith '\t' then none
    else if c.rest.head?.any isBreak then
      let (b, c) := c.lineBreak
      blockBreaks indent fuel (breaks ++ b) reached c
    else some (breaks, reached, c)

/-- The lines of a block scalar and the breaks after the last one: its text so far, the last
break, the breaks after that, and what follows. -/
def blockLines (literal : Bool) (indent : Nat) :
    Nat → (text first more : List Char) → (leadingBlank : Bool) → Cursor →
      Option (List Char × List Char × List Char × Cursor)
  | 0, _, _, _, _, _ => none
  | fuel + 1, text, first, more, leadingBlank, c =>
    if c.column ≠ indent || c.rest.isEmpty then some (text, first, more, c)
    else do
      let blank := c.rest.head?.any isBlank
      let joint :=
        if !literal && first = ['\n'] && !leadingBlank && !blank then
          if more.isEmpty then [' '] else []
        else first
      let line := c.rest.takeWhile (!isBreak ·)
      let (first, c) := (c.skip line.length).lineBreak
      let (breaks, _, c) ← blockBreaks indent (c.rest.length + 1) [] 0 c
      blockLines literal indent fuel (text ++ joint ++ more ++ line) first breaks blank c

/-- A block scalar after its mark. `outer` is the indentation of the block around it. -/
def blockScalar (literal : Bool) (outer : Int) (c : Cursor) : Option (List Char × Cursor) := do
  let (increment, chomp, n) ← blockIndicators c.rest
  let c := (c.skip n).skipWhile isBlank
  let c := if c.startsWith '#' then c.skipWhile (!isBreak ·) else c
  if !atLineEnd c.rest then none
  let c := c.lineBreak.2
  let given := if increment = 0 then 0
    else if 0 ≤ outer then outer.toNat + increment else increment
  let (breaks, reached, c) ← blockBreaks given (c.rest.length + 1) [] 0 c
  let indent := if given = 0 then max reached (max 1 (outer + 1).toNat) else given
  let (text, first, more, c) ←
    blockLines literal indent (c.rest.length + 2) [] [] breaks false c
  let tail := match chomp with
    | .strip => []
    | .clip => first
    | .keep => first ++ more
  return (text ++ tail, c)

/-! ## Names and tags -/

/-- The name of an anchor or alias. -/
def anchorName (c : Cursor) : Option (String × Cursor) :=
  let name := c.rest.takeWhile isWordChar
  let c := c.skip name.length
  let closed := atGap c.rest || c.rest.head?.any fun d =>
    d == '?' || d == ':' || d == ',' || d == ']' || d == '\x7d' || d == '%' || d == '@'
      || d == Char.ofNat 0x60
  if name.isEmpty || !closed then none else some (String.ofList name, c)

def isTagChar (verbatim : Bool) (c : Char) : Bool :=
  isWordChar c || (";/?:@&=+$.!~*'()%".toList).contains c
    || (verbatim && (c == ',' || c == '[' || c == ']'))

/-- Replaces the percent signs of a tag by the bytes they stand for. -/
def tagBytes : Nat → List Char → Option (List UInt8)
  | 0, _ => none
  | fuel + 1, cs =>
    match cs with
    | [] => some []
    | '%' :: rest => do
      let n ← if (rest.take 2).length = 2 then Text.valueOf? 16 (rest.take 2) else none
      return UInt8.ofNat n :: (← tagBytes fuel (rest.drop 2))
    | c :: rest => (tagBytes fuel rest).map ((String.ofList [c]).toUTF8.toList ++ ·)

/-- The text of a tag, and what follows it. -/
def tagText (verbatim : Bool) (c : Cursor) : Option (String × Cursor) := do
  let raw := c.rest.takeWhile (isTagChar verbatim)
  let bytes ← tagBytes (raw.length + 1) raw
  return (← String.fromUTF8? ⟨bytes.toArray⟩, c.skip raw.length)

/-- A tag whose exclamation mark is first: its handle and the rest of it. -/
def tag (flow : Bool) (c : Cursor) : Option (String × String × Cursor) := do
  let (handle, text, c) ← (match c.rest with
    | '!' :: '<' :: _ => do
      let (text, c) ← tagText true (c.skip 2)
      if text.isEmpty || !c.startsWith '>' then none
      return ("", text, c.skip 1)
    | _ => do
      let name := (c.rest.drop 1).takeWhile isWordChar
      let after := c.skip (name.length + 1)
      if after.startsWith '!' then
        let (text, rest) ← tagText false (after.skip 1)
        if text.isEmpty then none
        return (String.ofList ('!' :: name ++ ['!']), text, rest)
      else
        let (text, rest) ← tagText false (c.skip 1)
        if text.isEmpty then return ("", "!", rest) else return ("!", text, rest))
  if atGap c.rest || (flow && c.startsWith ',') then return (handle, text, c) else none

end Overlay.Yaml
