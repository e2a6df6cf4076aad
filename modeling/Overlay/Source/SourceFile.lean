import Overlay.Source.Grammar

/-!
# Source files and their snippets

A source file keeps its text, so that a node of its tree can be quoted as it was written: from the
start of its first token to the end of its last. A node that is nowhere in the text is written from
its tokens.
-/

namespace Overlay.Source

/-- One complaint about a source file; lines and columns count from one. -/
structure Diagnostic where
  path : String
  line : Nat
  column : Nat
  message : String

def Diagnostic.render (d : Diagnostic) : String :=
  d.path ++ ":" ++ toString d.line ++ ":" ++ toString d.column ++ ": " ++ d.message

/-- A source file with its text and its tree. -/
structure SourceFile where
  path : String
  text : String
  tree : File

/-- The complaint that a fault gives in a file. -/
def Fault.diagnostic (f : Fault) (path : String) : Diagnostic :=
  ⟨path, f.place.line, f.place.column + 1, f.cause.message⟩

/-! ## Offsets

Positions count lines and characters, offsets count the bytes of a text. -/

/-- The offsets behind the line feeds of a text that starts at `offset`. -/
def behindFeeds (offset : Nat) : List Char → List Nat
  | [] => []
  | c :: cs =>
    if c = '\n' then (offset + 1) :: behindFeeds (offset + 1) cs
    else behindFeeds (offset + c.utf8Size) cs

/-- The offsets at which the lines of a text start. -/
def lineStarts (cs : List Char) : List Nat := 0 :: behindFeeds 0 cs

/-- The offsets at which the characters of a text start that itself starts at `offset`, and that of
its end. -/
def charOffsets (offset : Nat) : List Char → List Nat
  | [] => [offset]
  | c :: cs => offset :: charOffsets (offset + c.utf8Size) cs

/-- The text from an offset on, if that is not inside of a character. -/
def fromOffset? : Nat → List Char → Option (List Char)
  | 0, cs => some cs
  | _ + 1, [] => none
  | n + 1, c :: cs => if c.utf8Size ≤ n + 1 then fromOffset? (n + 1 - c.utf8Size) cs else none

/-- The first `n` bytes of a text, if they do not end inside of a character. -/
def firstBytes? : Nat → List Char → Option (List Char)
  | 0, _ => some []
  | _ + 1, [] => none
  | n + 1, c :: cs =>
    if c.utf8Size ≤ n + 1 then (firstBytes? (n + 1 - c.utf8Size) cs).map (c :: ·) else none

namespace SourceFile

/-- Reads a source file. -/
def parse (path text : String) : Except Diagnostic SourceFile :=
  match parseFile text with
  | .ok tree => .ok { path, text, tree }
  | .error f => .error (f.diagnostic path)

/-- The offset of a position; no line stands before the first one. -/
def offset? (file : SourceFile) (p : Position) : Option Nat :=
  let cs := file.text.toList
  if p.line = 0 then none
  else
    ((lineStarts cs)[p.line - 1]?).bind fun lineStart =>
      (fromOffset? lineStart cs).bind fun rest => (charOffsets lineStart rest)[p.column]?

/-- The text between two offsets, the second of which has to be larger. -/
def between? (file : SourceFile) (start stop : Nat) : Option (List Char) :=
  if start < stop then (fromOffset? start file.text.toList).bind (firstBytes? (stop - start))
  else none

/-- The text of a node, if it is anywhere in the file. -/
def quoted? (file : SourceFile) (n : Node) : Option (List Char) :=
  n.span?.bind fun span =>
    (file.offset? span.start).bind fun start =>
      (file.offset? span.stop).bind fun stop => file.between? start stop

/-- A node as it was written. -/
def snippet (file : SourceFile) (n : Node) : String :=
  match file.quoted? n with
  | some cs => String.ofList cs
  | none => Token.renderAll n.tokens

end SourceFile

end Overlay.Source
