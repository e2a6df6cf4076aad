import Overlay.Yaml.Tokens

/-!
# Nodes of a YAML document

Tokens make a tree of scalars, sequences and mappings. Tags are resolved to their full text, and an
alias stands for the node with its anchor.
-/

namespace Overlay.Yaml

/-- A node, where it starts, and its tag. -/
inductive Node where
  | scalar (mark : Mark) (tag : Option String) (text : String) (plain : Bool)
  | sequence (mark : Mark) (tag : Option String) (items : List Node)
  | mapping (mark : Mark) (tag : Option String) (entries : List (Node × Node))

namespace Node

/-- A node that is not written. -/
def missing (mark : Mark) : Node := .scalar mark none "" true

end Node

/-- The tokens that remain, the anchored nodes, and the handles of tags. -/
structure Composer where
  tokens : List Token
  anchors : List (String × Node)
  handles : List (String × String)

/-- A step that takes tokens and may fail. -/
abbrev Compose := StateT Composer Option

namespace Compose

/-- The next token, which stays. -/
def peek : Compose Token := do
  match (← get).tokens with
  | t :: _ => return t
  | [] => failure

def skip : Compose Unit := modify fun s => { s with tokens := s.tokens.drop 1 }

/-- Takes the next token if it is of a kind. -/
def accept (kind : TokenKind) : Compose Bool := do
  if (← peek).kind == kind then
    skip
    return true
  else return false

/-- Takes the next token, which has to be of a kind. -/
def expect (kind : TokenKind) : Compose Unit := do
  if !(← accept kind) then failure

/-- Anchor and tag in front of a node, in either order. -/
structure Properties where
  anchor : Option String
  tag : Option String

/-- The full text of a tag. -/
def resolveTag (handle suffix : String) : Compose String := do
  if handle.isEmpty then return suffix
  match (← get).handles.find? fun h => h.1 == handle with
  | some (_, stem) => return stem ++ suffix
  | none => failure

def properties : (fuel : Nat) → Properties → Compose Properties
  | 0, p => return p
  | fuel + 1, p => do
    match (← peek).kind with
    | .anchor name =>
      if p.anchor.isSome then return p
      skip
      properties fuel { p with anchor := some name }
    | .tag handle suffix =>
      if p.tag.isSome then return p
      skip
      properties fuel { p with tag := some (← resolveTag handle suffix) }
    | _ => return p

/-- A reader of nodes. The flags say whether blocks may open, and whether a sequence may stand at
the column of the key before it. -/
abbrev Reader := (block indentless : Bool) → Compose Node

/-- A node, unless one of these tokens says that it is missing. -/
def orMissing (node : Compose Node) (absent : List TokenKind) : Compose Node := do
  let t ← peek
  if absent.contains t.kind then return .missing t.mark else node

def blockItems (node : Reader) : Nat → Compose (List Node)
  | 0 => failure
  | fuel + 1 => do
    if ← accept .blockEnd then return []
    expect .entry
    let item ← orMissing (node true false) [.entry, .blockEnd]
    return item :: (← blockItems node fuel)

def indentlessItems (node : Reader) : Nat → Compose (List Node)
  | 0 => failure
  | fuel + 1 => do
    if ← accept .entry then
      let item ← orMissing (node true false) [.entry, .key, .value, .blockEnd]
      return item :: (← indentlessItems node fuel)
    else return []

def blockEntries (node : Reader) : Nat → Compose (List (Node × Node))
  | 0 => failure
  | fuel + 1 => do
    if ← accept .blockEnd then return []
    expect .key
    let key ← orMissing (node true true) [.key, .value, .blockEnd]
    let mark := (← peek).mark
    let value ←
      if ← accept .value then orMissing (node true true) [.key, .value, .blockEnd]
      else pure (.missing mark)
    return (key, value) :: (← blockEntries node fuel)

/-- A value inside brackets, which may be missing together with its colon. -/
def flowValue (node : Reader) (closing : TokenKind) : Compose Node := do
  let mark := (← peek).mark
  if ← accept .value then orMissing (node false false) [.comma, closing]
  else return .missing mark

/-- Takes the comma between two elements. -/
def separator (first : Bool) : Compose Unit := if first then pure () else expect .comma

def listItems (node : Reader) : Nat → (first : Bool) → Compose (List Node)
  | 0, _ => failure
  | fuel + 1, first => do
    if ← accept .listClose then return []
    separator first
    let t ← peek
    if t.kind = .listClose then
      skip
      return []
    else if t.kind = .key then
      skip
      let key ← orMissing (node false false) [.value, .comma, .listClose]
      let value ← flowValue node .listClose
      return .mapping t.mark none [(key, value)] :: (← listItems node fuel false)
    else
      let item ← node false false
      return item :: (← listItems node fuel false)

def dictEntries (node : Reader) : Nat → (first : Bool) → Compose (List (Node × Node))
  | 0, _ => failure
  | fuel + 1, first => do
    if ← accept .dictClose then return []
    separator first
    let t ← peek
    if t.kind = .dictClose then
      skip
      return []
    else if t.kind = .key then
      skip
      let key ← orMissing (node false false) [.value, .comma, .dictClose]
      let value ← flowValue node .dictClose
      return (key, value) :: (← dictEntries node fuel false)
    else
      let key ← node false false
      return (key, .missing (← peek).mark) :: (← dictEntries node fuel false)

/-- The content of a node after its properties. -/
def content (node : Reader) (fuel : Nat) (block indentless : Bool) (mark : Mark)
    (p : Properties) : Compose Node := do
  match (← peek).kind with
  | .scalar text plain =>
    skip
    if p.tag = some "!" then return .scalar mark none text plain
    return .scalar mark p.tag text plain
  | .listOpen =>
    skip
    return .sequence mark p.tag (← listItems node fuel true)
  | .dictOpen =>
    skip
    return .mapping mark p.tag (← dictEntries node fuel true)
  | .entry =>
    if indentless then return .sequence mark p.tag (← indentlessItems node fuel)
    else if p.anchor.isSome || p.tag.isSome then return .scalar mark p.tag "" true
    else failure
  | .sequenceStart =>
    if block then
      skip
      return .sequence mark p.tag (← blockItems node fuel)
    else failure
  | .mappingStart =>
    if block then
      skip
      return .mapping mark p.tag (← blockEntries node fuel)
    else failure
  | _ =>
    if p.anchor.isSome || p.tag.isSome then return .scalar mark p.tag "" true else failure

/-- One node with at most `fuel` levels. Its anchor is known after it, not inside it. -/
def node : (fuel : Nat) → Reader
  | 0, _, _ => failure
  | fuel + 1, block, indentless => do
    let t ← peek
    match t.kind with
    | .reference name =>
      skip
      match (← get).anchors.find? fun a => a.1 == name with
      | some (_, n) => return n
      | none => failure
    | _ =>
      let p ← properties 2 ⟨none, none⟩
      let hidden := fun (a : String × Node) => some a.1 == p.anchor
      modify fun s => { s with anchors := s.anchors.filter (!hidden ·) }
      let n ← content (node fuel) (fuel + 1) block indentless t.mark p
      match p.anchor with
      | some name => modify fun s => { s with anchors := (name, n) :: s.anchors }
      | none => pure ()
      return n

def standardHandles : List (String × String) := [("!", "!"), ("!!", "tag:yaml.org,2002:")]

/-- The directives in front of a document. A version is given once, and so is each handle. -/
def directives : Nat → (versioned : Bool) → Compose Unit
  | 0, _ => failure
  | fuel + 1, versioned => do
    match (← peek).kind with
    | .version major minor =>
      if versioned || major ≠ 1 || (minor ≠ 1 && minor ≠ 2) then failure
      skip
      directives fuel true
    | .tagHandle handle stem =>
      if (← get).handles.any fun h => h.1 == handle then failure
      skip
      modify fun s => { s with handles := (handle, stem) :: s.handles }
      directives fuel versioned
    | _ => return ()

def skipDocumentEnds : Nat → Compose Unit
  | 0 => return ()
  | fuel + 1 => do if ← accept .documentEnd then skipDocumentEnds fuel

/-- Handles that directives leave alone have their standard meaning. -/
def addStandardHandles : Compose Unit :=
  modify fun s => { s with handles := s.handles ++ standardHandles }

/-- The one document of a stream, which may go without its mark; none if the stream is empty. -/
def document (fuel : Nat) : Compose (Option Node) := do
  match (← peek).kind with
  | .streamEnd => return none
  | .version .. | .tagHandle .. | .documentStart =>
    directives fuel false
    addStandardHandles
    expect .documentStart
    let n ← orMissing (node fuel true false) [.documentStart, .documentEnd, .streamEnd]
    close n
  | _ =>
    addStandardHandles
    close (← node fuel true false)
where
  close (n : Node) : Compose (Option Node) := do
    skipDocumentEnds fuel
    expect .streamEnd
    return some n

end Compose

/-- The document of a text, if the text is a stream of at most one. -/
def Node.ofText? (text : String) : Option (Option Node) := do
  let tokens ← tokens? text
  let (n, _) ← (Compose.document (tokens.length + 1)).run ⟨tokens, [], []⟩
  return n

end Overlay.Yaml
