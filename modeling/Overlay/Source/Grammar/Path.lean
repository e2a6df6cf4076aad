import Overlay.Source.Parser

/-!
# Paths, attributes, macros and visibility

The grammar is written with open recursion: a production that needs an expression, a type, a
pattern, statements or a declaration takes them from a record of productions. The record is closed
once, where the whole grammar is put together.

Productions that only the walk through the tree asks for return their parts: the nodes inside them,
in the order of the walk.
-/

namespace Overlay.Source

open Overlay.Source.Parser

/-- How tightly an operator binds; a higher level binds more tightly. -/
abbrev Level := Nat

/-- The productions that stand inside each other. -/
structure Grammar where
  /-- An expression; without structure literals where a brace would start a block. -/
  expr : (allowRecord : Bool) → Parser Node
  /-- An operand with its prefix operators and trailers. -/
  unary : (allowRecord : Bool) → Parser Node
  /-- The operators of at least the given level that follow an operand. -/
  climb : Node → (allowRecord : Bool) → Level → Parser Node
  /-- An expression at the start of a statement or of the value of an arm: one that ends like a
  block ends there, unless a member access or a question mark follows. -/
  statementExpr : Parser Node
  /-- A type; with bounds added by `+` where that is allowed. -/
  type : (allowPlus : Bool) → Parser Node
  /-- One bound of a type parameter. -/
  bound : Parser (List Node)
  /-- A pattern without alternatives. -/
  pattern : Parser Node
  /-- The statements up to the end of a block. -/
  statements : Parser (List Node)
  /-- A declaration. -/
  item : Parser Node
  /-- What an import names; none if a part of it starts at the root of all crates. -/
  useTree : (allowRoot : Bool) → Parser (Option UseTree)
  /-- The fields between braces. -/
  namedFields : Parser (List Node)

namespace Grammar

/-! ## Paths -/

/-- A path of names without arguments. `trailing` if it ends in `::`. -/
def modSegments : Nat → Parser (List String × Bool)
  | 0 => return ([], false)
  | n + 1 => do
    let ts ← ahead
    if isName ts || isAnyWord ["super", "self", "Self", "crate"] ts then
      let segment ← anyIdent
      if ← mark? "::" then
        let (rest, trailing) ← modSegments n
        return (segment :: rest, rest.isEmpty || trailing)
      else return ([segment], false)
    else return ([], false)

/-- A path without arguments, and whether it starts at the root of all crates. -/
def modPath : Parser (Bool × List String) := do
  let rooted ← mark? "::"
  let (segments, trailing) ← modSegments ((← ahead).length + 1)
  if segments.isEmpty then
    let segment ← name
    return (rooted, [segment])
  else if trailing then refuse "expected path segment after `::`"
  else return (rooted, segments)

/-- A path: its names, what is inside its arguments, and whether its segments have arguments. -/
structure PathSyntax where
  qualified : Bool
  rooted : Bool
  segments : List String
  parts : List Node
  /-- No segment has arguments. -/
  plain : Bool
  /-- The last segment has no arguments. -/
  lastPlain : Bool

/-- An expression that may be the value of a constant argument. -/
def constArgument (g : Grammar) : Parser Node := do
  let ts ← ahead
  if isLiteral ts then node .expression do literal; return []
  else if isName ts then
    let before ← get
    let n ← name
    nodeSince before (.path false [n]) []
  else if isGroup .brace ts then
    node .block (group .brace g.statements)
  else expected []

/-- The argument that a parameter of a path is given. -/
def genericArgument (g : Grammar) : Parser (List Node) := do
  let ts ← ahead
  if isLifetime ts && !isMark "+" ts.tail then lifetime; return []
  else if isLiteral ts || isGroup .brace ts then return [← constArgument g]
  else
    let argument ← g.type true
    match argument.role with
    | .typeExpr (.path false true) =>
      if ← mark? "=" then
        let value ← ahead
        if isLiteral value || isGroup .brace value then
          return argument.children ++ [← constArgument g]
        else return argument.children ++ [← g.type true]
      else if ← mark? ":" then
        let bounds ← separatedWhile (fun ts => isMark "," ts || isMark ">" ts) "+" g.bound
        return argument.children ++ bounds.flatten
      else return [argument]
    | _ => return [argument]

/-- Arguments between angle brackets. -/
def angleArguments (g : Grammar) : Parser (List Node) := do
  let _ ← mark? "::"
  mark "<"
  let arguments ← separatedUntil (isMark ">") "," (genericArgument g)
  mark ">"
  return arguments.flatten

/-- One segment: its name, the parts of its arguments, and whether it has none. -/
def segment (g : Grammar) (exprStyle : Bool) :
    Parser (String × List Node × Bool) := do
  let ts ← ahead
  if isAnyWord ["super", "self", "crate", "try"] ts then
    return (← anyIdent, [], true)
  else
    let n ← if isWord "Self" ts then anyIdent else name
    let ts ← ahead
    if (!exprStyle && isMark "<" ts && !isMark "<=" ts)
        || (isMark "::" ts && isMark "<" (ts.drop 2)) then
      return (n, ← angleArguments g, false)
    else return (n, [], true)

/-- The segments after the first; a parenthesis after `::` ends the path. -/
def moreSegments (g : Grammar) (exprStyle stopAtParen : Bool) :
    Parser (List (String × List Node × Bool)) :=
  repeating do
    let ts ← ahead
    if isMark "::" ts && !(stopAtParen && isGroup .paren (ts.drop 2)) then
      mark "::"
      return some (← segment g exprStyle)
    else return none

def PathSyntax.ofSegments (qualified rooted : Bool) (parts : List Node)
    (segments : List (String × List Node × Bool)) : PathSyntax :=
  { qualified, rooted
    segments := segments.map (·.1)
    parts := parts ++ segments.flatMap (·.2.1)
    plain := segments.all (·.2.2)
    lastPlain := (segments.getLast?.map (·.2.2)).getD true }

/-- A path that no type qualifies. -/
def path (g : Grammar) (exprStyle : Bool) : Parser PathSyntax := do
  let rooted ← mark? "::"
  let first ← segment g exprStyle
  let rest ← moreSegments g exprStyle true
  return .ofSegments false rooted [] (first :: rest)

/-- A path that may be qualified by a type in angle brackets. -/
def qualifiedPath (g : Grammar) (exprStyle : Bool) :
    Parser PathSyntax := do
  if isMark "<" (← ahead) then
    mark "<"
    let self ← g.type true
    if ← word? "as" then
      let owner ← path g false
      mark ">"
      mark "::"
      let first ← segment g exprStyle
      let rest ← moreSegments g exprStyle false
      let last : PathSyntax := .ofSegments true false [] (first :: rest)
      return { last with
        rooted := owner.rooted
        segments := owner.segments ++ last.segments
        parts := self :: owner.parts ++ last.parts
        plain := owner.plain && last.plain }
    else
      mark ">"
      mark "::"
      let first ← segment g exprStyle
      let rest ← moreSegments g exprStyle false
      return .ofSegments true true [self] (first :: rest)
  else path g exprStyle

/-! ## Macros -/

/-- The call of a macro after its path and the mark. -/
def macroCall (segments : List String) : Parser MacroCall := do
  let (delimiter, closing, body) ← anyGroup
  return { path := segments, delimiter, closing, body }

/-! ## Attributes -/

/-- The content of an attribute. -/
def attributeContent (g : Grammar) (inner : Bool) : Parser (Role × List Node) := do
  let (rooted, segments) ←
    if isWord "unsafe" (← ahead) then
      let w ← anyIdent
      pure (false, [w])
    else modPath
  let ts ← ahead
  match ts with
  | .group _ _ close body :: _ =>
    skip 1
    return (.attribute inner rooted segments (.list close body), [])
  | _ =>
    if isMark "=" ts then
      mark "="
      let value ← ahead
      if isLiteral value then
        match ← peek (do literal; atEnd) with
        | .ok true =>
          let lit ← node .expression do literal; return []
          return (.attribute inner rooted segments .value, [lit])
        | _ => return (.attribute inner rooted segments .value, [← g.expr true])
      else if isMark "#" value && isGroup .bracket value.tail then
        refuse "unexpected attribute inside of attribute"
      else return (.attribute inner rooted segments .value, [← g.expr true])
    else return (.attribute inner rooted segments .bare, [])

/-- An attribute of what follows. -/
def outerAttribute (g : Grammar) : Parser Node := do
  let before ← get
  mark "#"
  let (role, children) ← group .bracket (attributeContent g false)
  nodeSince before role children

def outerAttributes (g : Grammar) : Parser (List Node) :=
  repeating do
    if isMark "#" (← ahead) then return some (← outerAttribute g) else return none

/-- Attributes of what is around them. -/
def innerAttributes (g : Grammar) : Parser (List Node) :=
  repeating do
    let ts ← ahead
    if isMark "#" ts && isMark "!" ts.tail then
      let before ← get
      mark "#"
      mark "!"
      let (role, children) ← group .bracket (attributeContent g true)
      return some (← nodeSince before role children)
    else return none

/-! ## Visibility -/

/-- Reads the visibility of a declaration, and says if there is one. -/
def visibility : Parser Bool := do
  if ← word? "pub" then
    match ← ahead with
    | .group .paren _ _ body :: _ =>
      if isAnyWord ["crate", "self", "super"] body then
        if body.length == 1 then skip 1
      else if isWord "in" body then
        group .paren do
          word "in"
          let _ ← modPath
    | _ => pure ()
    return true
  else return false

/-! ## Fields and members -/

/-- Whether the text is a number without a suffix that fits the index of a field. -/
def isIndexText (text : String) : Bool := text.toList.all fun c => c.isDigit || c == '_'

/-- The value of a number between underscores. -/
def indexValue (text : String) : Nat :=
  text.toList.foldl (fun n c => if c.isDigit then n * 10 + (c.toNat - 48) else n) 0

/-- The index of a field; it is a number without suffix that fits 32 bits. -/
def index (text : String) (p : Position) : Parser Unit := do
  if !isIndexText text then
    match text.toList with
    | '0' :: c :: _ =>
      if c == 'x' || c == 'o' || c == 'b' then pure ()
      else refuseAt p "expected unsuffixed integer"
    | _ => refuseAt p "expected unsuffixed integer"
  else if indexValue text ≥ Nat.pow 2 32 then refuseAt p "number too large to fit in target type"

/-- A field's name or index; says whether it is a name. -/
def member : Parser Bool := do
  match ← ahead with
  | .literal text span :: _ =>
    if isNumberText text && !isFloatText text then
      index text span.start
      skip 1
      return false
    else refuse "expected identifier or integer"
  | .punct '-' _ span :: .literal text _ :: _ =>
    if isNumberText text && !isFloatText text then
      refuseAt span.start "invalid digit found in string"
    else refuse "expected identifier or integer"
  | ts =>
    if isName ts then
      skip 1
      return true
    else refuse "expected identifier or integer"

end Grammar

end Overlay.Source
