import Overlay.Source.Grammar.Type

/-!
# Patterns
-/

namespace Overlay.Source.Grammar

open Text (ticked)

open Overlay.Source.Parser

/-- Whether alternatives of a pattern go on. -/
def isAlternative (ts : List Token) : Bool :=
  isMark "|" ts && !isMark "||" ts && !isMark "|=" ts

/-- A pattern with alternatives, which may start with the mark between them. -/
def alternatives (g : Grammar) : Parser Node := do
  let before ← get
  let leading ← mark? "|"
  let first ← g.pattern
  let rest ← repeating do
    if isAlternative (← ahead) then
      mark "|"
      return some (← g.pattern)
    else return none
  if leading || !rest.isEmpty then nodeSince before .pattern (first :: rest)
  else return first

/-- The marks between the ends of a range: whether the range is closed. -/
def rangeLimits (obsolete : Bool) : Parser Bool := do
  let ts ← ahead
  if isMark "..=" ts then mark "..="; return true
  else if isMark "..." ts then
    if obsolete then mark "..."; return true else expected [ticked "..="]
  else if isMark ".." ts then mark ".."; return false
  else expected [ticked ".."]

/-- A constant block. -/
def constBlock (g : Grammar) : Parser Node := do
  let before ← get
  word "const"
  let parts ← group .brace do
    let attributes ← innerAttributes g
    return attributes ++ (← g.statements)
  nodeSince before .block parts

/-- An end of a range pattern, if one follows. -/
def rangeBound (g : Grammar) : Parser (Option Node) := do
  let ts ← ahead
  if ts.isEmpty || isMark "|" ts || isMark "=" ts || (isMark ":" ts && !isMark "::" ts)
      || isMark "," ts || isMark ";" ts || isWord "if" ts then return none
  else if isLiteral ts then
    return some (← node .expression do literal; return [])
  else if isName ts || isMark "::" ts || isMark "<" ts
      || isAnyWord ["self", "Self", "super", "crate"] ts then
    let before ← get
    let p ← qualifiedPath g true
    return some (← nodeSince before (.path p.qualified p.segments) p.parts)
  else if isWord "const" ts then return some (← constBlock g)
  else
    expected ["literal", "identifier", ticked "::", ticked "<", ticked "self", ticked "Self",
      ticked "super", ticked "crate", ticked "const"]

/-- The rest of a range pattern after its start. -/
def rangePattern (g : Grammar) (start : List Node) : Parser (Role × List Node) := do
  let closed ← rangeLimits true
  match ← rangeBound g with
  | some stop => return (.pattern, start ++ [stop])
  | none => if closed then refuse "expected range upper bound" else return (.openRange, start)

/-- A range pattern without start, or the pattern for what is left. -/
def rangeToPattern (g : Grammar) : Parser (Role × List Node) := do
  let closed ← rangeLimits false
  match ← rangeBound g with
  | some stop => return (.openRange, [stop])
  | none => if closed then refuse "expected range upper bound" else return (.restPattern, [])

/-- A field of a structure pattern after its attributes. -/
def fieldPattern (g : Grammar) : Parser (List Node) := do
  let boxed ← word? "box"
  let byRef ← word? "ref"
  let mutable ← word? "mut"
  if boxed || byRef || mutable then
    let _ ← name
    return []
  else
    let named ← member
    if !named || isMark ":" (← ahead) then
      mark ":"
      return [← alternatives g]
    else return []

/-- The fields of a structure pattern. -/
def structPattern (g : Grammar) : Nat → Parser (List Node)
  | 0 => return []
  | n + 1 => do
    if ← atEnd then return []
    let attributes ← outerAttributes g
    if ← mark? ".." then return attributes
    let field ← fieldPattern g
    if ← atEnd then return attributes ++ field
    mark ","
    return attributes ++ field ++ (← structPattern g n)

/-- A pattern that starts with a path. -/
def pathPattern (g : Grammar) : Parser (Role × List Node) := do
  let p ← qualifiedPath g true
  let ts ← ahead
  if !p.qualified && isMark "!" ts && !isMark "!=" ts && p.plain then
    mark "!"
    let _ ← macroCall p.segments
    return (.pattern, [])
  else if isGroup .brace ts then
    let fields ← group .brace do structPattern g ((← ahead).length + 1)
    return (.pattern, p.parts ++ fields)
  else if isGroup .paren ts then
    let elements ← group .paren (commaList (alternatives g))
    return (.pattern, p.parts ++ elements)
  else if isMark ".." ts then
    let before ← get
    let start ← nodeSince before (.path p.qualified p.segments) p.parts
    rangePattern g [start]
  else return (.pattern, p.parts)

/-- The elements of a slice pattern. -/
def slicePattern (g : Grammar) : Parser (List Node) :=
  commaList do
    let element ← alternatives g
    match element.role with
    | .openRange =>
      let p := (element.span?.map (·.start)).getD (place (← get))
      refuseAt p "range pattern is not allowed unparenthesized inside slice pattern"
    | _ => return element

/-- A name that a value is bound to, and the pattern that it has to match. -/
def bindingPattern (g : Grammar) : Parser (Role × List Node) := do
  let _ ← word? "ref"
  let _ ← word? "mut"
  let _ ← if isWord "self" (← ahead) then anyIdent else name
  if ← mark? "@" then return (.pattern, [← g.pattern]) else return (.pattern, [])

def patternContent (g : Grammar) : Parser (Role × List Node) := do
  let ts ← ahead
  let next := ts.tail
  if (isName ts && (isMark "::" next || isMark "!" next || isGroup .brace next
        || isGroup .paren next || isMark ".." next))
      || (isWord "self" ts && isMark "::" next) || isMark "::" ts || isMark "<" ts
      || isAnyWord ["Self", "super", "crate"] ts then pathPattern g
  else if isWord "_" ts then skip 1; return (.pattern, [])
  else if isWord "box" ts then
    word "box"
    let _ ← g.pattern
    return (.pattern, [])
  else if isMark "-" ts || isLiteral ts || isWord "const" ts then
    match ← rangeBound g with
    | some start =>
      if isMark ".." (← ahead) then rangePattern g [start] else return (.pattern, [start])
    | none => return (.pattern, [])
  else if isAnyWord ["ref", "mut", "self"] ts || isName ts then bindingPattern g
  else if isMark "&" ts then
    mark "&"
    let _ ← word? "mut"
    return (.pattern, [← g.pattern])
  else if isGroup .paren ts then
    return (.pattern, ← group .paren (commaList (alternatives g)))
  else if isGroup .bracket ts then
    return (.pattern, ← group .bracket (slicePattern g))
  else if isMark ".." ts && !isMark "..." ts then rangeToPattern g
  else
    expected <| ["identifier", ticked "::", ticked "<", ticked "_", "literal", ticked "const",
      ticked "ref", ticked "mut", ticked "&", groupName .paren, groupName .bracket]
      ++ (if isMark ".." ts then [] else [ticked ".."]) ++ [ticked "const"]

def patternProduction (g : Grammar) : Parser Node := do
  let before ← get
  let (role, parts) ← patternContent g
  nodeSince before role parts

end Overlay.Source.Grammar
