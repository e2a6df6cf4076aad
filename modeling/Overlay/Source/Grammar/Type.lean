import Overlay.Source.Grammar.Path

/-!
# Types, bounds and generic parameters
-/

namespace Overlay.Source.Grammar

open Text (ticked)

open Overlay.Source.Parser

/-! ## Bounds -/

/-- The kinds of bounds. -/
inductive BoundKind where
  | lifetime
  | trait
  | capture
  | constTrait
  deriving DecidableEq

/-- The binder of lifetimes before a type or bound. -/
def boundLifetimes (g : Grammar) : Parser (List Node) := do
  word "for"
  mark "<"
  let lifetimes ← separatedUntil (isMark ">") "," do
    let attributes ← outerAttributes g
    lifetime
    return attributes
  mark ">"
  return lifetimes.flatten

def boundLifetimes? (g : Grammar) : Parser (Bool × List Node) := do
  if isWord "for" (← ahead) then return (true, ← boundLifetimes g) else return (false, [])

/-- The type after an arrow, if there is one. -/
def returnType (g : Grammar) (allowPlus : Bool) : Parser (List Node) := do
  if ← mark? "->" then return [← g.type allowPlus] else return []

/-- Arguments of a callable path between parentheses, and what it returns. -/
def parenArguments (g : Grammar) : Parser (List Node) := do
  let inputs ← group .paren (commaList (g.type true))
  return inputs ++ (← returnType g false)

/-- Whether arguments between parentheses follow a path. -/
def isParenArguments (ts : List Token) : Bool :=
  isGroup .paren ts || (isMark "::" ts && isGroup .paren (ts.drop 2))

/-- A path with arguments between parentheses, if they follow. -/
def withParenArguments (g : Grammar) (p : PathSyntax) : Parser (PathSyntax × Bool) := do
  if isParenArguments (← ahead) then
    let _ ← mark? "::"
    let arguments ← parenArguments g
    return ({ p with parts := p.parts ++ arguments, plain := false, lastPlain := false }, true)
  else return (p, false)

/-- A bound that names a trait. -/
def traitBound (g : Grammar) (allowConst : Bool) : Parser (List Node × BoundKind) := do
  let (hasBinder, binder) ← boundLifetimes? g
  let ts ← ahead
  let isConst := isGroup .bracket ts || isWord "const" ts
  if isGroup .bracket ts then
    let before ← get
    group .bracket (word "const")
    if !allowConst then refuseAt (place before) "`[const]` is not allowed here"
  else if isWord "const" ts then
    let before ← get
    word "const"
    if !allowConst then refuseAt (place before) "`const` is not allowed here"
  let before ← get
  let maybe ← mark? "?"
  let (lateBinder, late) ← if maybe && !hasBinder then boundLifetimes? g else pure (false, [])
  let p ← path g false
  let (p, _) ← if p.lastPlain then withParenArguments g p else pure (p, false)
  if maybe && (hasBinder || lateBinder) then
    refuseAt (place before) "`for<...>` binder not allowed with `?` trait polarity modifier"
  if isConst then return ([], .constTrait)
  else return (binder ++ late ++ p.parts, .trait)

/-- The parameters that an opaque type captures. -/
def captures : Parser Unit := do
  word "use"
  mark "<"
  let _ ← repeating do
    let ts ← ahead
    if isLifetime ts || isName ts || isWord "Self" ts then
      skip 1
      let ts ← ahead
      if isMark "," ts then mark ","; return some ()
      else if isMark ">" ts then return none
      else expected [ticked ",", ticked ">"]
    else if isMark ">" ts then return none
    else expected ["lifetime", "identifier", ticked ">"]
  mark ">"

/-- One bound: its parts and its kind. -/
def boundOf (g : Grammar) (allowCapture allowConst : Bool) : Parser (List Node × BoundKind) := do
  let ts ← ahead
  if isLifetime ts then lifetime; return ([], .lifetime)
  else if isWord "use" ts then
    let before ← get
    captures
    if allowCapture then return ([], .capture)
    else refuseAt (place before) "`use<...>` precise capturing syntax is not allowed here"
  else if isGroup .paren ts then group .paren (traitBound g allowConst)
  else traitBound g allowConst

/-- One bound of a type parameter. -/
def boundProduction (g : Grammar) : Parser (List Node) := do
  let (parts, _) ← boundOf g false true
  return parts

/-- Whether another bound starts after a plus. -/
def startsBound (allowConst : Bool) (ts : List Token) : Bool :=
  isIdent ts || isMark "::" ts || isMark "?" ts || isLifetime ts || isGroup .paren ts
    || (allowConst && (isGroup .bracket ts || isWord "const" ts))

/-- Bounds with pluses between them, of which there is at least one; a plus may end them. -/
def bounds (g : Grammar) (allowPlus allowCapture allowConst : Bool) :
    Parser (List (List Node × BoundKind)) := do
  let first ← boundOf g allowCapture allowConst
  let rest ← repeating do
    if allowPlus && isMark "+" (← ahead) then
      mark "+"
      if startsBound allowConst (← ahead) then return some (← boundOf g allowCapture allowConst)
      else return none
    else return none
  return first :: rest

/-- The bounds of an object type, at least one of which names a trait. -/
def objectBounds (g : Grammar) (start : Position) (allowPlus : Bool) :
    Parser (List (List Node × BoundKind)) := do
  let all ← bounds g allowPlus false false
  if all.all (·.2 == .lifetime) then
    refuseAt start "at least one trait is required for an object type"
  else return all

/-! ## Types -/

/-- The bounds after a first one, each after a plus. -/
def plusBounds (g : Grammar) : Parser (List Node) := do
  let rest ← repeating do
    if ← mark? "+" then
      let (parts, _) ← boundOf g false false
      return some parts
    else return none
  return rest.flatten

/-- An argument of a function pointer; the first may be the receiver. -/
def pointerArgument (g : Grammar) (allowSelf : Bool) : Parser (List Node) := do
  let attributes ← outerAttributes g
  let hasMutSelf ← do
    let ts ← ahead
    if allowSelf && isWord "mut" ts && isWord "self" ts.tail then skip 1; pure true
    else pure false
  let ts ← ahead
  let isSelf := allowSelf && isWord "self" ts
  let named := (isName ts || isWord "_" ts || isSelf)
    && isMark ":" ts.tail && !isMark "::" ts.tail
  if named then
    let _ ← anyIdent
    mark ":"
  let hasSelf := named && isSelf
  let ts ← ahead
  if allowSelf && !hasSelf && isWord "mut" ts && isWord "self" ts.tail then
    skip 2
    return attributes
  else if hasMutSelf && !named then
    word "self"
    return attributes
  else
    let t ← g.type true
    return if hasMutSelf then attributes else attributes ++ [t]

/-- The arguments of a function pointer. -/
def pointerArguments (g : Grammar) (first : Bool) : Nat → Parser (List Node)
  | 0 => return []
  | n + 1 => do
    if ← atEnd then return []
    let attributes ← outerAttributes g
    let ts ← ahead
    if isMark "..." ts
        || ((isName ts || isWord "_" ts) && isMark ":" ts.tail && isMark "..." (ts.drop 2)) then
      if isName ts || isWord "_" ts then
        let _ ← anyIdent
        mark ":"
      mark "..."
      let _ ← mark? ","
      return attributes
    let argument ← pointerArgument g first
    if ← atEnd then return attributes ++ argument
    mark ","
    return attributes ++ argument ++ (← pointerArguments g false n)

/-- The name of a calling convention, if one is given. -/
def callingConvention : Parser Unit := do
  if ← word? "extern" then
    if isString (← ahead) then literal

/-- A function pointer. -/
def functionPointer (g : Grammar) : Parser (List Node) := do
  let (_, binder) ← boundLifetimes? g
  let _ ← word? "unsafe"
  callingConvention
  word "fn"
  let inputs ← group .paren do pointerArguments g true ((← ahead).length + 1)
  return binder ++ inputs ++ (← returnType g false)

/-- A type between parentheses, a tuple, or bounds of which the first is in parentheses. -/
def parenType (g : Grammar) (allowPlus : Bool) : Parser (TypeForm × List Node) := do
  match ← ahead with
  | .group .paren _ _ body :: _ =>
    if body.isEmpty then skip 1; return (.other, [])
    else if isLifetime body then
      let parts ← group .paren do objectBounds g (place (← get)) true
      return (.other, parts.flatMap (·.1))
    else if isMark "?" body then
      let (first, _) ← group .paren (traitBound g false)
      return (.bounds false, first ++ (← plusBounds g))
    else
      let (first, elements) ← group .paren do
        let first ← g.type true
        if isMark "," (← ahead) then
          mark ","
          let rest ← commaList (g.type true)
          return (first, some rest)
        else return (first, none)
      match elements with
      | some rest => return (.other, first :: rest)
      | none =>
        let single := match first.role with
          | .typeExpr (.path false _) => true
          | .typeExpr (.bounds single) => single
          | _ => false
        if allowPlus && single && isMark "+" (← ahead) then
          return (.bounds false, first :: (← plusBounds g))
        else return (.other, [first])
  | _ => expected [groupName .paren]

/-- A type that starts with a path. -/
def pathType (g : Grammar) (allowPlus hasBinder : Bool) : Parser (TypeForm × List Node) := do
  let p ← qualifiedPath g false
  if p.qualified then return (.path true false, p.parts)
  else
    let ts ← ahead
    if isMark "!" ts && !isMark "!=" ts && p.plain then
      mark "!"
      let _ ← macroCall p.segments
      return (.other, [])
    else
      let (p, parens) ← withParenArguments g p
      if hasBinder || (allowPlus && isMark "+" (← ahead)) then
        let rest ← if allowPlus then
            repeating do
              if ← mark? "+" then
                if startsBound false (← ahead) then
                  let (parts, _) ← boundOf g false false
                  return some (some parts)
                else return some none
              else return none
          else pure []
        return (.bounds rest.isEmpty, p.parts ++ (rest.filterMap id).flatten)
      else return (.path false (!p.rooted && p.segments.length == 1 && !parens), p.parts)

/-- A type. -/
def typeContent (g : Grammar) (allowPlus : Bool) : Parser (TypeForm × List Node) := do
  let (hasBinder, binder) ← boundLifetimes? g
  if hasBinder then
    let ts ← ahead
    let words := ["fn", "unsafe", "extern", "super", "self", "Self", "crate"]
    if !(isName ts || isAnyWord words ts) then
      expected ["identifier", ticked "fn", ticked "unsafe", ticked "extern", ticked "super",
        ticked "self", ticked "Self", ticked "crate"]
  let ts ← ahead
  if isGroup .paren ts then parenType g allowPlus
  else if isAnyWord ["fn", "unsafe", "extern"] ts then
    return (.other, binder ++ (← functionPointer g))
  else if isName ts || isAnyWord ["super", "self", "Self", "crate"] ts || isMark "::" ts
      || isMark "<" ts then
    let (form, parts) ← pathType g allowPlus hasBinder
    return (form, binder ++ parts)
  else if isWord "dyn" ts then
    let start := place (← get)
    word "dyn"
    let star ← mark? "*"
    let all ← objectBounds g start allowPlus
    return (.other, if star then [] else all.flatMap (·.1))
  else if isGroup .bracket ts then
    let parts ← group .bracket do
      let element ← g.type true
      if ← mark? ";" then return [element, ← g.expr true] else return [element]
    return (.other, parts)
  else if isMark "*" ts then
    mark "*"
    if isAnyWord ["const", "mut"] (← ahead) then skip 1
    else expected [ticked "const", ticked "mut"]
    return (.other, [← g.type false])
  else if isMark "&" ts then
    mark "&"
    if isLifetime (← ahead) then lifetime
    let _ ← word? "mut"
    return (.other, [← g.type false])
  else if isMark "!" ts && !isMark "=" ts then
    mark "!"
    return (.other, [])
  else if isWord "impl" ts then
    let start := place (← get)
    word "impl"
    let all ← bounds g allowPlus true true
    if all.all (fun b => b.2 == .lifetime || b.2 == .capture) then
      refuseAt start "at least one trait must be specified"
    return (.other, all.flatMap (·.1))
  else if isWord "_" ts then
    skip 1
    return (.other, [])
  else if isLifetime ts then
    let all ← objectBounds g (place (← get)) true
    return (.bounds (all.length == 1), all.flatMap (·.1))
  else
    expected <| (if hasBinder then [] else [ticked "for"]) ++
      [groupName .paren, ticked "fn", ticked "unsafe", ticked "extern", "identifier", ticked "::",
       ticked "<", ticked "dyn", groupName .bracket, ticked "*", ticked "&", ticked "!",
       ticked "impl", ticked "_", "lifetime"]

def typeProduction (g : Grammar) (allowPlus : Bool) : Parser Node := do
  let before ← get
  let (form, parts) ← typeContent g allowPlus
  nodeSince before (.typeExpr form) parts

/-! ## Generic parameters -/

/-- The bounds of a lifetime. -/
def lifetimeBounds (stop : List Token → Bool) : Parser Unit := do
  let _ ← separatedWhile stop "+" lifetime

/-- One generic parameter. -/
def genericParameter (g : Grammar) : Parser (List Node) := do
  let attributes ← outerAttributes g
  let ts ← ahead
  if isLifetime ts then
    lifetime
    if ← mark? ":" then lifetimeBounds fun ts => ts.isEmpty || isMark "," ts || isMark ">" ts
    return attributes
  else if isName ts then
    let _ ← name
    let all ← if ← mark? ":" then
        separatedWhile
          (fun ts => ts.isEmpty || isMark "," ts || isMark ">" ts || isMark "=" ts) "+" g.bound
      else pure []
    let fallback ← if ← mark? "=" then pure [← g.type true] else pure []
    return attributes ++ all.flatten ++ fallback
  else if isWord "const" ts then
    word "const"
    let _ ← name
    mark ":"
    let t ← g.type true
    let fallback ← if ← mark? "=" then pure [← constArgument g] else pure []
    return attributes ++ t :: fallback
  else if isWord "_" ts then
    skip 1
    return attributes
  else expected ["lifetime", "identifier", ticked "const"]

/-- Generic parameters between angle brackets. `present` says if there are brackets, `any` if
there is a parameter. -/
structure Generics where
  present : Bool
  any : Bool
  parts : List Node

def generics (g : Grammar) : Parser Generics := do
  if isMark "<" (← ahead) then
    mark "<"
    let parameters ← separatedUntil (isMark ">") "," (genericParameter g)
    mark ">"
    return ⟨true, !parameters.isEmpty, parameters.flatten⟩
  else return ⟨false, false, []⟩

/-- What ends a list of predicates or bounds. -/
def endsPredicates (ts : List Token) : Bool :=
  ts.isEmpty || isGroup .brace ts || isMark "," ts || isMark ";" ts
    || (isMark ":" ts && !isMark "::" ts) || isMark "=" ts

/-- One predicate of a where clause. -/
def predicate (g : Grammar) : Parser (List Node) := do
  let ts ← ahead
  if isLifetime ts && isMark ":" ts.tail then
    lifetime
    mark ":"
    lifetimeBounds fun ts => ts.isEmpty || isGroup .brace ts || isMark "," ts || isMark ";" ts
      || isMark ":" ts || isMark "=" ts
    return []
  else
    let (_, binder) ← boundLifetimes? g
    let bounded ← g.type true
    mark ":"
    let all ← separatedWhile endsPredicates "+" g.bound
    return binder ++ bounded :: all.flatten

/-- A where clause, if there is one. -/
def whereClause (g : Grammar) : Parser (Bool × List Node) := do
  if ← word? "where" then
    let all ← separatedWhile endsPredicates "," (predicate g)
    return (true, all.flatten)
  else return (false, [])

end Overlay.Source.Grammar
