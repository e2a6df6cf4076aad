import Overlay.Source.Grammar.Expr

/-!
# Statements and declarations
-/

namespace Overlay.Source.Grammar

open Text (ticked)

open Overlay.Source.Parser

/-! ## Statements -/

/-- Whether a declaration starts here, and not an expression. -/
def startsItem (ts : List Token) : Bool :=
  let next := ts.tail
  let third := ts.drop 2
  isAnyWord ["pub", "extern", "use", "fn", "mod", "type", "struct", "enum", "trait", "impl",
      "macro"] ts
    || (isWord "crate" ts && !isMark "::" next)
    || (isWord "static" ts && (isWord "mut" next
        || (isName next && !(isWord "async" next && (isWord "move" third || isMark "|" third)))))
    || (isWord "const" ts && !(isGroup .brace next || isWord "static" next
        || (isWord "async" next && !isAnyWord ["unsafe", "extern", "fn"] third)
        || isWord "move" next || isMark "|" next))
    || (isWord "unsafe" ts && !isGroup .brace next)
    || (isWord "async" ts && isAnyWord ["unsafe", "extern", "fn"] next)
    || (isWord "union" ts && isName next)
    || (isWord "auto" ts && isWord "trait" next)
    || (isWord "default" ts && isAnyWord ["unsafe", "impl"] next)

/-- A statement that binds names, after its attributes. -/
def letParts (g : Grammar) : Parser (List Node) := do
  word "let"
  let p ← g.pattern
  let ascription ← if ← mark? ":" then pure [← g.type true] else pure []
  let value ← if ← mark? "=" then
      let value ← g.expr true
      if !value.endsWithBrace && isWord "else" (← ahead) then
        word "else"
        pure [value, ← plainBlock g]
      else pure [value]
    else pure []
  mark ";"
  return p :: ascription ++ value

/-- What a macro call at the start of a statement is. -/
inductive MacroStart where
  | item
  | statement
  | none

/-- Looks for a path, the mark of a macro call and what follows it. -/
def macroStart : Parser MacroStart := do
  let found ← peek do
    let (_, segments) ← modPath
    return (segments, ← ahead)
  match found with
  | .ok (_, ts) =>
    let next := ts.tail
    if !isMark "!" ts then return .none
    else if isName next || isWord "try" next then return .item
    else if isGroup .brace next && !((isMark "." next.tail && !isMark ".." next.tail)
        || isMark "?" next.tail) then return .statement
    else return .none
  | .error _ => return .none

/-- A call of a macro with braces that is a statement of its own. -/
def macroStatement : Parser Node := do
  let before ← get
  let (_, segments) ← modPath
  mark "!"
  let call ← macroCall segments
  nodeSince before (.macroCall call) []

/-- A statement, and whether the next one needs a semicolon before it. `itemAfter` reads a
declaration whose attributes have been read. -/
def statement (g : Grammar) (itemAfter : Stream → List Node → Parser Node) :
    Parser (Node × Bool) := do
  let before ← get
  let attributes ← outerAttributes g
  let start ← macroStart
  let ts ← ahead
  match start with
  | .statement =>
    let call ← macroStatement
    let _ ← mark? ";"
    return (← nodeSince before .statement (attributes ++ [call]), false)
  | _ =>
    if isWord "let" ts then
      let parts ← letParts g
      return (← nodeSince before .binding (attributes ++ parts), false)
    else if startsItem ts || (match start with | .item => true | _ => false) then
      return (← itemAfter before attributes, false)
    else
      let value ← g.statementExpr
      let ended ← mark? ";"
      let needsEnd := match value.role with
        | .macroCall call => call.delimiter != .brace
        | _ => !isBlockLike value
      return (← nodeSince before .statement (attributes ++ [value]), !ended && needsEnd)

/-- Statements up to the end of a block. A semicolon alone is a statement too. -/
def statementsLoop (g : Grammar) (itemAfter : Stream → List Node → Parser Node) :
    Nat → Parser (List Node)
  | 0 => return []
  | n + 1 => do
    if isMark ";" (← ahead) then
      let empty ← node .statement do mark ";"; return []
      return empty :: (← statementsLoop g itemAfter n)
    else if ← atEnd then return []
    else
      let (s, needsEnd) ← statement g itemAfter
      if ← atEnd then return [s]
      else if needsEnd then refuse "unexpected token, expected `;`"
      else return s :: (← statementsLoop g itemAfter n)

/-! ## Fields -/

/-- A field with a name. -/
def namedField (g : Grammar) : Parser Node := do
  let before ← get
  let attributes ← outerAttributes g
  let _ ← visibility
  let ts ← ahead
  let unnamed := isWord "_" ts
  let n ← if unnamed then anyIdent else name
  mark ":"
  let ts ← ahead
  let t ←
    if unnamed && (isWord "struct" ts || (isWord "union" ts && isGroup .brace ts.tail)) then
      node (.typeExpr .other) do
        skip 1
        let _ ← g.namedFields
        return []
    else g.type true
  nodeSince before (.field (some n)) (attributes ++ [t])

def namedFieldsProduction (g : Grammar) : Parser (List Node) :=
  group .brace (commaList (namedField g))

/-- A field without a name. -/
def positionalField (g : Grammar) : Parser Node := do
  let before ← get
  let attributes ← outerAttributes g
  let _ ← visibility
  let t ← g.type true
  nodeSince before (.field none) (attributes ++ [t])

def positionalFields (g : Grammar) : Parser (List Node) :=
  group .paren (commaList (positionalField g))

/-! ## Functions -/

/-- Whether the head of a function follows. -/
def startsSignature (allowSafe : Bool) (ts : List Token) : Bool :=
  let ts := if isWord "const" ts then ts.tail else ts
  let ts := if isWord "async" ts then ts.tail else ts
  let ts := if isWord "unsafe" ts || (allowSafe && isWord "safe" ts) then ts.tail else ts
  let ts := if isWord "extern" ts then (if isString ts.tail then ts.drop 2 else ts.tail) else ts
  isWord "fn" ts

/-- The parameter that is the receiver of a method: the place of its keyword and its type. -/
def receiver (g : Grammar) : Parser (Position × List Node) := do
  let byReference ← mark? "&"
  if byReference && isLifetime (← ahead) then lifetime
  let _ ← word? "mut"
  let p := place (← get)
  word "self"
  if !byReference && isMark ":" (← ahead) then
    mark ":"
    return (p, [← g.type true])
  else return (p, [])

/-- Parameters of a function. `count` of them and a receiver or not have been read. -/
def parameters (g : Grammar) (count : Nat) (hasReceiver : Bool) : Nat → Parser (List Node)
  | 0 => return []
  | n + 1 => do
    if ← atEnd then return []
    let attributes ← outerAttributes g
    let comma (parts : List Node) (isReceiver : Bool) : Parser (List Node) := do
      if ← atEnd then return attributes ++ parts
      mark ","
      return attributes ++ parts
        ++ (← parameters g (count + 1) (hasReceiver || isReceiver) n)
    let last (parts : List Node) : Parser (List Node) := do
      if !(← atEnd) then mark ","
      return attributes ++ parts
    if ← mark? "..." then last []
    else match ← attempt (receiver g) with
      | some (p, parts) =>
        if hasReceiver then refuseAt p "unexpected second method receiver"
        else if count > 0 then refuseAt p "unexpected method receiver"
        else comma parts true
      | none =>
        let ts ← ahead
        if isName ts && isMark "<" ts.tail then comma [← g.type true] false
        else
          let p ← g.pattern
          mark ":"
          if ← mark? "..." then last [p]
          else comma [p, ← g.type true] false

/-- The head of a function: its name and its parts. -/
def signature (g : Grammar) (allowSafe : Bool) : Parser (String × List Node) := do
  let _ ← word? "const"
  let _ ← word? "async"
  if allowSafe && isWord "safe" (← ahead) then skip 1
  else
    let _ ← word? "unsafe"
  callingConvention
  word "fn"
  let n ← name
  let gs ← generics g
  let inputs ← group .paren do parameters g 0 false ((← ahead).length + 1)
  let output ← returnType g true
  let (_, conditions) ← whereClause g
  return (n, gs.parts ++ conditions ++ inputs ++ output)

/-- The body of a function: its attributes and the block. -/
def functionBody (g : Grammar) : Parser (List Node × Node) := do
  let before ← get
  let (attributes, statements) ← group .brace do
    let attributes ← innerAttributes g
    return (attributes, ← g.statements)
  return (attributes, ← nodeSince before .block statements)

/-! ## Imports -/

/-- The name that an import is bound to. -/
def aliasName : Parser String := do
  let ts ← ahead
  if isName ts then name
  else if isWord "_" ts then anyIdent
  else refuse "expected identifier or underscore"

/-- The trees of a group of imports; none if one of them starts at the root of all crates. -/
def useGroup (g : Grammar) (allowRoot : Bool) : Nat → Parser (Option (List UseTree))
  | 0 => return some []
  | n + 1 => do
    if ← atEnd then return some []
    let rooted ← if allowRoot then mark? "::" else pure false
    let tree ← g.useTree (allowRoot && !rooted)
    let rest ← if ← atEnd then pure (some []) else do
      mark ","
      useGroup g allowRoot n
    match rooted, tree, rest with
    | false, some t, some ts => return some (t :: ts)
    | _, _, _ => return none

def useTreeProduction (g : Grammar) (allowRoot : Bool) : Parser (Option UseTree) := do
  let ts ← ahead
  if isName ts || isAnyWord ["self", "super", "crate", "try"] ts then
    let n ← anyIdent
    if ← mark? "::" then
      let rest ← g.useTree false
      return rest.map (UseTree.path n)
    else if ← word? "as" then return some (.rename n (← aliasName))
    else return some (.name n)
  else if ← mark? "*" then return some .glob
  else if isGroup .brace ts then
    let trees ← group .brace do useGroup g allowRoot ((← ahead).length + 1)
    return trees.map UseTree.group
  else
    expected ["identifier", ticked "self", ticked "super", ticked "crate", ticked "try",
      ticked "*", groupName .brace]

/-- An import after its attributes. -/
def useItem (g : Grammar) (allowRoot : Bool) : Parser (Option UseTree) := do
  let _ ← visibility
  word "use"
  let rooted ← mark? "::"
  let tree ← g.useTree (allowRoot && !rooted)
  mark ";"
  return tree

/-! ## Constants and aliases -/

/-- A constant after its keyword: its type, its value, and whether it has parameters. -/
def constantTail (g : Grammar) : Parser (Node × Option Node × Bool) := do
  let ts ← ahead
  if isName ts || isWord "_" ts then
    let _ ← anyIdent
    let gs ← generics g
    mark ":"
    let t ← g.type true
    let value ← if ← mark? "=" then pure (some (← g.expr true)) else pure none
    let (conditional, _) ← whereClause g
    mark ";"
    return (t, value, gs.present || conditional)
  else expected ["identifier", ticked "_"]

/-- Where the where clause of an alias may stand. -/
inductive ClausePlace where
  | beforeDefinition
  | afterDefinition
  deriving DecidableEq

/-- An alias of a type: its name, whether it has bounds, the parts of its parameters, and its
definition. -/
structure AliasSyntax where
  name : String
  bounded : Bool
  parts : List Node
  definition : Option Node

def aliasSyntax (g : Grammar) (allowDefault : Bool) (clause : ClausePlace) :
    Parser AliasSyntax := do
  let _ ← visibility
  if allowDefault then
    let _ ← word? "default"
  word "type"
  let n ← name
  let gs ← generics g
  let stop (ts : List Token) : Bool := isWord "where" ts || isMark "=" ts || isMark ";" ts
  let bounded ← mark? ":"
  let limits ← if bounded then separatedUntil stop "+" g.bound else pure []
  let (_, conditions) ← if clause = .beforeDefinition then whereClause g else pure (false, [])
  let definition ← if ← mark? "=" then pure (some (← g.type true)) else pure none
  let (_, later) ← if clause = .afterDefinition then whereClause g else pure (false, [])
  mark ";"
  return ⟨n, bounded, gs.parts ++ conditions ++ later ++ limits.flatten, definition⟩

/-! ## Items of traits, implementations and foreign blocks -/

/-- A macro call as a declaration: its path, an optional name, and its group. -/
def macroItem (named : Bool) : Parser Unit := do
  let (_, segments) ← modPath
  mark "!"
  if named then
    let ts ← ahead
    if isName ts || isWord "try" ts then skip 1
  let call ← macroCall segments
  if call.delimiter != .brace then mark ";"

/-- The alternatives of a list that do not stand here. -/
def missing (alternatives : List (String × Bool)) : List String :=
  (alternatives.filter (!·.2)).map (·.1)

/-- Whether the path of a macro call may start here. -/
def startsMacroPath (ts : List Token) : Bool :=
  isName ts || isAnyWord ["self", "super", "crate"] ts || isMark "::" ts

def macroPathNames : List String :=
  ["identifier", ticked "self", ticked "super", ticked "crate", ticked "::"]

/-- The tokens after a visibility, without reading it. -/
def afterVisibility : Parser (Bool × List Token) := do
  match ← peek do return (← visibility, ← ahead) with
  | .ok r => return r
  | .error f => throw f

/-- An item of a foreign block. -/
def foreignItem (g : Grammar) : Parser (List Node) := do
  let attributes ← outerAttributes g
  let (visible, ts) ← afterVisibility
  if startsSignature true ts then
    let _ ← visibility
    let safe := isWord "safe" (← ahead)
    let (_, parts) ← signature g true
    if isGroup .brace (← ahead) then
      let _ ← blockParts g
      return []
    else
      mark ";"
      return if safe then [] else attributes ++ parts
  else if isWord "static" ts || (isAnyWord ["unsafe", "safe"] ts && isWord "static" ts.tail) then
    let _ ← visibility
    let marked ← if isAnyWord ["unsafe", "safe"] (← ahead) then skip 1; pure true else pure false
    word "static"
    let _ ← word? "mut"
    let _ ← name
    mark ":"
    let t ← g.type true
    let valued ← mark? "="
    if valued then
      let _ ← g.expr true
    mark ";"
    return if marked || valued then [] else attributes ++ [t]
  else if isWord "type" ts then
    let a ← aliasSyntax g false .beforeDefinition
    return if a.bounded || a.definition.isSome then [] else attributes ++ a.parts
  else if !visible && startsMacroPath ts then
    macroItem false
    return attributes
  else
    let _ ← visibility
    expected <| [ticked "fn", ticked "static", ticked "type"]
      ++ (if visible then [] else macroPathNames)

/-- A function of a trait, with or without a body. -/
def traitFunction (g : Grammar) : Parser (List Node) := do
  let (_, parts) ← signature g false
  let ts ← ahead
  if isGroup .brace ts then
    let (inner, body) ← functionBody g
    return inner ++ parts ++ [body]
  else if isMark ";" ts then
    mark ";"
    return parts
  else expected [groupName .brace, ticked ";"]

/-- An item of a trait. -/
def traitItem (g : Grammar) : Parser (List Node) := do
  let attributes ← outerAttributes g
  let visible ← visibility
  let default ← word? "default"
  let ts ← ahead
  let parts ←
    if startsSignature false ts then traitFunction g
    else if isWord "const" ts then
      let next := ts.tail
      if isName next || isWord "_" next then
        word "const"
        let (t, value, parametric) ← constantTail g
        pure (if parametric then [] else t :: value.toList)
      else if isAnyWord ["async", "unsafe", "extern", "fn"] next then traitFunction g
      else
        word "const"
        expected ["identifier", ticked "_", ticked "async", ticked "unsafe", ticked "extern",
          ticked "fn"]
    else if isWord "type" ts then
      let a ← aliasSyntax g false .afterDefinition
      pure (a.parts ++ a.definition.toList)
    else if !visible && !default && startsMacroPath ts then
      macroItem false
      pure []
    else
      expected <| [ticked "fn", ticked "const", ticked "type"]
        ++ (if visible || default then [] else macroPathNames)
  return if visible || default then [] else attributes ++ parts

/-- An item of an implementation. -/
def implItem (g : Grammar) : Parser (List Node) := do
  let attributes ← outerAttributes g
  let (visible, ts) ← afterVisibility
  let default := isWord "default" ts && !isMark "!" ts.tail
  let ts := if default then ts.tail else ts
  let modifiers : Parser Unit := do
    let _ ← visibility
    if default then word "default"
  if startsSignature false ts then
    modifiers
    let (_, parts) ← signature g false
    if ← mark? ";" then return []
    else
      let (inner, body) ← functionBody g
      return attributes ++ inner ++ parts ++ [body]
  else if isWord "const" ts then
    modifiers
    word "const"
    let (t, value, parametric) ← constantTail g
    match value, parametric with
    | some v, false => return attributes ++ [t, v]
    | _, _ => return []
  else if isWord "type" ts then
    let a ← aliasSyntax g true .afterDefinition
    match a.definition, a.bounded with
    | some d, false => return attributes ++ a.parts ++ [d]
    | _, _ => return []
  else if !visible && !default && startsMacroPath ts then
    macroItem false
    return attributes
  else
    modifiers
    expected <| (if default then [] else [ticked "default"])
      ++ [ticked "fn", ticked "const", ticked "type"]
      ++ (if visible || default then [] else macroPathNames)

/-! ## Declarations -/

/-- What a declaration is, and its parts after the attributes before it. -/
abbrev Declared := Role × List Node

/-- A function, after its visibility. -/
def functionItem (g : Grammar) : Parser Declared := do
  let _ ← visibility
  let (n, parts) ← signature g false
  if ← mark? ";" then return (.otherDecl, [])
  else
    let (inner, body) ← functionBody g
    return (.functionDecl n, inner ++ parts ++ [body])

/-- A crate that is named as such. -/
def externCrate : Parser Declared := do
  let _ ← visibility
  word "extern"
  word "crate"
  let _ ← if isWord "self" (← ahead) then anyIdent else name
  if ← word? "as" then
    let _ ← if isWord "_" (← ahead) then anyIdent else name
  mark ";"
  return (.otherDecl, [])

/-- A block of foreign declarations. -/
def foreignBlock (g : Grammar) : Parser Declared := do
  let _ ← word? "unsafe"
  if isWord "extern" (← ahead) then callingConvention else word "extern"
  let (inner, items) ← group .brace do
    let inner ← innerAttributes g
    return (inner, ← untilEnd (foreignItem g))
  return (.otherDecl, inner ++ items.flatten)

def staticItem (g : Grammar) : Parser Declared := do
  let _ ← visibility
  word "static"
  let _ ← word? "mut"
  let _ ← name
  if ← mark? "=" then
    let _ ← g.expr true
    mark ";"
    return (.otherDecl, [])
  else
    mark ":"
    let t ← g.type true
    if ← mark? ";" then return (.otherDecl, [])
    else
      mark "="
      let value ← g.expr true
      mark ";"
      return (.staticDecl, [t, value])

def constItem (g : Grammar) : Parser Declared := do
  let _ ← visibility
  word "const"
  let (t, value, parametric) ← constantTail g
  match value, parametric with
  | some v, false => return (.constDecl, [t, v])
  | _, _ => return (.otherDecl, [])

def modItem (g : Grammar) : Parser Declared := do
  let _ ← visibility
  let _ ← word? "unsafe"
  word "mod"
  let n ← if isWord "try" (← ahead) then anyIdent else name
  let ts ← ahead
  if isMark ";" ts then
    mark ";"
    return (.modDecl n false, [])
  else if isGroup .brace ts then
    let (inner, items) ← group .brace do
      let inner ← innerAttributes g
      return (inner, ← untilEnd g.item)
    return (.modDecl n true, inner ++ items)
  else expected [ticked ";", groupName .brace]

def aliasItem (g : Grammar) : Parser Declared := do
  let a ← aliasSyntax g false .beforeDefinition
  match a.definition, a.bounded with
  | some d, false => return (.aliasDecl a.name, a.parts ++ [d])
  | _, _ => return (.otherDecl, [])

def structItem (g : Grammar) : Parser Declared := do
  let _ ← visibility
  word "struct"
  let n ← name
  let gs ← generics g
  let (early, conditions) ← whereClause g
  let ts ← ahead
  if !early && isGroup .paren ts then
    let fields ← positionalFields g
    let (late, conditions) ← whereClause g
    if ← mark? ";" then
      return (.structDecl n gs.any .positional, gs.parts ++ conditions ++ fields)
    else expected <| (if late then [] else [ticked "where"]) ++ [ticked ";"]
  else if isGroup .brace ts then
    let fields ← g.namedFields
    return (.structDecl n gs.any .named, gs.parts ++ conditions ++ fields)
  else if ← mark? ";" then
    return (.structDecl n gs.any .none, gs.parts ++ conditions)
  else
    expected <| (if early then [] else [ticked "where", groupName .paren])
      ++ [groupName .brace, ticked ";"]

/-- A variant of an enumeration. -/
def variant (g : Grammar) : Parser (List Node) := do
  let attributes ← outerAttributes g
  let _ ← visibility
  let _ ← name
  let ts ← ahead
  let fields ←
    if isGroup .brace ts then g.namedFields
    else if isGroup .paren ts then positionalFields g
    else pure []
  let discriminant ← if ← mark? "=" then pure [← g.expr true] else pure []
  return attributes ++ fields ++ discriminant

def enumItem (g : Grammar) : Parser Declared := do
  let _ ← visibility
  word "enum"
  let n ← name
  let gs ← generics g
  let (_, conditions) ← whereClause g
  let variants ← group .brace (commaList (variant g))
  return (.enumDecl n, gs.parts ++ conditions ++ variants.flatten)

def unionItem (g : Grammar) : Parser Declared := do
  let _ ← visibility
  word "union"
  let n ← name
  let gs ← generics g
  let (_, conditions) ← whereClause g
  let fields ← g.namedFields
  return (.unionDecl n, gs.parts ++ conditions ++ fields)

/-- A trait from its bounds on. -/
def traitTail (g : Grammar) (gs : Generics) : Parser Declared := do
  let stop (ts : List Token) : Bool := isWord "where" ts || isGroup .brace ts
  let limits ← if ← mark? ":" then separatedUntil stop "+" g.bound else pure []
  let (_, conditions) ← whereClause g
  let (inner, items) ← group .brace do
    let inner ← innerAttributes g
    return (inner, ← untilEnd (traitItem g))
  return (.traitDecl, inner ++ gs.parts ++ conditions ++ limits.flatten ++ items.flatten)

/-- A trait that its keywords announce. -/
def traitOnly (g : Grammar) : Parser Declared := do
  let _ ← visibility
  let _ ← word? "unsafe"
  let _ ← word? "auto"
  word "trait"
  let _ ← name
  traitTail g (← generics g)

/-- A trait or the alias of one. -/
def traitOrAlias (g : Grammar) : Parser Declared := do
  let _ ← visibility
  word "trait"
  let _ ← name
  let gs ← generics g
  let ts ← ahead
  if isGroup .brace ts || isMark ":" ts || isWord "where" ts then traitTail g gs
  else if isMark "=" ts then
    mark "="
    let stop (ts : List Token) : Bool := isWord "where" ts || isMark ";" ts
    let limits ← separatedUntil stop "+" g.bound
    let (_, conditions) ← whereClause g
    mark ";"
    return (.otherDecl, gs.parts ++ conditions ++ limits.flatten)
  else expected [groupName .brace, ticked ":", ticked "where", ticked "="]

/-- Whether generic parameters follow, and not a path qualified by a type. -/
def startsGenerics (ts : List Token) : Bool :=
  let next := ts.tail
  let third := ts.drop 2
  isMark "<" ts && (isMark ">" next || isMark "#" next || isWord "const" next
    || ((isLifetime next || isName next)
      && (isMark ">" third || isMark "," third || (isMark ":" third && !isMark "::" third)
        || isMark "=" third)))

def implDecl (g : Grammar) : Parser Declared := do
  let visible ← visibility
  let _ ← word? "default"
  let _ ← word? "unsafe"
  word "impl"
  let gs ← if startsGenerics (← ahead) then generics g else pure ⟨false, false, []⟩
  let ts ← ahead
  let isConst := isWord "const" ts || (isMark "?" ts && isWord "const" ts.tail)
  if isConst then
    let _ ← mark? "?"
    word "const"
  let before ← get
  let ts ← ahead
  let negative := isMark "!" ts && !isGroup .brace ts.tail
  if negative then mark "!"
  let first ← g.type true
  let isFor ← word? "for"
  if negative && !isFor then refuseAt (place before) "inherent impls cannot be negative"
  let isTrait := match first.role with
    | .typeExpr (.path false _) => true
    | _ => false
  let self ← if isFor then pure [← g.type true] else pure []
  let (_, conditions) ← whereClause g
  let (inner, items) ← group .brace do
    let inner ← innerAttributes g
    return (inner, ← untilEnd (implItem g))
  if visible || isConst || (isFor && !isTrait) then return (.otherDecl, [])
  else
    return (.implDecl, inner ++ gs.parts ++ conditions ++ first :: self ++ items.flatten)

/-- A macro by its keyword. -/
def macroKeyword : Parser Declared := do
  let _ ← visibility
  word "macro"
  let _ ← name
  let ts ← ahead
  let parens := isGroup .paren ts
  if parens then skip 1
  if isGroup .brace (← ahead) then
    skip 1
    return (.otherDecl, [])
  else expected <| (if parens then [] else [groupName .paren]) ++ [groupName .brace]

/-- The words that start declarations, as far as they do not stand here. -/
def itemAlternatives (ts : List Token) (visible : Bool) : List String :=
  let words := ["fn", "extern", "use", "static", "const", "unsafe", "mod", "type", "struct",
    "enum", "union", "trait", "auto", "impl", "default", "macro"]
  missing (words.map fun w => (ticked w, isWord w ts)) ++ (if visible then [] else macroPathNames)

/-- A declaration, its attributes having been read. -/
def declared (g : Grammar) : Parser Declared := do
  let (visible, ts) ← afterVisibility
  let next := ts.tail
  if startsSignature false ts then functionItem g
  else if isWord "extern" ts then
    if isWord "crate" next then externCrate
    else if isGroup .brace next then foreignBlock g
    else if isString next then
      if isGroup .brace next.tail then foreignBlock g
      else
        let _ ← visibility
        skip 2
        expected [groupName .brace]
    else
      let _ ← visibility
      skip 1
      expected [ticked "crate", groupName .brace, "string literal"]
  else if isWord "use" ts then
    match ← useItem g true with
    | some tree => return (.useDecl tree, [])
    | none => return (.otherDecl, [])
  else if isWord "static" ts then staticItem g
  else if isWord "const" ts then constItem g
  else if isWord "unsafe" ts then
    if isWord "trait" next || (isWord "auto" next && isWord "trait" next.tail) then traitOnly g
    else if isWord "impl" next then implDecl g
    else if isWord "extern" next then foreignBlock g
    else if isWord "mod" next then modItem g
    else
      let _ ← visibility
      skip 1
      expected <| missing [(ticked "trait", false), (ticked "auto", isWord "auto" next),
        (ticked "impl", false), (ticked "extern", false), (ticked "mod", false)]
  else if isWord "mod" ts then modItem g
  else if isWord "type" ts then aliasItem g
  else if isWord "struct" ts then structItem g
  else if isWord "enum" ts then enumItem g
  else if isWord "union" ts && isName next then unionItem g
  else if isWord "trait" ts then traitOrAlias g
  else if isWord "auto" ts && isWord "trait" next then traitOnly g
  else if isWord "impl" ts || (isWord "default" ts && !isMark "!" next) then implDecl g
  else if isWord "macro" ts then macroKeyword
  else if !visible && startsMacroPath ts then
    macroItem true
    return (.macroDecl, [])
  else
    let _ ← visibility
    expected (itemAlternatives ts visible)

/-- A declaration from `before` on, where its attributes started. -/
def itemAfter (g : Grammar) (before : Stream) (attributes : List Node) : Parser Node := do
  let (role, parts) ← declared g
  let children := match role with
    | .useDecl _ => []
    | _ => attributes ++ parts
  nodeSince before role children

def itemProduction (g : Grammar) : Parser Node := do
  let before ← get
  itemAfter g before (← outerAttributes g)

def statementsProduction (g : Grammar) : Parser (List Node) := do
  statementsLoop g (itemAfter g) ((← ahead).length + 1)

end Overlay.Source.Grammar
