import Overlay.Source.Grammar.Pattern

/-!
# Expressions

Operators are read by climbing their levels. An expression that ends in a block and starts a
statement or an arm ends there, unless a member access or a question mark follows.
-/

namespace Overlay.Source.Grammar

open Text (ticked)

open Overlay.Source.Parser

/-! ## Levels of operators -/

namespace Level

def lowest : Level := 0
def assign : Level := 1
def range : Level := 2
def compare : Level := 6
def cast : Level := 13

end Level

/-- The binary operators and their levels; an operator stands before those it starts with. -/
def binaryOperators : List (String × Level) :=
  [("+=", 1), ("-=", 1), ("*=", 1), ("/=", 1), ("%=", 1), ("^=", 1), ("&=", 1), ("|=", 1),
   ("<<=", 1), (">>=", 1), ("&&", 4), ("||", 3), ("<<", 10), (">>", 10), ("==", 6), ("<=", 6),
   ("!=", 6), (">=", 6), ("+", 11), ("-", 11), ("*", 12), ("/", 12), ("%", 12), ("^", 8),
   ("&", 9), ("|", 7), ("<", 6), (">", 6)]

def binaryOperator? (ts : List Token) : Option (String × Level) :=
  binaryOperators.find? fun o => isMark o.1 ts

/-- The level of the operator that follows, the lowest if none does. -/
def nextLevel (ts : List Token) : Level :=
  match binaryOperator? ts with
  | some (_, l) => l
  | none =>
    if isMark "=" ts && !isMark "=>" ts then Level.assign
    else if isMark ".." ts then Level.range
    else if isWord "as" ts then Level.cast
    else Level.lowest

def isRange (n : Node) : Bool :=
  match n.role with
  | .range => true
  | _ => false

def isComparison (n : Node) : Bool :=
  match n.role with
  | .comparison => true
  | _ => false

/-- A block, or an expression that ends like one. -/
def isBlockLike (n : Node) : Bool :=
  match n.role with
  | .block => true
  | _ => false

/-- The operators of higher levels that take the right operand first. -/
def rightClimb (g : Grammar) (allowRecord : Bool) (level : Level) (operand : Node) :
    Nat → Parser Node
  | 0 => return operand
  | n + 1 => do
    let next := nextLevel (← ahead)
    if next > level || (next == level && level == Level.assign) then
      let before := (← get).taken
      let grown ← g.climb operand allowRecord next
      if (← get).taken == before then return grown
      else rightClimb g allowRecord level grown n
    else return operand

/-- The right operand of an operator. -/
def rightOperand (g : Grammar) (allowRecord : Bool) (level : Level) : Parser Node := do
  let operand ← g.unary allowRecord
  rightClimb g allowRecord level operand ((← ahead).length + 1)

/-- Whether a range without end ends here. -/
def endsRange (allowRecord : Bool) (ts : List Token) : Bool :=
  ts.isEmpty || isMark "," ts || isMark ";" ts || (isMark "." ts && !isMark ".." ts)
    || isMark "?" ts || isMark "=>" ts || (!allowRecord && isGroup .brace ts)
    || ["=", "+", "/", "%", "^", ">", "<=", "!=", "-=", "*=", "&=", "|=", "<<="].any (isMark · ts)
    || isWord "as" ts

/-- The end of a range, if it has one. -/
def rangeEnd (g : Grammar) (allowRecord closed : Bool) : Parser (List Node) := do
  if !closed && endsRange allowRecord (← ahead) then return []
  else return [← rightOperand g allowRecord Level.range]

/-- A cast is no operand of what binds more tightly. -/
def refuseTrailer (ts : List Token) : Parser Unit := do
  let deny (what : String) : Parser Unit := refuse ("casts cannot be followed by " ++ what)
  if isMark "." ts && !isMark ".." ts then
    let next := ts.tail
    if isWord "await" next then deny "`.await`"
    else if isName next && (isGroup .paren next.tail || isMark "::" next.tail) then
      deny "a method call"
    else deny "a field access"
  else if isMark "?" ts then deny "`?`"
  else if isGroup .bracket ts then deny "indexing"
  else if isGroup .paren ts then deny "a function call"

/-- One operator after `left` and what belongs to it. The tokens of `left` are the first ones of
the result. -/
def climbStep (g : Grammar) (allowRecord : Bool) (base : Level) (left : Node) :
    Parser (Option Node) := do
  let before ← get
  let ts ← ahead
  let grow (role : Role) (more : List Node) : Parser (Option Node) := do
    return some (.mk role (left.tokens ++ (← since before)) (left :: more))
  if isRange left then return none
  else match binaryOperator? ts with
    | some (op, level) =>
      if level < base then return none
      else if level == Level.compare && isComparison left then
        refuse "comparison operators cannot be chained"
      else
        mark op
        let right ← rightOperand g allowRecord level
        grow (if level == Level.compare then .comparison else .expression) [right]
    | none =>
      if Level.assign ≥ base && isMark "=" ts && !isMark "=>" ts then
        mark "="
        let right ← rightOperand g allowRecord Level.assign
        grow .expression [right]
      else if Level.range ≥ base && isMark ".." ts then
        let closed ← rangeLimits false
        let stop ← rangeEnd g allowRecord closed
        grow .range stop
      else if Level.cast ≥ base && isWord "as" ts then
        word "as"
        let target ← g.type false
        refuseTrailer (← ahead)
        grow .expression [target]
      else return none

/-- The operators after `left`, as far as their level is at least `base`. -/
def climbLoop (g : Grammar) (allowRecord : Bool) (base : Level) : Nat → Node → Parser Node
  | 0, left => return left
  | n + 1, left => do
    match ← climbStep g allowRecord base left with
    | none => return left
    | some grown => climbLoop g allowRecord base n grown

def climbProduction (g : Grammar) (left : Node) (allowRecord : Bool) (base : Level) :
    Parser Node := do
  climbLoop g allowRecord base ((← ahead).length + 1) left

/-! ## Blocks -/

/-- A block in braces, its attributes and statements. -/
def blockParts (g : Grammar) : Parser (List Node) :=
  group .brace do
    let attributes ← innerAttributes g
    return attributes ++ (← g.statements)

/-- A block that has no attributes of its own. -/
def plainBlock (g : Grammar) : Parser Node := node .block (group .brace g.statements)

/-! ## Control flow -/

/-- A conditional, with its alternatives. -/
def ifParts (g : Grammar) : Nat → Parser (List Node)
  | 0 => return []
  | n + 1 => do
    word "if"
    let condition ← g.expr false
    let yes ← plainBlock g
    if ← word? "else" then
      let ts ← ahead
      if isWord "if" ts then return condition :: yes :: (← ifParts g n)
      else if isGroup .brace ts then return [condition, yes, ← plainBlock g]
      else expected [ticked "if", groupName .brace]
    else return [condition, yes]

/-- A loop over the values of an expression. -/
def forParts (g : Grammar) : Parser (List Node) := do
  word "for"
  let p ← alternatives g
  word "in"
  let values ← g.expr false
  return p :: values :: (← blockParts g)

def whileParts (g : Grammar) : Parser (List Node) := do
  word "while"
  let condition ← g.expr false
  return condition :: (← blockParts g)

def loopParts (g : Grammar) : Parser (List Node) := do
  word "loop"
  blockParts g

/-- An arm of a case distinction. -/
def arm (g : Grammar) : Parser (List Node) := do
  let attributes ← outerAttributes g
  let p ← alternatives g
  let guard ← if ← word? "if" then pure [← g.expr true] else pure []
  mark "=>"
  let value ← g.statementExpr
  if !isBlockLike value && !(← atEnd) then mark ","
  else
    let _ ← mark? ","
  return attributes ++ p :: guard ++ [value]

def matchParts (g : Grammar) : Parser (List Node) := do
  word "match"
  let subject ← g.expr false
  let (attributes, arms) ← group .brace do
    let attributes ← innerAttributes g
    let arms ← untilEnd (arm g)
    return (attributes, arms)
  return attributes ++ subject :: arms.flatten

/-- A loop or block after a label. -/
def labeled (g : Grammar) : Parser (List Node) := do
  lifetime
  mark ":"
  let ts ← ahead
  if isWord "while" ts then whileParts g
  else if isWord "for" ts then forParts g
  else if isWord "loop" ts then loopParts g
  else if isGroup .brace ts then blockParts g
  else refuse "expected loop or block expression"

/-! ## Closures -/

/-- A parameter of a closure. -/
def closureParameter (g : Grammar) : Parser (List Node) := do
  let attributes ← outerAttributes g
  let p ← g.pattern
  if ← mark? ":" then return attributes ++ [p, ← g.type true]
  else return attributes ++ [p]

def closure (g : Grammar) (allowRecord : Bool) : Parser (List Node) := do
  let (_, binder) ← boundLifetimes? g
  let _ ← word? "const"
  let _ ← word? "static"
  let _ ← word? "async"
  let _ ← word? "move"
  mark "|"
  let inputs ← separatedUntil (isMark "|") "," (closureParameter g)
  mark "|"
  if ← mark? "->" then
    let output ← g.type true
    let body ← plainBlock g
    return binder ++ inputs.flatten ++ [output, body]
  else
    let body ← g.expr allowRecord
    return binder ++ inputs.flatten ++ [body]

/-! ## Atoms -/

/-- Whether an expression may start here. -/
def startsExpr (ts : List Token) : Bool :=
  isIdent ts || isGroup .paren ts || isGroup .bracket ts || isGroup .brace ts || isLiteral ts
    || (isMark "!" ts && !isMark "!=" ts)
    || (isMark "-" ts && !isMark "-=" ts && !isMark "->" ts)
    || (isMark "*" ts && !isMark "*=" ts)
    || (isMark "|" ts && !isMark "|=" ts)
    || (isMark "&" ts && !isMark "&=" ts)
    || isMark ".." ts
    || (isMark "<" ts && !isMark "<=" ts && !isMark "<<=" ts)
    || isMark "::" ts || isLifetime ts || isMark "#" ts

/-- A field of a structure literal. -/
def fieldValue (g : Grammar) : Parser Node := do
  let before ← get
  let attributes ← outerAttributes g
  let start ← get
  let named ← member
  let value ←
    if !named || isMark ":" (← ahead) then
      mark ":"
      g.expr true
    else
      let segments := match ← since start with
        | .ident text _ :: _ => [text]
        | _ => []
      nodeSince start (.path false segments) []
  nodeSince before .fieldValue (attributes ++ [value])

/-- The fields and the base of a structure literal. -/
def recordFields (g : Grammar) : Nat → Parser (List Node)
  | 0 => return []
  | n + 1 => do
    if ← atEnd then return []
    if ← mark? ".." then
      if ← atEnd then return []
      else return [← node .base do return [← g.expr true]]
    let field ← fieldValue g
    if ← atEnd then return [field]
    mark ","
    return field :: (← recordFields g n)

/-- An expression that starts with a path: the path, a macro call or a structure literal. -/
def pathExpr (g : Grammar) (allowRecord : Bool) : Parser Node := do
  let before ← get
  let p ← qualifiedPath g true
  let ts ← ahead
  if !p.qualified && isMark "!" ts && !isMark "!=" ts && p.plain then
    mark "!"
    let call ← macroCall p.segments
    nodeSince before (.macroCall call) []
  else if allowRecord && isGroup .brace ts then
    let fields ← group .brace do recordFields g ((← ahead).length + 1)
    nodeSince before (.record p.segments) (p.parts ++ fields)
  else nodeSince before (.path p.qualified p.segments) p.parts

/-- An array, either of elements or of one repeated element. -/
def arrayParts (g : Grammar) : Parser (List Node) :=
  group .bracket do
    if ← atEnd then return []
    let first ← g.expr true
    let ts ← ahead
    if ts.isEmpty then return [first]
    else if isMark "," ts then
      mark ","
      return first :: (← commaList (g.expr true))
    else if isMark ";" ts then
      mark ";"
      return [first, ← g.expr true]
    else refuse "expected `,` or `;`"

/-- Whether the binder of a closure follows. -/
def isBinder (ts : List Token) : Bool :=
  isWord "for" ts && isMark "<" ts.tail
    && (isLifetime (ts.drop 2) || isMark ">" (ts.drop 2))

/-- Whether a closure starts here. -/
def startsClosure (ts : List Token) : Bool :=
  let next := ts.tail
  isMark "|" ts || isWord "move" ts || isBinder ts
    || (isWord "const" ts && !isGroup .brace next)
    || isWord "static" ts
    || (isWord "async" ts && (isMark "|" next || isWord "move" next))

/-- A jump out of a loop, with a value. -/
def breakParts (g : Grammar) (allowRecord : Bool) : Parser (List Node) := do
  word "break"
  let ts ← ahead
  if isLifetime ts && isMark ":" ts.tail then
    let start := place (← get)
    let _ ← g.expr true
    refuseAt start "parentheses required"
  else
    if isLifetime ts then lifetime
    let ts ← ahead
    if startsExpr ts && (allowRecord || !isGroup .brace ts) then return [← g.expr true]
    else return []

/-- The value after a keyword, if one follows. -/
def valueAfter (g : Grammar) (keyword : String) : Parser (List Node) := do
  word keyword
  if startsExpr (← ahead) then return [← g.expr true] else return []

/-- An expression that other operators take as a whole. -/
def atom (g : Grammar) (allowRecord : Bool) : Parser Node := do
  let ts ← ahead
  let next := ts.tail
  if isLiteral ts then node .expression do literal; return []
  else if isWord "async" ts
      && (isGroup .brace next || (isWord "move" next && isGroup .brace next.tail)) then
    node .expression do
      word "async"
      let _ ← word? "move"
      blockParts g
  else if isWord "try" ts && isGroup .brace next then
    node .block do
      word "try"
      return [← plainBlock g]
  else if startsClosure ts then node .expression (closure g allowRecord)
  else if isWord "builtin" ts && isMark "#" next then
    node .expression do
      word "builtin"
      mark "#"
      let _ ← name
      group .paren do skip (← ahead).length
      return []
  else if isName ts || isMark "::" ts || isMark "<" ts
      || isAnyWord ["self", "Self", "super", "crate"] ts
      || (isWord "try" ts && (isMark "!" next || isMark "::" next)) then
    pathExpr g allowRecord
  else if isGroup .paren ts then
    node .expression (group .paren (commaList (g.expr true)))
  else if isWord "break" ts then node .expression (breakParts g allowRecord)
  else if isWord "continue" ts then
    node .expression do
      word "continue"
      if isLifetime (← ahead) then lifetime
      return []
  else if isWord "return" ts then node .expression (valueAfter g "return")
  else if isWord "become" ts then
    node .expression do
      word "become"
      let _ ← g.expr true
      return []
  else if isGroup .bracket ts then node .expression (arrayParts g)
  else if isWord "let" ts then
    node .expression do
      word "let"
      let p ← alternatives g
      mark "="
      let left ← g.unary allowRecord
      let value ← g.climb left allowRecord Level.compare
      return [p, value]
  else if isWord "if" ts then node .block (ifParts g (ts.length + 1))
  else if isWord "while" ts then node .block (whileParts g)
  else if isWord "for" ts then node .block (forParts g)
  else if isWord "loop" ts then node .block (loopParts g)
  else if isWord "match" ts then node .block (matchParts g)
  else if isWord "yield" ts then node .expression (valueAfter g "yield")
  else if isWord "unsafe" ts then
    node .block do
      word "unsafe"
      blockParts g
  else if isWord "const" ts then constBlock g
  else if isGroup .brace ts then node .block (blockParts g)
  else if isMark ".." ts then
    node .range do
      let closed ← rangeLimits false
      rangeEnd g allowRecord closed
  else if isWord "_" ts then node .expression do skip 1; return []
  else if isLifetime ts then node .block (labeled g)
  else refuse "expected an expression"

/-! ## Trailers -/

/-- Splits a number with a point into the indexes around it; says whether it ends in the point. -/
def indexesOf (text : String) (p : Position) : Parser Bool := do
  let trailing := text.toList.getLast? == some '.'
  let parts := (if trailing then String.ofList text.toList.dropLast else text).splitOn "."
  for part in parts do
    if isFloatText part || !isNumberText part then refuseAt p "expected integer literal"
    else index part p
  return trailing

/-- A member access after its point: what it adds to the expression, and whether it is a call. -/
def memberParts (g : Grammar) : Parser (List Node) := do
  let finish : Parser (List Node) := do
    if ← word? "await" then return []
    else
      let named ← member
      let turbofish ← if named && isMark "::" (← ahead) then
          pure (some (← do mark "::"; angleArguments g))
        else pure none
      if named && (turbofish.isSome || isGroup .paren (← ahead)) then
        let arguments ← group .paren (commaList (g.expr true))
        return turbofish.getD [] ++ arguments
      else return []
  match ← ahead with
  | .literal text span :: _ =>
    if isNumberText text && isFloatText text then
      skip 1
      if ← indexesOf text span.start then finish else return []
    else finish
  | .punct '-' _ span :: .literal text _ :: _ =>
    if isNumberText text && isFloatText text then
      refuseAt span.start "invalid digit found in string"
    else finish
  | _ => finish

/-- One trailer after an expression: a call, a member access, an index or a question mark. -/
def trailer (g : Grammar) (before : Stream) (operand : Node) : Parser (Option Node) := do
  let ts ← ahead
  if isGroup .paren ts then
    let arguments ← group .paren (commaList (g.expr true))
    return some (← nodeSince before .call (operand :: arguments))
  else if isMark "." ts && !isMark ".." ts && !isRange operand then
    mark "."
    let more ← memberParts g
    return some (← nodeSince before .expression (operand :: more))
  else if isGroup .bracket ts then
    let index ← group .bracket (g.expr true)
    return some (← nodeSince before .expression [operand, index])
  else if isMark "?" ts && !isRange operand then
    mark "?"
    return some (← nodeSince before .expression [operand])
  else return none

/-- All trailers after an expression that started at `before`. -/
def trailers (g : Grammar) (before : Stream) : Nat → Node → Parser Node
  | 0, operand => return operand
  | n + 1, operand => do
    match ← trailer g before operand with
    | none => return operand
    | some grown => trailers g before n grown

/-! ## Operands and whole expressions -/

/-- The expression together with the attributes before it. -/
def withAttributes (before : Stream) (attributes : List Node) (n : Node) : Parser Node := do
  if attributes.isEmpty then return n
  else nodeSince before n.role (attributes ++ n.children)

/-- A reference, after its attributes. -/
def reference (g : Grammar) (allowRecord : Bool) : Parser (Role × Node) := do
  mark "&"
  let ts ← ahead
  if isWord "raw" ts && isAnyWord ["mut", "const"] ts.tail then
    skip 2
    return (.expression, ← g.unary allowRecord)
  else
    let _ ← word? "mut"
    return (.borrow, ← g.unary allowRecord)

/-- An operand: operators before it, or an atom and its trailers. -/
def unaryProduction (g : Grammar) (allowRecord : Bool) : Parser Node := do
  let before ← get
  let attributes ← outerAttributes g
  let ts ← ahead
  if isMark "&" ts then
    let (role, operand) ← reference g allowRecord
    nodeSince before role (attributes ++ [operand])
  else if isMark "*" ts || isMark "!" ts || isMark "-" ts then
    skip 1
    let operand ← g.unary allowRecord
    nodeSince before .expression (attributes ++ [operand])
  else
    let start ← get
    let first ← atom g allowRecord
    let whole ← trailers g start ((← ahead).length + 1) first
    if !attributes.isEmpty && isRange whole then
      refuseAt (place start) "attributes are not allowed on range expressions starting with `..`"
    else withAttributes before attributes whole

def exprProduction (g : Grammar) (allowRecord : Bool) : Parser Node := do
  let first ← unaryProduction g allowRecord
  climbProduction g first allowRecord Level.lowest

/-- Whether a block-like expression starts here. -/
def startsBlockLike (ts : List Token) : Bool :=
  let next := ts.tail
  isAnyWord ["if", "while", "loop", "match", "unsafe"] ts || (isWord "for" ts && !isBinder ts)
    || (isWord "try" ts && isGroup .brace next) || (isWord "const" ts && isGroup .brace next)
    || isGroup .brace ts || isLifetime ts

def statementExprProduction (g : Grammar) : Parser Node := do
  let before ← get
  let attributes ← outerAttributes g
  let start ← get
  let first ← if startsBlockLike (← ahead) then atom g true else unaryProduction g true
  let ts ← ahead
  if !isBlockLike first then
    climbProduction g (← withAttributes before attributes first) true Level.lowest
  else if (isMark "." ts && !isMark ".." ts) || isMark "?" ts then
    let whole ← trailers g start (ts.length + 1) first
    climbProduction g (← withAttributes before attributes whole) true Level.lowest
  else withAttributes before attributes first

end Overlay.Source.Grammar
