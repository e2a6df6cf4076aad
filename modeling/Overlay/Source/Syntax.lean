import Overlay.Source.Token

/-!
# Syntax trees

A parsed text is a tree of nodes. A node has a role, the tokens it was read from, and its children
in the order of a walk through the tree: attributes first, then what the declaration or expression
holds. A role tells what the node is and keeps the names that the rest of the library asks for; what
no one asks for is only kept as tokens.
-/

namespace Overlay.Source

/-- What an import names: a path that goes on, a name, a name under another name, everything, or
several of these in braces. -/
inductive UseTree where
  | path (name : String) (rest : UseTree)
  | name (name : String)
  | rename (name bound : String)
  | glob
  | group (trees : List UseTree)

/-- What follows the path of an attribute. -/
inductive AttributeArguments where
  | bare
  | list (closing : Span) (body : List Token)
  | value

/-- The call of a macro: its path, and the group of tokens it is called on. -/
structure MacroCall where
  path : List String
  delimiter : Delimiter
  closing : Span
  body : List Token

/-- The forms of the fields of a structure. -/
inductive FieldsForm where
  | named
  | positional
  | none
  deriving DecidableEq

/-- What other productions ask of a type. -/
inductive TypeForm where
  /-- A path; `qualified` by a type in angle brackets, or `simple` if it is one name. -/
  | path (qualified simple : Bool)
  /-- Bounds without a keyword; `single` if there is only one. -/
  | bounds (single : Bool)
  | other
  deriving DecidableEq

/-- What a node is. -/
inductive Role where
  /-- An attribute; `inner` ones belong to what is around them. -/
  | attribute (inner rooted : Bool) (path : List String) (arguments : AttributeArguments)
  /-- A path as an expression. -/
  | path (qualified : Bool) (segments : List String)
  /-- A call: the callee and its arguments. -/
  | call
  /-- A structure literal: its fields and at last its base, if it has one. -/
  | record (segments : List String)
  /-- One field of a structure literal. -/
  | fieldValue
  /-- The base of a structure literal, around its expression. -/
  | base
  /-- A reference to an expression. -/
  | borrow
  /-- The call of a macro as an expression. -/
  | macroCall (call : MacroCall)
  /-- A block, or an expression that ends like one and needs no semicolon. -/
  | block
  /-- A range, which is no operand. -/
  | range
  /-- A comparison, which is no operand of another one. -/
  | comparison
  /-- Any other expression. -/
  | expression
  /-- A statement that is an expression. -/
  | statement
  /-- A statement that binds names. -/
  | binding
  | pattern
  /-- A range pattern without one of its ends. -/
  | openRange
  /-- The pattern for what is left. -/
  | restPattern
  | typeExpr (form : TypeForm)
  /-- One declared field: its attributes and its type. -/
  | field (name : Option String)
  | functionDecl (name : String)
  | useDecl (tree : UseTree)
  | structDecl (name : String) (generic : Bool) (fields : FieldsForm)
  | enumDecl (name : String)
  | unionDecl (name : String)
  | aliasDecl (name : String)
  | modDecl (name : String) (isInline : Bool)
  | constDecl
  | staticDecl
  | implDecl
  | traitDecl
  | macroDecl
  | otherDecl

/-- A node of a syntax tree. -/
inductive Node where
  | mk (role : Role) (tokens : List Token) (children : List Node)

namespace Node

def role : Node → Role
  | mk r _ _ => r

def tokens : Node → List Token
  | mk _ t _ => t

def children : Node → List Node
  | mk _ _ c => c

/-- Where the node starts and ends; a node without tokens is nowhere. -/
def span? (n : Node) : Option Span :=
  match n.tokens.head?, n.tokens.getLast? with
  | some a, some b => some ⟨a.start, b.stop⟩
  | _, _ => none

def isAttribute (n : Node) : Bool :=
  match n.role with
  | .attribute .. => true
  | _ => false

/-- The attributes of a node. -/
def attributes (n : Node) : List Node := n.children.takeWhile isAttribute

/-- The children of a node after its attributes. -/
def parts (n : Node) : List Node := n.children.dropWhile isAttribute

/-- The last child of a node. -/
def lastChild? (n : Node) : Option Node := n.children.getLast?

/-- Whether the last token of the node is a closing brace. -/
def endsWithBrace (n : Node) : Bool := (n.tokens.getLast?).any Token.isBraceGroup

mutual

/-- The node and all nodes below it, in the order of the walk. -/
def walk : Node → List Node
  | mk r t c => mk r t c :: walkAll c

/-- All nodes of a list of trees, in the order of the walk. -/
def walkAll : List Node → List Node
  | [] => []
  | n :: rest => walk n ++ walkAll rest

end

end Node

/-- A parsed text: its inner attributes and its declarations. -/
structure File where
  attributes : List Node
  items : List Node

end Overlay.Source
