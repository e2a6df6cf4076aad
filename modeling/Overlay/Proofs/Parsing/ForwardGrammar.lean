import Overlay.Proofs.Parsing.Forward

/-!
# The productions of the grammar only go on

Every production, at whatever depth the grammar is closed, goes on from where it starts.
-/

set_option synthInstance.maxSize 100000
set_option synthInstance.maxHeartbeats 200000

namespace Overlay.Source.Grammar

open Overlay.Source.Parser

/-- A grammar whose productions only go on. -/
class IsForward (g : Grammar) : Prop where
  expr : ∀ b, Forward (g.expr b)
  unary : ∀ b, Forward (g.unary b)
  climb : ∀ n b l, Forward (g.climb n b l)
  statementExpr : Forward g.statementExpr
  type : ∀ b, Forward (g.type b)
  bound : Forward g.bound
  pattern : Forward g.pattern
  statements : Forward g.statements
  item : Forward g.item
  useTree : ∀ b, Forward (g.useTree b)
  namedFields : Forward g.namedFields

attribute [instance] IsForward.expr IsForward.unary IsForward.climb IsForward.statementExpr
  IsForward.type IsForward.bound IsForward.pattern IsForward.statements IsForward.item
  IsForward.useTree IsForward.namedFields

section Productions

variable (g : Grammar) [g.IsForward]

/-! ### Paths -/

instance (n : Nat) : Forward (modSegments n) := by
  induction n with
  | zero =>
      unfold modSegments
      infer_instance
  | succ n ih =>
      unfold modSegments
      infer_instance

instance : Forward modPath := by unfold modPath; infer_instance

instance : Forward (constArgument g) := by unfold constArgument; infer_instance

instance : Forward (genericArgument g) := by
  unfold genericArgument
  repeat' first | infer_instance | refine .bind inferInstance fun _ => ?_ | split

instance : Forward (angleArguments g) := by unfold angleArguments; infer_instance

instance (b : Bool) : Forward (segment g b) := by unfold segment; infer_instance

instance (b c : Bool) : Forward (moreSegments g b c) := by unfold moreSegments; infer_instance

instance (b : Bool) : Forward (path g b) := by unfold path; infer_instance

instance (b : Bool) : Forward (qualifiedPath g b) := by unfold qualifiedPath; infer_instance

instance (segments : List String) : Forward (macroCall segments) := by
  unfold macroCall
  infer_instance

instance (inner : Bool) : Forward (attributeContent g inner) := by
  unfold attributeContent
  repeat' first
    | infer_instance
    | refine Forward.ahead fun _ => ?_
    | refine Forward.bind inferInstance fun _ => ?_
    | refine ForwardFrom.skip (by simp [*]) inferInstance
    | split
    | refine ForwardFrom.of ?_
    | dsimp only

instance : Forward (outerAttribute g) := by unfold outerAttribute; infer_instance

instance : Forward (outerAttributes g) := by unfold outerAttributes; infer_instance

instance : Forward (innerAttributes g) := by unfold innerAttributes; infer_instance

instance : Forward visibility := by
  unfold visibility
  repeat' first
    | infer_instance
    | refine Forward.ahead fun _ => ?_
    | refine Forward.bind inferInstance fun _ => ?_
    | refine ForwardFrom.skip (by simp [*]) inferInstance
    | split
    | refine ForwardFrom.of ?_
    | dsimp only

instance (text : String) (p : Position) : Forward (index text p) := by
  unfold index
  repeat' first | infer_instance | split

instance (text : String) (p : Position) : Still (index text p) := by
  unfold index
  repeat' first | infer_instance | split

instance : Forward member := by
  unfold member
  refine .ahead fun s => ?_
  split
  · next hrest =>
      refine .ite (fun _ => .bind fun {a t} h => ?_) fun _ => inferInstance
      rw [Still.still h]
      exact .skip (by simp [hrest]) inferInstance
  · infer_instance
  · exact .ite (fun h => .skip (one_le_length isName_nil h) inferInstance) fun _ => inferInstance

/-! ### Types -/

instance : Forward (boundLifetimes g) := by unfold boundLifetimes; infer_instance

instance : Forward (boundLifetimes? g) := by unfold boundLifetimes?; infer_instance

instance (b : Bool) : Forward (returnType g b) := by unfold returnType; infer_instance

instance : Forward (parenArguments g) := by unfold parenArguments; infer_instance

instance (p : PathSyntax) : Forward (withParenArguments g p) := by
  unfold withParenArguments
  infer_instance

instance (b : Bool) : Forward (traitBound g b) := by unfold traitBound; infer_instance

instance : Forward (captures) := by unfold captures; infer_instance

instance (b c : Bool) : Forward (boundOf g b c) := by unfold boundOf; infer_instance

instance : Forward (boundProduction g) := by unfold boundProduction; infer_instance

instance (b c d : Bool) : Forward (bounds g b c d) := by unfold bounds; infer_instance

instance (p : Position) (b : Bool) : Forward (objectBounds g p b) := by
  unfold objectBounds
  infer_instance

instance : Forward (plusBounds g) := by unfold plusBounds; infer_instance

instance (b : Bool) : Forward (pointerArgument g b) := by unfold pointerArgument; infer_instance

instance (b : Bool) (n : Nat) : Forward (pointerArguments g b n) := by
  induction n generalizing b with
  | zero =>
      unfold pointerArguments
      infer_instance
  | succ n ih =>
      unfold pointerArguments
      infer_instance

instance : Forward (callingConvention) := by unfold callingConvention; infer_instance

instance : Forward (functionPointer g) := by unfold functionPointer; infer_instance

instance (b : Bool) : Forward (parenType g b) := by
  unfold parenType
  repeat' first
    | infer_instance
    | refine Forward.ahead fun _ => ?_
    | refine Forward.bind inferInstance fun _ => ?_
    | refine ForwardFrom.skip (by simp [*]) inferInstance
    | split
    | refine ForwardFrom.of ?_
    | dsimp only

instance (b c : Bool) : Forward (pathType g b c) := by unfold pathType; infer_instance

instance (b : Bool) : Forward (typeContent g b) := by unfold typeContent; infer_instance

instance (b : Bool) : Forward (typeProduction g b) := by unfold typeProduction; infer_instance

instance (stop : List Token → Bool) : Forward (lifetimeBounds stop) := by
  unfold lifetimeBounds
  infer_instance

instance : Forward (genericParameter g) := by unfold genericParameter; infer_instance

instance : Forward (generics g) := by unfold generics; infer_instance

instance : Forward (predicate g) := by unfold predicate; infer_instance

instance : Forward (whereClause g) := by unfold whereClause; infer_instance

/-! ### Patterns -/

instance : Forward (alternatives g) := by unfold alternatives; infer_instance

instance (b : Bool) : Forward (rangeLimits b) := by unfold rangeLimits; infer_instance

instance (b : Bool) : Strict (rangeLimits b) := by unfold rangeLimits; infer_instance

instance : Forward (constBlock g) := by unfold constBlock; infer_instance

instance : Forward (rangeBound g) := by unfold rangeBound; infer_instance

instance (start : List Node) : Forward (rangePattern g start) := by
  unfold rangePattern
  repeat' first | infer_instance | refine .bind inferInstance fun _ => ?_ | split

instance : Forward (rangeToPattern g) := by
  unfold rangeToPattern
  repeat' first | infer_instance | refine .bind inferInstance fun _ => ?_ | split

instance : Forward (fieldPattern g) := by unfold fieldPattern; infer_instance

instance (n : Nat) : Forward (structPattern g n) := by
  induction n with
  | zero =>
      unfold structPattern
      infer_instance
  | succ n ih =>
      unfold structPattern
      infer_instance

instance : Forward (pathPattern g) := by unfold pathPattern; infer_instance

instance : Forward (slicePattern g) := by
  unfold slicePattern
  refine @Forward.commaList _ _ (.bind inferInstance fun element => ?_)
  split <;> infer_instance

instance : Forward (bindingPattern g) := by unfold bindingPattern; infer_instance

instance : Forward (patternContent g) := by
  unfold patternContent
  refine .ahead fun s => ?_
  dsimp only
  repeat' first
    | infer_instance
    | refine .ite (fun h => ForwardWith.from_ (Ensures.room h)) fun _ => ?_
    | refine .ite (fun _ => ?_) fun _ => ?_
  refine .of (.bind inferInstance fun bound => ?_)
  split <;> infer_instance

instance : Forward (patternProduction g) := by unfold patternProduction; infer_instance

/-! ### Expressions -/

instance (b : Bool) (l : Level) (operand : Node) (n : Nat) : Forward (rightClimb g b l operand n) := by
  induction n generalizing operand with
  | zero =>
      unfold rightClimb
      infer_instance
  | succ n ih =>
      unfold rightClimb
      infer_instance

instance (b : Bool) (l : Level) : Forward (rightOperand g b l) := by
  unfold rightOperand
  infer_instance

instance (b c : Bool) : Forward (rangeEnd g b c) := by unfold rangeEnd; infer_instance

instance (ts : List Token) : Forward (refuseTrailer ts) := by unfold refuseTrailer; infer_instance

instance (b : Bool) (l : Level) (left : Node) : Forward (climbStep g b l left) := by
  unfold climbStep
  repeat' first | infer_instance | refine .bind inferInstance fun _ => ?_ | split

instance (b : Bool) (l : Level) (n : Nat) (left : Node) : Forward (climbLoop g b l n left) := by
  induction n generalizing left with
  | zero =>
      unfold climbLoop
      infer_instance
  | succ n ih =>
      unfold climbLoop
      refine .bind inferInstance fun grown => ?_
      split <;> infer_instance

instance (left : Node) (b : Bool) (l : Level) : Forward (climbProduction g left b l) := by
  unfold climbProduction
  infer_instance

instance : Forward (blockParts g) := by unfold blockParts; infer_instance

instance : Forward (plainBlock g) := by unfold plainBlock; infer_instance

instance (n : Nat) : Forward (ifParts g n) := by
  induction n with
  | zero =>
      unfold ifParts
      infer_instance
  | succ n ih =>
      unfold ifParts
      infer_instance

instance : Forward (forParts g) := by unfold forParts; infer_instance

instance : Forward (whileParts g) := by unfold whileParts; infer_instance

instance : Forward (loopParts g) := by unfold loopParts; infer_instance

instance : Forward (arm g) := by unfold arm; infer_instance

instance : Forward (matchParts g) := by unfold matchParts; infer_instance

instance : Forward (labeled g) := by unfold labeled; infer_instance

instance : Forward (closureParameter g) := by unfold closureParameter; infer_instance

instance (b : Bool) : Forward (closure g b) := by unfold closure; infer_instance

instance : Forward (fieldValue g) := by unfold fieldValue; infer_instance

instance (n : Nat) : Forward (recordFields g n) := by
  induction n with
  | zero =>
      unfold recordFields
      infer_instance
  | succ n ih =>
      unfold recordFields
      infer_instance

instance (b : Bool) : Forward (pathExpr g b) := by unfold pathExpr; infer_instance

instance : Forward (arrayParts g) := by unfold arrayParts; infer_instance

instance (b : Bool) : Forward (breakParts g b) := by unfold breakParts; infer_instance

instance (w : String) : Forward (valueAfter g w) := by unfold valueAfter; infer_instance

instance (b : Bool) : Forward (atom g b) := by unfold atom; infer_instance

instance (text : String) (p : Position) : Forward (indexesOf text p) := by
  unfold indexesOf
  infer_instance

instance : Forward (memberParts g) := by
  unfold memberParts
  extract_lets finish
  have hfinish : Forward finish := by
    unfold finish
    infer_instance
  clear_value finish
  refine .ahead fun s => ?_
  split
  · next hrest =>
      exact .ite (fun _ => .skip (by simp [hrest]) inferInstance) fun _ => inferInstance
  · infer_instance
  · infer_instance

instance (before : Stream) (operand : Node) : Forward (trailer g before operand) := by
  unfold trailer
  infer_instance

instance (before : Stream) (n : Nat) (operand : Node) : Forward (trailers g before n operand) := by
  induction n generalizing operand with
  | zero =>
      unfold trailers
      infer_instance
  | succ n ih =>
      unfold trailers
      refine .bind inferInstance fun grown => ?_
      split <;> infer_instance

instance (before : Stream) (attributes : List Node) (n : Node) : Forward (withAttributes before attributes n) := by
  unfold withAttributes
  infer_instance

instance (b : Bool) : Forward (reference g b) := by unfold reference; infer_instance

instance (b : Bool) : Forward (unaryProduction g b) := by unfold unaryProduction; infer_instance

instance (b : Bool) : Forward (exprProduction g b) := by unfold exprProduction; infer_instance

instance : Forward (statementExprProduction g) := by unfold statementExprProduction; infer_instance

/-! ### Statements and declarations -/

instance : Forward (letParts g) := by unfold letParts; infer_instance

instance : Forward macroStart := by
  unfold macroStart
  repeat' first | infer_instance | refine .bind inferInstance fun _ => ?_ | split

instance : Forward macroStatement := by unfold macroStatement; infer_instance

section Statements

variable (itemAfter : Stream → List Node → Parser Node) [∀ s a, Forward (itemAfter s a)]

instance : Forward (statement g itemAfter) := by
  unfold statement
  repeat' first | infer_instance | refine .bind inferInstance fun _ => ?_ | split

instance (n : Nat) : Forward (statementsLoop g itemAfter n) := by
  induction n with
  | zero =>
      unfold statementsLoop
      infer_instance
  | succ n ih =>
      unfold statementsLoop
      infer_instance

end Statements

instance : Forward (namedField g) := by unfold namedField; infer_instance

instance : Forward (namedFieldsProduction g) := by unfold namedFieldsProduction; infer_instance

instance : Forward (positionalField g) := by unfold positionalField; infer_instance

instance : Forward (positionalFields g) := by unfold positionalFields; infer_instance

instance : Forward (receiver g) := by unfold receiver; infer_instance

instance (count : Nat) (b : Bool) (n : Nat) : Forward (parameters g count b n) := by
  induction n generalizing count b with
  | zero =>
      unfold parameters
      infer_instance
  | succ n ih =>
      unfold parameters
      repeat' first | infer_instance | refine .bind inferInstance fun _ => ?_ | split | dsimp only

instance (b : Bool) : Forward (signature g b) := by unfold signature; infer_instance

instance : Forward (functionBody g) := by unfold functionBody; infer_instance

instance : Forward aliasName := by unfold aliasName; infer_instance

instance (b : Bool) (n : Nat) : Forward (useGroup g b n) := by
  induction n with
  | zero =>
      unfold useGroup
      infer_instance
  | succ n ih =>
      unfold useGroup
      repeat' first | infer_instance | refine .bind inferInstance fun _ => ?_ | split | dsimp only

instance (b : Bool) : Forward (useTreeProduction g b) := by unfold useTreeProduction; infer_instance

instance (b : Bool) : Forward (useItem g b) := by unfold useItem; infer_instance

instance : Forward (constantTail g) := by unfold constantTail; infer_instance

instance (b : Bool) (c : ClausePlace) : Forward (aliasSyntax g b c) := by
  unfold aliasSyntax
  infer_instance

instance (b : Bool) : Forward (macroItem b) := by unfold macroItem; infer_instance

instance : Forward afterVisibility := by
  unfold afterVisibility
  repeat' first | infer_instance | refine .bind inferInstance fun _ => ?_ | split

instance : Forward (foreignItem g) := by unfold foreignItem; infer_instance

instance : Forward (traitFunction g) := by unfold traitFunction; infer_instance

instance : Forward (traitItem g) := by unfold traitItem; infer_instance

instance : Forward (implItem g) := by
  unfold implItem
  repeat' first | infer_instance | refine .bind inferInstance fun _ => ?_ | split | dsimp only

instance : Forward (functionItem g) := by unfold functionItem; infer_instance

instance : Forward externCrate := by unfold externCrate; infer_instance

instance : Forward (foreignBlock g) := by unfold foreignBlock; infer_instance

instance : Forward (staticItem g) := by unfold staticItem; infer_instance

instance : Forward (constItem g) := by
  unfold constItem
  repeat' first | infer_instance | refine .bind inferInstance fun _ => ?_ | split

instance : Forward (modItem g) := by unfold modItem; infer_instance

instance : Forward (aliasItem g) := by
  unfold aliasItem
  repeat' first | infer_instance | refine .bind inferInstance fun _ => ?_ | split

instance : Forward (structItem g) := by unfold structItem; infer_instance

instance : Forward (variant g) := by unfold variant; infer_instance

instance : Forward (enumItem g) := by unfold enumItem; infer_instance

instance : Forward (unionItem g) := by unfold unionItem; infer_instance

instance (gs : Generics) : Forward (traitTail g gs) := by unfold traitTail; infer_instance

instance : Forward (traitOnly g) := by unfold traitOnly; infer_instance

instance : Forward (traitOrAlias g) := by unfold traitOrAlias; infer_instance

instance : Forward (implDecl g) := by
  unfold implDecl
  refine .bind inferInstance fun visible => .bind inferInstance fun _ => .bind inferInstance
    fun _ => .bind inferInstance fun _ => .bind inferInstance fun ts => ?_
  extract_lets afterGenerics
  have hgenerics : ∀ gs, Forward (afterGenerics gs) := by
    intro gs
    unfold afterGenerics
    refine .bind inferInstance fun ts => ?_
    extract_lets isConst afterConst
    have hconst : ∀ u, Forward (afterConst u) := by
      intro u
      unfold afterConst
      infer_instance
    clear_value afterConst
    infer_instance
  clear_value afterGenerics
  infer_instance

instance : Forward macroKeyword := by unfold macroKeyword; infer_instance

instance : Forward (declared g) := by
  unfold declared
  refine .bind inferInstance fun x => ?_
  dsimp only
  repeat' first
    | infer_instance
    | refine @Forward.ite _ _ _ _ _ ?_ ?_
  refine .bind inferInstance fun tree => ?_
  split <;> infer_instance

instance (before : Stream) (attributes : List Node) : Forward (itemAfter g before attributes) := by
  unfold itemAfter
  infer_instance

instance : Forward (itemProduction g) := by unfold itemProduction; infer_instance

instance : Forward (statementsProduction g) := by unfold statementsProduction; infer_instance

end Productions

instance (n : Nat) : (ofDepth n).IsForward := by
  induction n with
  | zero => constructor <;> intros <;> exact inferInstanceAs (Forward (refuse _))
  | succ n ih =>
      exact {
        expr b := inferInstanceAs (Forward (exprProduction _ b))
        unary b := inferInstanceAs (Forward (unaryProduction _ b))
        climb left b l := inferInstanceAs (Forward (climbProduction _ left b l))
        statementExpr := inferInstanceAs (Forward (statementExprProduction _))
        type b := inferInstanceAs (Forward (typeProduction _ b))
        bound := inferInstanceAs (Forward (boundProduction _))
        pattern := inferInstanceAs (Forward (patternProduction _))
        statements := inferInstanceAs (Forward (statementsProduction _))
        item := inferInstanceAs (Forward (itemProduction _))
        useTree b := inferInstanceAs (Forward (useTreeProduction _ b))
        namedFields := inferInstanceAs (Forward (namedFieldsProduction _)) }

end Overlay.Source.Grammar
