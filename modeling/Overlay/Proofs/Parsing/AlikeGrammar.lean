import Overlay.Proofs.Parsing.ForwardGrammar
import Overlay.Proofs.Parsing.Alike

/-!
# Places and depth do not matter

The grammar finds the same in tokens that are the same without their places, at every depth that is
enough for them.
-/

set_option synthInstance.maxSize 100000
set_option synthInstance.maxHeartbeats 200000

namespace Overlay.Source.Grammar

open Overlay.Source.Parser

/-- The grammars agree on what is short enough for the depth `k`. -/
class IsAlike (k : Nat) (g g' : Grammar) : Prop where
  expr : ∀ b, Alike k 1 (g.expr b) (g'.expr b)
  unary : ∀ b, Alike k 1 (g.unary b) (g'.unary b)
  climb : ∀ (n n' : Node) b l, Like n n' → Alike k 1 (g.climb n b l) (g'.climb n' b l)
  statementExpr : Alike k 1 g.statementExpr g'.statementExpr
  type : ∀ b, Alike k 1 (g.type b) (g'.type b)
  bound : Alike k 1 g.bound g'.bound
  pattern : Alike k 1 g.pattern g'.pattern
  statements : Alike k 0 g.statements g'.statements
  item : Alike k 1 g.item g'.item
  useTree : ∀ b, Alike k 1 (g.useTree b) (g'.useTree b)
  namedFields : Alike k 1 g.namedFields g'.namedFields

section Productions

variable (g g' : Grammar) {k : Nat} {m : Fin 3} [g.IsForward] [hg : IsAlike k g g']

instance (b : Bool) : Alike k 0 (g.expr b) (g'.expr b) := (hg.expr b).mono

instance (b : Bool) : Alike k 0 (g.unary b) (g'.unary b) := (hg.unary b).mono

instance (n n' : Node) [h : Like n n'] (b : Bool) (l : Level) :
    Alike k 0 (g.climb n b l) (g'.climb n' b l) := (hg.climb n n' b l h).mono

instance : Alike k 1 g.statementExpr g'.statementExpr := hg.statementExpr

instance : Alike k 0 g.statementExpr g'.statementExpr := hg.statementExpr.mono

instance (b : Bool) : Alike k 0 (g.type b) (g'.type b) := (hg.type b).mono

instance : Alike k 0 g.bound g'.bound := hg.bound.mono

instance : Alike k 0 g.pattern g'.pattern := hg.pattern.mono

instance : Alike k 0 g.statements g'.statements := hg.statements

instance : Alike k 0 g.item g'.item := hg.item.mono

instance (b : Bool) : Alike k 0 (g.useTree b) (g'.useTree b) := (hg.useTree b).mono

instance : Alike k 0 g.namedFields g'.namedFields := hg.namedFields.mono

/-! ### Paths -/

instance (n n' : Nat) [hn : Like n n'] : Alike k m (modSegments n) (modSegments n') := by
  obtain rfl := hn.rigid
  clear hn
  induction n generalizing m with
  | zero =>
      unfold modSegments
      infer_instance
  | succ n ih =>
      unfold modSegments
      infer_instance

instance : Alike k m modPath modPath := by
  unfold modPath
  infer_instance

instance : Alike k m (constArgument g) (constArgument g') := by
  unfold constArgument
  infer_instance

instance : Alike k 0 (genericArgument g) (genericArgument g') := by
  unfold genericArgument
  refine .ahead fun ts us h => .cond inferInstance inferInstance (.cond inferInstance inferInstance ?_)
  refine .andThen inferInstance fun argument argument' hargument => ?_
  have hrole : Like argument.role argument'.role := inferInstance
  generalize argument.role = role, argument'.role = role' at hrole
  cases hrole using Like.role_cases with
  | same role =>
      split
      · infer_instance
      · infer_instance
  | attr => infer_instance
  | call => infer_instance

instance : Alike k m (angleArguments g) (angleArguments g') := by
  unfold angleArguments
  infer_instance

instance (b : Bool) : Alike k m (segment g b) (segment g' b) := by
  unfold segment
  infer_instance

instance (b c : Bool) : Alike k m (moreSegments g b c) (moreSegments g' b c) := by
  unfold moreSegments
  infer_instance

instance (b : Bool) : Alike k m (path g b) (path g' b) := by
  unfold path
  infer_instance

instance (b : Bool) : Alike k m (qualifiedPath g b) (qualifiedPath g' b) := by
  unfold qualifiedPath
  infer_instance

instance (l l' : List String) [hl : Like l l'] : Alike k m (macroCall l) (macroCall l') := by
  unfold macroCall
  obtain rfl := hl.rigid
  infer_instance

instance (b : Bool) : Alike k m (attributeContent g b) (attributeContent g' b) := by
  unfold attributeContent
  refine .ahead fun ts us h => ?_
  extract_lets afterPath afterPath'
  have hpath : ∀ x, Alike k m (afterPath x) (afterPath' x) := by
    rintro ⟨rooted, segments⟩
    refine .ahead fun ts us h => ?_
    cases h using Like.tokens_cases with
    | group => infer_instance
    | _ =>
        refine .cond inferInstance (.andThen inferInstance fun _ _ _ => .ahead fun ts us h =>
          .cond inferInstance (.andThen inferInstance fun r r' hr => ?_) inferInstance) inferInstance
        cases hr using Like.except_cases with
        | ok b b' hb =>
            obtain rfl := hb.rigid
            cases b <;> infer_instance
        | error => infer_instance
  clear_value afterPath afterPath'
  infer_instance

instance : Alike k m (outerAttribute g) (outerAttribute g') := by
  unfold outerAttribute
  infer_instance

instance : Alike k m (outerAttributes g) (outerAttributes g') := by
  unfold outerAttributes
  infer_instance

instance : Alike k m (innerAttributes g) (innerAttributes g') := by
  unfold innerAttributes
  infer_instance

instance : Alike k m visibility visibility := by
  unfold visibility
  refine .andThen inferInstance fun found found' h => ?_
  obtain rfl := h.rigid
  refine .cond inferInstance (.ahead fun ts us h => ?_) inferInstance
  cases h using Like.tokens_cases with
  | group d o o' c c' body body' ts us hbody hts h =>
      cases d <;> infer_instance
  | _ => infer_instance

instance (text : String) (p p' : Position) : Alike k m (index text p) (index text p') := by
  unfold index
  repeat' first | infer_instance | split

instance : Alike k m member member := by
  unfold member
  refine .ahead fun ts us h => ?_
  cases h using Like.tokens_cases with
  | punct c joint joint' span span' ts us hts h =>
      by_cases hc : c = '-'
      · subst hc
        cases hts using Like.tokens_cases with
        | literal text =>
            exact inferInstanceAs (Alike k m
              (if (isNumberText text && !isFloatText text) = true then refuseAt span.start _
                else refuse _)
              (if (isNumberText text && !isFloatText text) = true then refuseAt span'.start _
                else refuse _))
        | _ => exact inferInstanceAs (Alike k m (refuse _) (refuse _))
      · split
        · next heq => cases heq
        · next heq =>
            cases heq
            exact (hc rfl).elim
        · show Alike k m (refuse _) _
          split
          · next heq => cases heq
          · next heq =>
              cases heq
              exact (hc rfl).elim
          · exact inferInstanceAs (Alike k m (refuse _) (refuse _))
  | _ => infer_instance

/-! ### Types -/

instance : Alike k m (boundLifetimes g) (boundLifetimes g') := by
  unfold boundLifetimes
  infer_instance

instance : Alike k m (boundLifetimes? g) (boundLifetimes? g') := by
  unfold boundLifetimes?
  infer_instance

instance (b : Bool) : Alike k 0 (returnType g b) (returnType g' b) := by
  unfold returnType
  infer_instance

instance : Alike k m (parenArguments g) (parenArguments g') := by
  unfold parenArguments
  infer_instance

instance (p p' : PathSyntax) [Like p p'] :
    Alike k m (withParenArguments g p) (withParenArguments g' p') := by
  unfold withParenArguments
  infer_instance

instance (b : Bool) : Alike k m (traitBound g b) (traitBound g' b) := by
  unfold traitBound
  infer_instance

instance : Alike k m captures captures := by
  unfold captures
  infer_instance

instance (b c : Bool) : Alike k m (boundOf g b c) (boundOf g' b c) := by
  unfold boundOf
  infer_instance

instance : Alike k m (boundProduction g) (boundProduction g') := by
  unfold boundProduction
  infer_instance

instance (b c d : Bool) : Alike k m (bounds g b c d) (bounds g' b c d) := by
  unfold bounds
  infer_instance

instance (p p' : Position) (b : Bool) : Alike k m (objectBounds g p b) (objectBounds g' p' b) := by
  unfold objectBounds
  infer_instance

instance : Alike k m (plusBounds g) (plusBounds g') := by
  unfold plusBounds
  infer_instance

instance (b : Bool) : Alike k 0 (pointerArgument g b) (pointerArgument g' b) := by
  unfold pointerArgument
  infer_instance

instance (b : Bool) (n n' : Nat) [hn : Like n n'] :
    Alike k 0 (pointerArguments g b n) (pointerArguments g' b n') := by
  obtain rfl := hn.rigid
  clear hn
  induction n generalizing b with
  | zero =>
      unfold pointerArguments
      infer_instance
  | succ n ih =>
      unfold pointerArguments
      infer_instance

instance : Alike k m callingConvention callingConvention := by
  unfold callingConvention
  infer_instance

instance : Alike k m (functionPointer g) (functionPointer g') := by
  unfold functionPointer
  infer_instance

instance (b : Bool) : Alike k m (parenType g b) (parenType g' b) := by
  unfold parenType
  refine .ahead fun ts us h => ?_
  cases h using Like.tokens_cases with
  | group d o o' c c' body body' ts us hbody hts h =>
      cases d with
      | paren =>
          refine .cond inferInstance inferInstance (.cond inferInstance inferInstance
            (.cond inferInstance inferInstance (.andThen inferInstance fun x x' hx => ?_)))
          obtain ⟨first, elements⟩ := x
          obtain ⟨first', elements'⟩ := x'
          have hfirst : Like first first' := ⟨congrArg Prod.fst hx.eq⟩
          have helements : Like elements elements' := ⟨congrArg Prod.snd hx.eq⟩
          cases helements using Like.option_cases with
          | some rest rest' hrest => infer_instance
          | none =>
              dsimp -zeta only
              extract_lets single single'
              have hsingle : Like single single' := by
                unfold single single'
                have hrole : Like first.role first'.role := inferInstance
                generalize first.role = role, first'.role = role' at hrole
                cases hrole using Like.role_cases <;> exact ⟨rfl⟩
              clear_value single single'
              infer_instance
      | bracket => infer_instance
      | brace => infer_instance
  | _ => infer_instance

instance (b c : Bool) : Alike k m (pathType g b c) (pathType g' b c) := by
  unfold pathType
  infer_instance

instance (b : Bool) : Alike k m (typeContent g b) (typeContent g' b) := by
  unfold typeContent
  infer_instance

instance (b : Bool) : Alike k m (typeProduction g b) (typeProduction g' b) := by
  unfold typeProduction
  infer_instance

instance (stop stop' : List Token → Bool)
    [∀ x : Twin (List Token), Like (stop x.one) (stop' x.two)] :
    Alike k m (lifetimeBounds stop) (lifetimeBounds stop') := by
  unfold lifetimeBounds
  infer_instance

instance : Alike k 0 (genericParameter g) (genericParameter g') := by
  unfold genericParameter
  infer_instance

instance : Alike k m (generics g) (generics g') := by
  unfold generics
  infer_instance

instance : Alike k 0 (predicate g) (predicate g') := by
  unfold predicate
  infer_instance

instance : Alike k 0 (whereClause g) (whereClause g') := by
  unfold whereClause
  infer_instance

/-! ### Patterns -/

instance : Alike k 0 (alternatives g) (alternatives g') := by
  unfold alternatives
  infer_instance

instance (b : Bool) : Alike k m (rangeLimits b) (rangeLimits b) := by
  unfold rangeLimits
  infer_instance

instance : Alike k m (constBlock g) (constBlock g') := by
  unfold constBlock
  infer_instance

instance : Alike k m (rangeBound g) (rangeBound g') := by
  unfold rangeBound
  infer_instance

instance (start start' : List Node) [Like start start'] :
    Alike k m (rangePattern g start) (rangePattern g' start') := by
  unfold rangePattern
  refine .andThen inferInstance fun closed closed' hclosed => ?_
  obtain rfl := hclosed.rigid
  refine .andThen inferInstance fun bound bound' hbound => ?_
  cases hbound using Like.option_cases <;> infer_instance

instance : Alike k m (rangeToPattern g) (rangeToPattern g') := by
  unfold rangeToPattern
  refine .andThen inferInstance fun closed closed' hclosed => ?_
  obtain rfl := hclosed.rigid
  refine .andThen inferInstance fun bound bound' hbound => ?_
  cases hbound using Like.option_cases <;> infer_instance

instance : Alike k m (fieldPattern g) (fieldPattern g') := by
  unfold fieldPattern
  infer_instance

instance (n n' : Nat) [hn : Like n n'] : Alike k m (structPattern g n) (structPattern g' n') := by
  obtain rfl := hn.rigid
  clear hn
  induction n generalizing m with
  | zero =>
      unfold structPattern
      infer_instance
  | succ n ih =>
      unfold structPattern
      infer_instance

instance : Alike k m (pathPattern g) (pathPattern g') := by
  unfold pathPattern
  infer_instance

instance : Alike k 0 (slicePattern g) (slicePattern g') := by
  unfold slicePattern
  refine @Alike.commaList _ _ _ _ _ _ (.bind inferInstance fun element => ?_)
    (.andThen inferInstance fun element element' helement => ?_)
  · split <;> infer_instance
  · have hrole : Like element.role element'.role := inferInstance
    generalize element.role = role, element'.role = role' at hrole
    cases hrole using Like.role_cases with
    | same role => split <;> infer_instance
    | attr => infer_instance
    | call => infer_instance

instance : Alike k m (bindingPattern g) (bindingPattern g') := by
  unfold bindingPattern
  infer_instance

instance : Alike k m (patternContent g) (patternContent g') := by
  unfold patternContent
  refine .ahead fun ts us h => .cond inferInstance inferInstance (.cond inferInstance inferInstance
    (.cond inferInstance inferInstance (.cond inferInstance ?_ inferInstance)))
  refine .andThen inferInstance fun bound bound' hbound => ?_
  cases hbound using Like.option_cases <;> infer_instance

instance : Alike k m (patternProduction g) (patternProduction g') := by
  unfold patternProduction
  infer_instance

/-! ### Expressions -/

instance (b : Bool) (l : Level) (operand operand' : Node) [h : Like operand operand']
    (n n' : Nat) [hn : Like n n'] :
    Alike k 0 (rightClimb g b l operand n) (rightClimb g' b l operand' n') := by
  obtain rfl := hn.rigid
  clear hn
  induction n generalizing operand operand' with
  | zero =>
      unfold rightClimb
      infer_instance
  | succ n ih =>
      unfold rightClimb
      refine .ahead fun ts us hts => ?_
      have hnext : nextLevel ts = nextLevel us := Like.rigid inferInstance
      rw [hnext]
      infer_instance

instance (b : Bool) (l : Level) : Alike k 0 (rightOperand g b l) (rightOperand g' b l) := by
  unfold rightOperand
  infer_instance

instance (b c : Bool) : Alike k 0 (rangeEnd g b c) (rangeEnd g' b c) := by
  unfold rangeEnd
  infer_instance

instance (ts ts' : List Token) [Like ts ts'] :
    Alike k m (refuseTrailer ts) (refuseTrailer ts') := by
  unfold refuseTrailer
  infer_instance

instance (b : Bool) (l : Level) (left left' : Node) [hleft : Like left left'] :
    Alike k m (climbStep g b l left) (climbStep g' b l left') := by
  unfold climbStep
  refine .andThen inferInstance fun before before' hbefore => .ahead fun ts us h => ?_
  extract_lets grow grow'
  have hgrow (m : Fin 3) (role : Role) (more more' : List Node) [Like more more'] :
      Alike k m (grow role more) (grow' role more') := by
    unfold grow grow'
    refine .since hbefore fun ts us h => ?_
    have hchildren : Like (left :: more) (left' :: more') := inferInstance
    have : Like (Node.mk role (left.tokens ++ ts) (left :: more))
        (.mk role (left'.tokens ++ us) (left' :: more')) := by
      constructor
      rw [bare_node, bare_node, List.map_append, List.map_append, bare_tokens, bare_tokens,
        hleft.eq, h, hchildren.eq]
    infer_instance
  clear_value grow grow'
  refine .cond inferInstance inferInstance ?_
  have hoperator : binaryOperator? ts = binaryOperator? us := Like.rigid inferInstance
  rw [hoperator]
  cases hop : binaryOperator? us with
  | none => infer_instance
  | some o =>
      obtain ⟨op, level⟩ := o
      have : Operator op := operator_of_mem_binaryOperators (List.mem_of_find?_eq_some hop)
      infer_instance

instance (b : Bool) (l : Level) (n n' : Nat) [hn : Like n n'] (left left' : Node)
    [h : Like left left'] : Alike k m (climbLoop g b l n left) (climbLoop g' b l n' left') := by
  obtain rfl := hn.rigid
  clear hn
  induction n generalizing left left' m with
  | zero =>
      unfold climbLoop
      infer_instance
  | succ n ih =>
      unfold climbLoop
      refine .andThen inferInstance fun grown grown' hgrown => ?_
      cases hgrown using Like.option_cases <;> infer_instance

instance (left left' : Node) [Like left left'] (b : Bool) (l : Level) :
    Alike k m (climbProduction g left b l) (climbProduction g' left' b l) := by
  unfold climbProduction
  infer_instance

instance : Alike k m (blockParts g) (blockParts g') := by
  unfold blockParts
  infer_instance

instance : Alike k m (plainBlock g) (plainBlock g') := by
  unfold plainBlock
  infer_instance

instance (n n' : Nat) [hn : Like n n'] : Alike k m (ifParts g n) (ifParts g' n') := by
  obtain rfl := hn.rigid
  clear hn
  induction n generalizing m with
  | zero =>
      unfold ifParts
      infer_instance
  | succ n ih =>
      unfold ifParts
      infer_instance

instance : Alike k m (forParts g) (forParts g') := by
  unfold forParts
  infer_instance

instance : Alike k m (whileParts g) (whileParts g') := by
  unfold whileParts
  infer_instance

instance : Alike k m (loopParts g) (loopParts g') := by
  unfold loopParts
  infer_instance

instance : Alike k 0 (arm g) (arm g') := by
  unfold arm
  infer_instance

instance : Alike k m (matchParts g) (matchParts g') := by
  unfold matchParts
  infer_instance

instance : Alike k m (labeled g) (labeled g') := by
  unfold labeled
  infer_instance

instance : Alike k 0 (closureParameter g) (closureParameter g') := by
  unfold closureParameter
  infer_instance

instance (b : Bool) : Alike k m (closure g b) (closure g' b) := by
  unfold closure
  infer_instance

instance : Alike k m (fieldValue g) (fieldValue g') := by
  unfold fieldValue
  refine .andThen inferInstance fun before before' hbefore => .andThen inferInstance
    fun attributes attributes' hattributes => .andThen inferInstance fun start start' hstart =>
    .andThen inferInstance fun named named' hnamed => .ahead fun ts us h => ?_
  obtain rfl := hnamed.rigid
  refine .cond inferInstance inferInstance (.since hstart fun ts us hread => ?_)
  extract_lets segments segments'
  have hsegments : segments = segments' := by
    unfold segments segments'
    match ts, us, hread with
    | [], [], _ => rfl
    | t :: _, u :: _, hread =>
        have hread := (List.cons.inj hread).1
        cases t <;> cases u <;> simp_all [Token.bare]
  clear_value segments segments'
  subst hsegments
  infer_instance

instance (n n' : Nat) [hn : Like n n'] : Alike k 0 (recordFields g n) (recordFields g' n') := by
  obtain rfl := hn.rigid
  clear hn
  induction n with
  | zero =>
      unfold recordFields
      infer_instance
  | succ n ih =>
      unfold recordFields
      infer_instance

instance (b : Bool) : Alike k m (pathExpr g b) (pathExpr g' b) := by
  unfold pathExpr
  infer_instance

instance : Alike k m (arrayParts g) (arrayParts g') := by
  unfold arrayParts
  infer_instance

instance (b : Bool) : Alike k m (breakParts g b) (breakParts g' b) := by
  unfold breakParts
  infer_instance

instance (w : String) : Alike k m (valueAfter g w) (valueAfter g' w) := by
  unfold valueAfter
  infer_instance

instance (b : Bool) : Alike k m (atom g b) (atom g' b) := by
  unfold atom
  infer_instance

instance (text : String) (p p' : Position) : Alike k m (indexesOf text p) (indexesOf text p') := by
  unfold indexesOf
  infer_instance

instance : Alike k m (memberParts g) (memberParts g') := by
  unfold memberParts
  extract_lets finish finish'
  have hfinish : Alike k m finish finish' := by
    unfold finish finish'
    infer_instance
  clear_value finish finish'
  refine .ahead fun ts us h => ?_
  cases h using Like.tokens_cases with
  | punct c joint joint' span span' ts us hts h =>
      by_cases hc : c = '-'
      · subst hc
        cases hts using Like.tokens_cases with
        | literal text =>
            exact inferInstanceAs (Alike k m
              (if (isNumberText text && isFloatText text) = true then refuseAt span.start _
                else finish)
              (if (isNumberText text && isFloatText text) = true then refuseAt span'.start _
                else finish'))
        | _ => exact hfinish
      · split
        · next heq => cases heq
        · next heq =>
            cases heq
            exact absurd rfl hc
        · split
          · next heq => cases heq
          · next heq =>
              cases heq
              exact absurd rfl hc
          · infer_instance
  | _ => infer_instance

instance (before before' : Stream) [Like before before']
    (operand operand' : Node) [Like operand operand'] :
    Alike k m (trailer g before operand) (trailer g' before' operand') := by
  unfold trailer
  infer_instance

instance (before before' : Stream) [Like before before'] (n n' : Nat) [hn : Like n n']
    (operand operand' : Node) [h : Like operand operand'] :
    Alike k m (trailers g before n operand) (trailers g' before' n' operand') := by
  obtain rfl := hn.rigid
  clear hn
  induction n generalizing operand operand' with
  | zero =>
      unfold trailers
      infer_instance
  | succ n ih =>
      unfold trailers
      refine .andThen inferInstance fun grown grown' hgrown => ?_
      cases hgrown using Like.option_cases <;> infer_instance

instance (before before' : Stream) [Like before before'] (attributes attributes' : List Node)
    [Like attributes attributes'] (n n' : Node) [Like n n'] :
    Alike k m (withAttributes before attributes n) (withAttributes before' attributes' n') := by
  unfold withAttributes
  infer_instance

instance (b : Bool) : Alike k m (reference g b) (reference g' b) := by
  unfold reference
  infer_instance

instance (b : Bool) : Alike k m (unaryProduction g b) (unaryProduction g' b) := by
  unfold unaryProduction
  refine .andThen inferInstance fun before before' hbefore => .andThen inferInstance
    fun attributes attributes' hattributes => .aheadFrom fun s s' hs => ?_
  refine .cond inferInstance (fun _ => .of hs inferInstance)
    (.cond inferInstance (fun h => .skip hs Nat.one_pos (Ensures.room h) inferInstance)
      (.of hs inferInstance))

instance (b : Bool) : Alike k m (exprProduction g b) (exprProduction g' b) := by
  unfold exprProduction
  infer_instance

instance : Alike k m (statementExprProduction g) (statementExprProduction g') := by
  unfold statementExprProduction
  infer_instance

/-! ### Statements and declarations -/

instance : Alike k m (letParts g) (letParts g') := by
  unfold letParts
  infer_instance

instance : Alike k m macroStart macroStart := by
  unfold macroStart
  refine .andThen inferInstance fun found found' hfound => ?_
  cases hfound using Like.except_cases with
  | ok a b hab => infer_instance
  | error a b => infer_instance

instance : Alike k m macroStatement macroStatement := by
  unfold macroStatement
  infer_instance

section Statements

variable (itemAfter itemAfter' : Stream → List Node → Parser Node)
  [∀ s a, Forward (itemAfter s a)]
  (hitem : ∀ s s' a a', Like s s' → Like a a' → Alike k 1 (itemAfter s a) (itemAfter' s' a'))

include hitem

theorem alike_statement : Alike k 1 (statement g itemAfter) (statement g' itemAfter') := by
  unfold statement
  refine .andThen inferInstance fun before before' hbefore => .andThen inferInstance
    fun attributes attributes' hattributes => .andThen inferInstance fun start start' hstart =>
    .ahead fun ts us h => ?_
  obtain rfl := hstart.rigid
  have hitem := hitem before before' attributes attributes' hbefore hattributes
  cases start with
  | statement => infer_instance
  | _ =>
      refine .cond inferInstance inferInstance (.cond inferInstance inferInstance
        (.andThen inferInstance fun value value' hvalue => .andThen inferInstance
        fun ended ended' hended => ?_))
      extract_lets needsEnd needsEnd'
      have : Like needsEnd needsEnd' := by
        unfold needsEnd needsEnd'
        have hblock : isBlockLike value = isBlockLike value' := Like.rigid inferInstance
        rw [hblock]
        have hrole : Like value.role value'.role := inferInstance
        generalize value.role = role, value'.role = role' at hrole
        cases hrole using Like.role_cases with
        | same role => infer_instance
        | attr => infer_instance
        | call c c' hc =>
            infer_instance
      infer_instance

theorem alike_statementsLoop (n n' : Nat) [hn : Like n n'] :
    Alike k 1 (statementsLoop g itemAfter n) (statementsLoop g' itemAfter' n') := by
  obtain rfl := hn.rigid
  clear hn
  induction n with
  | zero =>
      unfold statementsLoop
      infer_instance
  | succ n ih =>
      have hstatement : Alike k 1 (statement g itemAfter) (statement g' itemAfter') :=
        alike_statement _ _ _ _ hitem
      have := ih.mono
      unfold statementsLoop
      infer_instance

end Statements

instance : Alike k m (namedField g) (namedField g') := by
  unfold namedField
  infer_instance

instance : Alike k m (namedFieldsProduction g) (namedFieldsProduction g') := by
  unfold namedFieldsProduction
  infer_instance

instance : Alike k 0 (positionalField g) (positionalField g') := by
  unfold positionalField
  infer_instance

instance : Alike k m (positionalFields g) (positionalFields g') := by
  unfold positionalFields
  infer_instance

instance : Alike k m (receiver g) (receiver g') := by
  unfold receiver
  infer_instance

instance (count : Nat) (b : Bool) (n n' : Nat) [hn : Like n n'] :
    Alike k 0 (parameters g count b n) (parameters g' count b n') := by
  obtain rfl := hn.rigid
  clear hn
  induction n generalizing count b with
  | zero =>
      unfold parameters
      infer_instance
  | succ n ih =>
      unfold parameters
      refine .andThen inferInstance fun _ _ _ => .cond inferInstance inferInstance
        (.andThen inferInstance fun attributes attributes' hattributes => ?_)
      extract_lets comma last comma' last'
      have hcomma (b : Bool) (parts parts' : List Node) [Like parts parts'] :
          Alike k 0 (comma parts b) (comma' parts' b) := by
        unfold comma comma'
        infer_instance
      have hlast (parts parts' : List Node) [Like parts parts'] :
          Alike k 0 (last parts) (last' parts') := by
        unfold last last'
        infer_instance
      clear_value comma comma' last last'
      refine .andThen inferInstance fun _ _ _ => .cond inferInstance inferInstance
        (.andThen inferInstance fun found found' hfound => ?_)
      cases hfound using Like.option_cases <;> infer_instance

instance (b : Bool) : Alike k m (signature g b) (signature g' b) := by
  unfold signature
  infer_instance

instance : Alike k m (functionBody g) (functionBody g') := by
  unfold functionBody
  infer_instance

instance : Alike k m aliasName aliasName := by
  unfold aliasName
  infer_instance

instance (b : Bool) (n n' : Nat) [hn : Like n n'] :
    Alike k 0 (useGroup g b n) (useGroup g' b n') := by
  obtain rfl := hn.rigid
  clear hn
  induction n with
  | zero =>
      unfold useGroup
      infer_instance
  | succ n ih =>
      unfold useGroup
      refine .andThen inferInstance fun _ _ _ => .cond inferInstance inferInstance ?_
      extract_lets jp jp'
      have hjp (rooted : Bool) : Alike k 0 (jp rooted) (jp' rooted) := by
        unfold jp jp'
        refine .andThen inferInstance fun tree tree' htree => .andThen inferInstance
          fun _ _ _ => ?_
        obtain rfl := htree.rigid
        extract_lets jp
        have hjp (rest : Option (List UseTree)) : Alike k 0 (jp rest) (jp rest) := by
          unfold jp
          split <;> infer_instance
        clear_value jp
        infer_instance
      clear_value jp jp'
      infer_instance

instance (b : Bool) : Alike k m (useTreeProduction g b) (useTreeProduction g' b) := by
  unfold useTreeProduction
  infer_instance

instance (b : Bool) : Alike k m (useItem g b) (useItem g' b) := by
  unfold useItem
  infer_instance

instance : Alike k m (constantTail g) (constantTail g') := by
  unfold constantTail
  infer_instance

instance (b : Bool) (c : ClausePlace) : Alike k m (aliasSyntax g b c) (aliasSyntax g' b c) := by
  unfold aliasSyntax
  refine .andThen inferInstance fun visible visible' hvisible => ?_
  extract_lets stop jp jp'
  have hstop (x : Twin (List Token)) : Like (stop x.one) (stop x.two) := by
    unfold stop
    infer_instance
  have hjp (m : Fin 3) : Alike k m (jp ()) (jp' ()) := by
    unfold jp jp'
    clear_value stop
    infer_instance
  clear_value jp jp'
  infer_instance

instance (b : Bool) : Alike k m (macroItem b) (macroItem b) := by
  unfold macroItem
  infer_instance

instance : Alike k m afterVisibility afterVisibility := by
  unfold afterVisibility
  refine .andThen inferInstance fun found found' hfound => ?_
  cases hfound using Like.except_cases with
  | ok a b hab => infer_instance
  | error a b => infer_instance

instance : Alike k m (foreignItem g) (foreignItem g') := by
  unfold foreignItem
  infer_instance

instance : Alike k m (traitFunction g) (traitFunction g') := by
  unfold traitFunction
  infer_instance

instance : Alike k m (traitItem g) (traitItem g') := by
  unfold traitItem
  infer_instance

instance : Alike k m (implItem g) (implItem g') := by
  unfold implItem
  refine .andThen inferInstance fun attributes attributes' hattributes => .andThen inferInstance
    fun found found' hfound => ?_
  obtain ⟨visible, ts⟩ := found
  obtain ⟨visible', us⟩ := found'
  obtain rfl : visible = visible' := congrArg Prod.fst hfound.eq
  have hts : Like ts us := ⟨congrArg Prod.snd hfound.eq⟩
  clear hfound
  dsimp -zeta only
  extract_lets default ts modifiers default' us modifiers'
  have hdefault : Like default default' := by
    unfold default default'
    infer_instance
  have hts : Like ts us := by
    unfold ts us
    infer_instance
  have hmodifiers (m : Fin 3) : Alike k m modifiers modifiers' := by
    unfold modifiers modifiers'
    infer_instance
  have : Forward modifiers := by
    unfold modifiers
    infer_instance
  clear_value default default' ts us modifiers modifiers'
  refine .cond inferInstance inferInstance (.cond inferInstance ?_ (.cond inferInstance ?_
    inferInstance))
  · refine .andThen inferInstance fun _ _ _ => .andThen inferInstance fun _ _ _ =>
      .andThen inferInstance fun found found' hfound => ?_
    obtain ⟨t, value, parametric⟩ := found
    obtain ⟨t', value', parametric'⟩ := found'
    have : Like t t' := ⟨congrArg Prod.fst hfound.eq⟩
    have hvalue : Like value value' := ⟨congrArg (·.2.1) hfound.eq⟩
    obtain rfl : parametric = parametric' := congrArg (·.2.2) hfound.eq
    clear hfound
    cases hvalue using Like.option_cases <;> cases parametric <;> infer_instance
  · refine .andThen inferInstance fun a a' ha => ?_
    have hdefinition : Like a.definition a'.definition := inferInstance
    have hbounded : a.bounded = a'.bounded := Like.rigid inferInstance
    rw [hbounded]
    generalize a.definition = d, a'.definition = d', a'.bounded = bounded at hdefinition
    cases hdefinition using Like.option_cases <;> cases bounded <;> infer_instance

instance : Alike k m (functionItem g) (functionItem g') := by
  unfold functionItem
  infer_instance

instance : Alike k m externCrate externCrate := by
  unfold externCrate
  infer_instance

instance : Alike k m (foreignBlock g) (foreignBlock g') := by
  unfold foreignBlock
  infer_instance

instance : Alike k m (staticItem g) (staticItem g') := by
  unfold staticItem
  infer_instance

instance : Alike k m (constItem g) (constItem g') := by
  unfold constItem
  refine .andThen inferInstance fun _ _ _ => .andThen inferInstance fun _ _ _ =>
    .andThen inferInstance fun found found' hfound => ?_
  obtain ⟨t, value, parametric⟩ := found
  obtain ⟨t', value', parametric'⟩ := found'
  have : Like t t' := ⟨congrArg Prod.fst hfound.eq⟩
  have hvalue : Like value value' := ⟨congrArg (·.2.1) hfound.eq⟩
  obtain rfl : parametric = parametric' := congrArg (·.2.2) hfound.eq
  clear hfound
  cases hvalue using Like.option_cases <;> cases parametric <;> infer_instance

instance : Alike k m (modItem g) (modItem g') := by
  unfold modItem
  infer_instance

instance : Alike k m (aliasItem g) (aliasItem g') := by
  unfold aliasItem
  refine .andThen inferInstance fun a a' ha => ?_
  have hdefinition : Like a.definition a'.definition := inferInstance
  have hbounded : a.bounded = a'.bounded := Like.rigid inferInstance
  have hname : a.name = a'.name := Like.rigid inferInstance
  rw [hbounded, hname]
  generalize a.definition = d, a'.definition = d', a'.bounded = bounded at hdefinition
  cases hdefinition using Like.option_cases <;> cases bounded <;> infer_instance

instance : Alike k m (structItem g) (structItem g') := by
  unfold structItem
  infer_instance

instance : Alike k m (variant g) (variant g') := by
  unfold variant
  infer_instance

instance : Alike k m (enumItem g) (enumItem g') := by
  unfold enumItem
  infer_instance

instance : Alike k m (unionItem g) (unionItem g') := by
  unfold unionItem
  infer_instance

instance (gs gs' : Generics) [Like gs gs'] : Alike k 0 (traitTail g gs) (traitTail g' gs') := by
  unfold traitTail
  infer_instance

instance : Alike k m (traitOnly g) (traitOnly g') := by
  unfold traitOnly
  infer_instance

instance : Alike k m (traitOrAlias g) (traitOrAlias g') := by
  unfold traitOrAlias
  infer_instance

instance : Alike k m (implDecl g) (implDecl g') := by
  unfold implDecl
  refine .andThen inferInstance fun visible visible' hvisible => .andThen inferInstance fun _ _ _ =>
    .andThen inferInstance fun _ _ _ => .andThen inferInstance fun _ _ _ => .ahead fun ts us h => ?_
  obtain rfl := hvisible.rigid
  extract_lets jp jp'
  have hjp (gs gs' : Generics) [Like gs gs'] : Alike k 0 (jp gs) (jp' gs') := by
    unfold jp jp'
    refine .ahead fun ts us h => ?_
    extract_lets isConst jp isConst' jp'
    have hconst : isConst = isConst' := by
      unfold isConst isConst'
      exact Like.rigid inferInstance
    have hjp : Alike k 0 (jp ()) (jp' ()) := by
      unfold jp jp'
      clear_value isConst isConst'
      subst hconst
      refine .andThen inferInstance fun before before' hbefore => .ahead fun ts us h => ?_
      extract_lets negative jp negative' jp'
      have hnegative : negative = negative' := by
        unfold negative negative'
        exact Like.rigid inferInstance
      have hjp : Alike k 0 (jp ()) (jp' ()) := by
        unfold jp jp'
        clear_value negative negative'
        subst hnegative
        refine .andThen inferInstance fun first first' hfirst => .andThen inferInstance
          fun isFor isFor' hfor => ?_
        obtain rfl := hfor.rigid
        extract_lets isTrait finish jp isTrait' finish' jp'
        have htrait : isTrait = isTrait' := by
          unfold isTrait isTrait'
          have hrole : Like first.role first'.role := inferInstance
          generalize first.role = role, first'.role = role' at hrole
          cases hrole using Like.role_cases <;> rfl
        have hfinish (self self' : List Node) [Like self self'] :
            Alike k 0 (finish self) (finish' self') := by
          unfold finish finish'
          clear_value isTrait isTrait'
          subst htrait
          infer_instance
        have hjp : Alike k 0 (jp ()) (jp' ()) := by
          unfold jp jp'
          clear_value finish finish'
          infer_instance
        clear_value jp jp'
        infer_instance
      clear_value jp jp' negative negative'
      subst hnegative
      infer_instance
    clear_value jp jp' isConst isConst'
    subst hconst
    infer_instance
  clear_value jp jp'
  infer_instance

instance : Alike k m macroKeyword macroKeyword := by
  unfold macroKeyword
  infer_instance

instance : Alike k m (declared g) (declared g') := by
  unfold declared
  refine .andThen inferInstance fun found found' hfound => ?_
  obtain ⟨visible, ts⟩ := found
  obtain ⟨visible', us⟩ := found'
  obtain rfl : visible = visible' := congrArg Prod.fst hfound.eq
  have hts : Like ts us := ⟨congrArg Prod.snd hfound.eq⟩
  clear hfound
  have huse : Alike k m
      (useItem g true >>= fun
        | some tree => pure (Role.useDecl tree, ([] : List Node))
        | none => pure (Role.otherDecl, []))
      (useItem g' true >>= fun
        | some tree => pure (Role.useDecl tree, [])
        | none => pure (Role.otherDecl, [])) := by
    refine .andThen inferInstance fun tree tree' htree => ?_
    obtain rfl := htree.rigid
    cases tree <;> infer_instance
  dsimp only
  refine .cond inferInstance inferInstance (.cond inferInstance inferInstance (.cond inferInstance
    huse inferInstance))

instance (before before' : Stream) [Like before before'] (attributes attributes' : List Node)
    [Like attributes attributes'] :
    Alike k m (itemAfter g before attributes) (itemAfter g' before' attributes') := by
  unfold itemAfter
  refine .andThen inferInstance fun x x' hx => ?_
  obtain ⟨role, parts⟩ := x
  obtain ⟨role', parts'⟩ := x'
  have hrole : Like role role' := ⟨congrArg Prod.fst hx.eq⟩
  have hparts : Like parts parts' := ⟨congrArg Prod.snd hx.eq⟩
  clear hx
  cases hrole using Like.role_cases with
  | same role => cases role <;> infer_instance
  | attr => infer_instance
  | call c c' hc => infer_instance

instance : Alike k m (itemProduction g) (itemProduction g') := by
  unfold itemProduction
  infer_instance

instance : Alike k 1 (statementsProduction g) (statementsProduction g') := by
  unfold statementsProduction
  refine .ahead fun ts us h => alike_statementsLoop _ _ _ _ ?_ _ _
  intro before before' attributes attributes' hbefore hattributes
  infer_instance

end Productions

/-! ### All depths -/

/-- A production that is alike with more margin is alike at the next depth. -/
theorem Alike.deepen {α : Type} [Bare α] {k : Nat} (p q : Parser α) [h : Alike k 2 p q] :
    Alike (k + 1) 1 p q where
  run hs hk := h.run hs hk

/-- Grammars that are deep enough agree. -/
theorem isAlike_ofDepth (k : Nat) {K N : Nat} (hK : k ≤ K) (hN : k ≤ N) :
    IsAlike k (ofDepth K) (ofDepth N) := by
  induction k generalizing K N with
  | zero =>
      -- No stream is short enough for this depth.
      constructor <;> intros <;> constructor <;> intros <;> exact absurd ‹_ ≤ 0 + _› (by simp)
  | succ k ih =>
      obtain ⟨K, rfl⟩ : ∃ n, K = n + 1 := ⟨K - 1, by omega⟩
      obtain ⟨N, rfl⟩ : ∃ n, N = n + 1 := ⟨N - 1, by omega⟩
      have := ih (Nat.le_of_succ_le_succ hK) (Nat.le_of_succ_le_succ hN)
      exact
        { expr := fun b => Alike.deepen (exprProduction _ b) (exprProduction _ b)
          unary := fun b => Alike.deepen (unaryProduction _ b) (unaryProduction _ b)
          climb := fun n n' b l h => Alike.deepen (climbProduction _ n b l) (climbProduction _ n' b l)
          statementExpr := Alike.deepen (statementExprProduction _) (statementExprProduction _)
          type := fun b => Alike.deepen (typeProduction _ b) (typeProduction _ b)
          bound := Alike.deepen (boundProduction _) (boundProduction _)
          pattern := Alike.deepen (patternProduction _) (patternProduction _)
          statements := ⟨(inferInstance : Alike k 1 (statementsProduction (ofDepth K))
            (statementsProduction (ofDepth N))).run⟩
          item := Alike.deepen (itemProduction _) (itemProduction _)
          useTree := fun b => Alike.deepen (useTreeProduction _ b) (useTreeProduction _ b)
          namedFields := Alike.deepen (namedFieldsProduction _) (namedFieldsProduction _) }

end Overlay.Source.Grammar
