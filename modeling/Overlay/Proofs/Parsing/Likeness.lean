import Mathlib.Data.List.Find
import Overlay.Proofs.Parsing.BareTokens

/-!
# Likeness

Two values that parsers return are alike if they are the same without the places of tokens. What
the grammar asks of such values, it finds the same in both.
-/

set_option synthInstance.maxSize 100000
set_option synthInstance.maxHeartbeats 200000

namespace Overlay.Source

open Token

/-! ## Values without places -/

/-- Values that can be seen without places. -/
class Bare (α : Type) where
  bare : α → α

export Bare (bare)

instance : Bare Unit := ⟨id⟩
instance : Bare Bool := ⟨id⟩
instance : Bare Nat := ⟨id⟩
instance : Bare String := ⟨id⟩
instance : Bare Delimiter := ⟨id⟩
instance : Bare TypeForm := ⟨id⟩
instance : Bare UseTree := ⟨id⟩
instance : Bare Grammar.BoundKind := ⟨id⟩
instance : Bare Grammar.MacroStart := ⟨id⟩
instance : Bare Position := ⟨fun _ => .start⟩
instance : Bare Span := ⟨fun _ => nowhere⟩
instance : Bare Fault := ⟨fun _ => ⟨.unreadable, .start⟩⟩

section Structures

variable {α β : Type} [Bare α] [Bare β]

instance : Bare (α × β) := ⟨Prod.map bare bare⟩
instance : Bare (Option α) := ⟨Option.map bare⟩
instance : Bare (List α) := ⟨List.map bare⟩

instance : Bare (ForInStep α) where
  bare
    | .done a => .done (bare a)
    | .yield a => .yield (bare a)

instance : Bare (Except α β) where
  bare
    | .ok b => .ok (bare b)
    | .error a => .error (bare a)

@[simp] theorem bare_pair (a : α) (b : β) : bare (a, b) = (bare a, bare b) := rfl

@[simp] theorem bare_some (a : α) : bare (some a) = some (bare a) := rfl

@[simp] theorem bare_none : bare (none : Option α) = none := rfl

theorem bare_option (x : Option α) : bare x = x.map bare := rfl

theorem bare_list (l : List α) : bare l = l.map bare := rfl

@[simp] theorem bare_ok (b : β) : bare (.ok b : Except α β) = .ok (bare b) := rfl

@[simp] theorem bare_error (a : α) : bare (.error a : Except α β) = .error (bare a) := rfl

end Structures

instance (priority := high) : Bare (List Token) := ⟨bareAll⟩

instance : Bare AttributeArguments where
  bare
    | .bare => .bare
    | .list closing body => .list (bare closing) (bare body)
    | .value => .value

instance : Bare MacroCall where
  bare call := { call with closing := bare call.closing, body := bare call.body }

instance : Bare Role where
  bare
    | .attribute inner rooted path arguments => .attribute inner rooted path (bare arguments)
    | .macroCall call => .macroCall (bare call)
    | role => role

namespace Node

mutual

/-- A node without places; its tokens are seen without the joints between them. -/
def withoutPlaces : Node → Node
  | mk role tokens children =>
    mk (Bare.bare role) (tokens.map (Token.bare false)) (allWithoutPlaces children)

/-- Nodes without places. -/
def allWithoutPlaces : List Node → List Node
  | [] => []
  | n :: rest => withoutPlaces n :: allWithoutPlaces rest

end

end Node

instance : Bare Node := ⟨Node.withoutPlaces⟩

theorem Node.allWithoutPlaces_eq (ns : List Node) : Node.allWithoutPlaces ns = bare ns := by
  induction ns with
  | nil => rfl
  | cons n ns ih =>
      rw [Node.allWithoutPlaces, ih]
      rfl

theorem bare_node (role : Role) (tokens : List Token) (children : List Node) :
    bare (Node.mk role tokens children) =
      .mk (bare role) (tokens.map (Token.bare false)) (bare children) := by
  rw [← Node.allWithoutPlaces_eq]
  rfl

instance : Bare Stream where
  bare s := ⟨bare s.rest, s.taken, bare s.ending, bare s.stray⟩

instance : Bare Grammar.PathSyntax where
  bare p := { p with parts := bare p.parts }

instance : Bare Grammar.Generics where
  bare gs := { gs with parts := bare gs.parts }

instance : Bare Grammar.AliasSyntax where
  bare a := { a with parts := bare a.parts, definition := bare a.definition }

/-! ## Values that are alike -/

/-- The values are the same without places. -/
class Like {α : Type} [Bare α] (a b : α) : Prop where
  eq : bare a = bare b

/-- Two values that are alike. -/
structure Twin (α : Type) [Bare α] where
  one : α
  two : α
  like : Like one two

instance {α : Type} [Bare α] (x : Twin α) : Like x.one x.two := x.like

/-- Values that have no places. -/
class Rigid (α : Type) [Bare α] : Prop where
  eq : ∀ {a b : α}, bare a = bare b → a = b

theorem Like.rigid {α : Type} [Bare α] [Rigid α] {a b : α} (h : Like a b) : a = b := Rigid.eq h.eq

instance : Rigid Unit := ⟨id⟩
instance : Rigid Bool := ⟨id⟩
instance : Rigid Nat := ⟨id⟩
instance : Rigid String := ⟨id⟩
instance : Rigid Delimiter := ⟨id⟩
instance : Rigid TypeForm := ⟨id⟩
instance : Rigid UseTree := ⟨id⟩
instance : Rigid Grammar.BoundKind := ⟨id⟩
instance : Rigid Grammar.MacroStart := ⟨id⟩

@[elab_as_elim]
theorem Like.option_cases {α : Type} [Bare α] {motive : ∀ x y : Option α, Like x y → Prop}
    (none : ∀ h, motive none none h) (some : ∀ a b (_ : Like a b) h, motive (some a) (some b) h)
    {x y : Option α} (hlike : Like x y) : motive x y hlike := by
  match x, y, hlike with
  | .none, .none, h => exact none h
  | .some a, .some b, h => exact some a b ⟨Option.some.inj h.eq⟩ h
  | .none, .some b, h => exact nomatch h.eq
  | .some a, .none, h => exact nomatch h.eq

@[elab_as_elim]
theorem Like.except_cases {α β : Type} [Bare α] [Bare β]
    {motive : ∀ x y : Except α β, Like x y → Prop}
    (ok : ∀ a b (_ : Like a b) h, motive (.ok a) (.ok b) h)
    (error : ∀ a b h, motive (.error a) (.error b) h)
    {x y : Except α β} (hlike : Like x y) : motive x y hlike := by
  match x, y, hlike with
  | .ok a, .ok b, h => exact ok a b ⟨Except.ok.inj h.eq⟩ h
  | .error a, .error b, h => exact error a b h
  | .ok a, .error b, h => exact nomatch h.eq
  | .error a, .ok b, h => exact nomatch h.eq

section Structures

variable {α β : Type} [Bare α] [Bare β]

instance [Rigid α] [Rigid β] : Rigid (α × β) where
  eq h := Prod.ext (Rigid.eq (congrArg Prod.fst h)) (Rigid.eq (congrArg Prod.snd h))

instance [Rigid α] : Rigid (Option α) where
  eq h := Option.map_injective (fun _ _ => Rigid.eq) h

instance [Rigid α] : Rigid (ForInStep α) where
  eq {x y} h := by
    cases x <;> cases y <;> simp only [bare, ForInStep.done.injEq, ForInStep.yield.injEq,
      reduceCtorEq] at h
    · rw [Rigid.eq h]
    · rw [Rigid.eq h]

instance [Rigid α] : Rigid (List α) where
  eq {l m} h := by
    induction l generalizing m with
    | nil => cases m <;> cases h; rfl
    | cons a l ih =>
        cases m with
        | nil => cases h
        | cons b m =>
            injection h with ha hl
            rw [Rigid.eq ha, ih hl]

instance (priority := low) (a : α) : Like a a := ⟨rfl⟩

instance (p p' : Position) : Like p p' := ⟨rfl⟩

instance (f f' : Fault) : Like f f' := ⟨rfl⟩

instance (a a' : α) (b b' : β) [Like a a'] [Like b b'] : Like (a, b) (a', b') where
  eq := by rw [bare_pair, bare_pair, Like.eq (a := a) (b := a'), Like.eq (a := b) (b := b')]

instance (x y : α × β) [h : Like x y] : Like x.1 y.1 := ⟨congrArg Prod.fst h.eq⟩

instance (x y : α × β) [h : Like x y] : Like x.2 y.2 := ⟨congrArg Prod.snd h.eq⟩

instance (a a' : α) [h : Like a a'] : Like (some a) (some a') := ⟨congrArg some h.eq⟩

instance (a a' : α) (l l' : List α) [ha : Like a a'] [hl : Like l l'] :
    Like (a :: l) (a' :: l') where
  eq := by
    show bare a :: bare l = bare a' :: bare l'
    rw [ha.eq, hl.eq]

instance (l l' m m' : List α) [hl : Like l l'] [hm : Like m m'] : Like (l ++ m) (l' ++ m') where
  eq := by
    simp only [bare_list, List.map_append]
    show bare l ++ bare m = bare l' ++ bare m'
    rw [hl.eq, hm.eq]

instance (l l' : List (List α)) [h : Like l l'] : Like l.flatten l'.flatten where
  eq := by
    simp only [bare_list, List.map_flatten]
    show (bare l).flatten = (bare l').flatten
    rw [h.eq]

instance (l l' : List α) [h : Like l l'] : Like l.length l'.length where
  eq := by
    have h := congrArg List.length h.eq
    rwa [bare_list, bare_list, List.length_map, List.length_map] at h

instance (l l' : List α) [h : Like l l'] : Like l.isEmpty l'.isEmpty where
  eq := by
    have h := congrArg List.isEmpty h.eq
    rwa [bare_list, bare_list, List.isEmpty_map, List.isEmpty_map] at h

section Map

variable {γ : Type} [Bare γ] (l l' : List α) [h : Like l l']

instance (f f' : α → γ) [hf : ∀ x : Twin α, Like (f x.one) (f' x.two)] :
    Like (l.map f) (l'.map f') := by
  induction l generalizing l' with
  | nil =>
      cases l' with
      | nil => exact ⟨rfl⟩
      | cons b l' => cases h.eq
  | cons a l ih =>
      cases l' with
      | nil => cases h.eq
      | cons b l' =>
          obtain ⟨hab, hl⟩ := List.cons.inj h.eq
          have hl : Like l l' := ⟨hl⟩
          have := ih l'
          have : Like (f a) (f' b) := hf ⟨a, b, ⟨hab⟩⟩
          exact inferInstanceAs (Like (f a :: l.map f) (f' b :: l'.map f'))

instance (f f' : α → List γ) [∀ x : Twin α, Like (f x.one) (f' x.two)] :
    Like (l.flatMap f) (l'.flatMap f') := by
  rw [List.flatMap_def, List.flatMap_def]
  infer_instance

instance (f f' : α → Bool) [∀ x : Twin α, Like (f x.one) (f' x.two)] :
    Like (l.all f) (l'.all f') := by
  have hmap : l.map f = l'.map f' := Like.rigid inferInstance
  have heq : l.all f = l'.all f' := by
    simpa only [List.all_map, Function.comp_def, id_eq] using congrArg (List.all · id) hmap
  exact ⟨heq⟩

omit h in
instance (l l' : List (Option α)) [h : Like l l'] : Like (l.filterMap id) (l'.filterMap id) where
  eq := by
    have h := congrArg (List.filterMap id) h.eq
    simpa only [bare_list, List.filterMap_map, List.map_filterMap, Function.comp_def, id_eq,
      bare_option] using h

instance : Like l.getLast? l'.getLast? where
  eq := by
    have h := congrArg List.getLast? h.eq
    rwa [bare_list, bare_list, List.getLast?_map, List.getLast?_map] at h

omit h in
instance (x x' : Option α) [h : Like x x'] (f f' : α → γ)
    [hf : ∀ x : Twin α, Like (f x.one) (f' x.two)] : Like (x.map f) (x'.map f') := by
  cases h using Like.option_cases with
  | none => exact ⟨rfl⟩
  | some a b hab _ =>
      have : Like (f a) (f' b) := hf ⟨a, b, hab⟩
      exact inferInstanceAs (Like (some (f a)) (some (f' b)))

omit h in
instance (x x' : Option α) [h : Like x x'] : Like x.isSome x'.isSome := by
  cases h using Like.option_cases <;> exact ⟨rfl⟩

omit h in
instance (x x' : Option α) [h : Like x x'] : Like x.toList x'.toList := by
  cases h using Like.option_cases with
  | none => exact ⟨rfl⟩
  | some a b hab _ => exact inferInstanceAs (Like [a] [b])

omit h in
instance (x x' : Option α) [h : Like x x'] (a a' : α) [Like a a'] :
    Like (x.getD a) (x'.getD a') := by
  cases h using Like.option_cases with
  | none => assumption
  | some a b hab _ => exact hab

end Map

instance (c c' : Bool) (a a' b b' : α) [hc : Like c c'] [ha : Like a a'] [hb : Like b b'] :
    Like (if c = true then a else b) (if c' = true then a' else b') := by
  obtain rfl := hc.rigid
  split
  · exact ha
  · exact hb

end Structures

/-! ## Tokens that are alike -/

/-- Tokens that are alike have the same kinds of tokens first. -/
@[elab_as_elim]
theorem Like.tokens_cases {motive : ∀ ts us : List Token, Like ts us → Prop}
    (nil : ∀ h, motive [] [] h)
    (ident : ∀ text span span' ts us (_ : Like ts us) h,
      motive (.ident text span :: ts) (.ident text span' :: us) h)
    (punct : ∀ c joint joint' span span' ts us (_ : Like ts us) h,
      motive (.punct c joint span :: ts) (.punct c joint' span' :: us) h)
    (lifetime : ∀ text span span' ts us (_ : Like ts us) h,
      motive (.lifetime text span :: ts) (.lifetime text span' :: us) h)
    (literal : ∀ text span span' ts us (_ : Like ts us) h,
      motive (.literal text span :: ts) (.literal text span' :: us) h)
    (group : ∀ d o o' c c' body body' ts us (_ : Like body body') (_ : Like ts us) h,
      motive (.group d o c body :: ts) (.group d o' c' body' :: us) h)
    {ts us : List Token} (hlike : Like ts us) : motive ts us hlike := by
  have h : bareAll ts = bareAll us := hlike.eq
  match ts, us with
  | [], [] => exact nil _
  | [], _ :: _ => simp [bareAll] at h
  | _ :: _, [] => simp [bareAll] at h
  | t :: ts, u :: us =>
      simp only [bareAll, List.cons.injEq] at h
      have hrest : Like ts us := ⟨h.2⟩
      cases t <;> cases u <;> simp only [Token.bare, reduceCtorEq, false_and] at h
      case ident.ident =>
          obtain ⟨⟨rfl, -⟩, -⟩ := by simpa only [Token.ident.injEq] using h
          exact ident _ _ _ _ _ hrest _
      case punct.punct =>
          obtain ⟨⟨rfl, -⟩, -⟩ := by simpa only [Token.punct.injEq] using h
          exact punct _ _ _ _ _ _ _ hrest _
      case lifetime.lifetime =>
          obtain ⟨⟨rfl, -⟩, -⟩ := by simpa only [Token.lifetime.injEq] using h
          exact lifetime _ _ _ _ _ hrest _
      case literal.literal =>
          obtain ⟨⟨rfl, -⟩, -⟩ := by simpa only [Token.literal.injEq] using h
          exact literal _ _ _ _ _ hrest _
      case group.group =>
          obtain ⟨⟨rfl, -, -, hbody⟩, -⟩ := by simpa only [Token.group.injEq] using h
          exact group _ _ _ _ _ _ _ _ _ ⟨hbody⟩ hrest _

section Tokens

open Overlay.Source.Parser

variable (ts us : List Token) [h : Like ts us]

instance : Like ts.tail us.tail where
  eq := by
    show bareAll ts.tail = bareAll us.tail
    rw [bareAll_tail, bareAll_tail]
    exact congrArg List.tail h.eq

instance (n : Nat) : Like (ts.drop n) (us.drop n) where
  eq := by
    show bareAll (ts.drop n) = bareAll (us.drop n)
    rw [bareAll_drop, bareAll_drop]
    exact congrArg (List.drop n) h.eq

/-- What is found in tokens without their places is found in all tokens that are alike. -/
theorem Like.query {α : Type} [Bare α] {f : List Token → α} (hf : ∀ ts, f (bareAll ts) = f ts) :
    Like (f ts) (f us) where
  eq := by rw [← hf ts, ← hf us, show bareAll ts = bareAll us from h.eq]

instance : Like ts.length us.length := .query ts us length_bareAll

instance : Like ts.isEmpty us.isEmpty := .query ts us fun ts => by cases ts <;> rfl

instance (m : String) [Mark m] : Like (isMark m ts) (isMark m us) :=
  .query ts us (isMark_bareAll · m)

instance (w : String) : Like (isWord w ts) (isWord w us) := .query ts us (isWord_bareAll · w)

instance (ws : List String) : Like (isAnyWord ws ts) (isAnyWord ws us) :=
  .query ts us (isAnyWord_bareAll · ws)

instance : Like (isName ts) (isName us) := .query ts us isName_bareAll

instance : Like (isIdent ts) (isIdent us) := .query ts us isIdent_bareAll

instance : Like (isLifetime ts) (isLifetime us) := .query ts us isLifetime_bareAll

instance (d : Delimiter) : Like (isGroup d ts) (isGroup d us) := .query ts us (isGroup_bareAll · d)

instance : Like (isLiteral ts) (isLiteral us) := .query ts us isLiteral_bareAll

instance : Like (isNegative ts) (isNegative us) := .query ts us isNegative_bareAll

instance : Like (isString ts) (isString us) := .query ts us isString_bareAll

end Tokens

instance (n n' : Nat) [h : Like n n'] : Like (n + 1) (n' + 1) := ⟨congrArg (· + 1) h.rigid⟩

instance {α : Type} [Bare α] [Rigid α] [BEq α] (a a' b b' : α) [ha : Like a a'] [hb : Like b b'] :
    Like (a != b) (a' != b') := by
  obtain rfl := ha.rigid
  obtain rfl := hb.rigid
  exact ⟨rfl⟩

instance {α : Type} [Bare α] [Rigid α] [BEq α] (a a' b b' : α) [ha : Like a a'] [hb : Like b b'] :
    Like (a == b) (a' == b') := by
  obtain rfl := ha.rigid
  obtain rfl := hb.rigid
  infer_instance

section Conditions

variable (a a' b b' : Bool) [ha : Like a a']

instance : Like (!a) (!a') := by
  obtain rfl := ha.rigid
  infer_instance

variable [hb : Like b b']

instance : Like (a || b) (a' || b') := by
  obtain rfl := ha.rigid
  obtain rfl := hb.rigid
  infer_instance

instance : Like (a && b) (a' && b') := by
  obtain rfl := ha.rigid
  obtain rfl := hb.rigid
  infer_instance

end Conditions

/-! ## Nodes that are alike -/

section Nodes

variable (n n' : Node) [h : Like n n']

theorem bare_role (n : Node) : bare n.role = (bare n).role := by
  cases n
  rw [bare_node]
  rfl

theorem bare_children (n : Node) : bare n.children = (bare n).children := by
  cases n
  rw [bare_node]
  rfl

theorem bare_tokens (n : Node) : n.tokens.map (Token.bare false) = (bare n).tokens := by
  obtain ⟨role, tokens, children⟩ := n
  rw [bare_node]
  rfl

instance : Like n.role n'.role := ⟨by rw [bare_role, bare_role, h.eq]⟩

instance : Like n.endsWithBrace n'.endsWithBrace where
  eq := by
    have hbrace (t : Token) : (t.bare false).isBraceGroup = t.isBraceGroup := by
      cases t with
      | group d => cases d <;> simp only [Token.bare, isBraceGroup]
      | _ => simp only [Token.bare, isBraceGroup]
    have htokens (n : Node) : n.endsWithBrace = ((bare n).tokens.getLast?).any isBraceGroup := by
      rw [← bare_tokens, List.getLast?_map, Option.any_map]
      simp only [hbrace, Node.endsWithBrace]
    rw [htokens, htokens, h.eq]

instance : Like n.children n'.children := ⟨by rw [bare_children, bare_children, h.eq]⟩

end Nodes

section Roles

instance (a a' : AttributeArguments) [h : Like a a'] (inner rooted : Bool) (path : List String) :
    Like (Role.attribute inner rooted path a) (.attribute inner rooted path a') :=
  ⟨congrArg (Role.attribute inner rooted path) h.eq⟩

instance (closing closing' : Span) (body body' : List Token) [h : Like body body'] :
    Like (AttributeArguments.list closing body) (.list closing' body') :=
  ⟨congrArg (AttributeArguments.list nowhere) h.eq⟩

instance (path : List String) (d : Delimiter) (closing closing' : Span)
    (body body' : List Token) [h : Like body body'] :
    Like (MacroCall.mk path d closing body) (.mk path d closing' body') :=
  ⟨congrArg (MacroCall.mk path d nowhere) h.eq⟩

instance (call call' : MacroCall) [h : Like call call'] : Like call.delimiter call'.delimiter := by
  have h := congrArg MacroCall.delimiter h.eq
  exact ⟨h⟩

instance (call call' : MacroCall) [h : Like call call'] :
    Like (Role.macroCall call) (.macroCall call') := ⟨congrArg Role.macroCall h.eq⟩

instance (q q' : Bool) (l l' : List String) [hq : Like q q'] [hl : Like l l'] :
    Like (Role.path q l) (.path q' l') := by
  obtain rfl := hq.rigid
  obtain rfl := hl.rigid
  infer_instance

instance (l l' : List String) [hl : Like l l'] : Like (Role.record l) (.record l') := by
  obtain rfl := hl.rigid
  infer_instance

instance (f f' : TypeForm) [hf : Like f f'] : Like (Role.typeExpr f) (.typeExpr f') := by
  obtain rfl := hf.rigid
  infer_instance

instance (b b' : Bool) [hb : Like b b'] : Like (TypeForm.bounds b) (.bounds b') := by
  obtain rfl := hb.rigid
  infer_instance

instance (a a' b b' : Bool) [ha : Like a a'] [hb : Like b b'] :
    Like (TypeForm.path a b) (.path a' b') := by
  obtain rfl := ha.rigid
  obtain rfl := hb.rigid
  infer_instance

instance (name : String) (b b' : Bool) (fields : FieldsForm) [hb : Like b b'] :
    Like (Role.structDecl name b fields) (.structDecl name b' fields) := by
  obtain rfl := hb.rigid
  infer_instance

instance (name name' : String) [h : Like name name'] :
    Like (Role.aliasDecl name) (.aliasDecl name') := by
  obtain rfl := h.rigid
  infer_instance

/-- Only attributes and macro calls hold tokens. -/
theorem bare_role_cases (role : Role) :
    bare role = role ∨ (∃ inner rooted path a, role = .attribute inner rooted path a) ∨
      ∃ call, role = .macroCall call := by
  match role with
  | .attribute inner rooted path a => exact .inr (.inl ⟨inner, rooted, path, a, rfl⟩)
  | .macroCall call => exact .inr (.inr ⟨call, rfl⟩)
  | .path .. | .call | .record .. | .fieldValue | .base | .borrow | .block | .range | .comparison
  | .expression | .statement | .binding | .pattern | .openRange | .restPattern | .typeExpr ..
  | .field .. | .functionDecl .. | .useDecl .. | .structDecl .. | .enumDecl .. | .unionDecl ..
  | .aliasDecl .. | .modDecl .. | .constDecl | .staticDecl | .implDecl | .traitDecl | .macroDecl
  | .otherDecl => exact .inl rfl

/-- Roles that are alike are the same, apart from the tokens they hold. -/
@[elab_as_elim]
theorem Like.role_cases {motive : ∀ r r' : Role, Like r r' → Prop}
    (same : ∀ r h, motive r r h)
    (attr : ∀ inner rooted path a a' h,
      motive (.attribute inner rooted path a) (.attribute inner rooted path a') h)
    (call : ∀ c c' (_ : Like c c') h, motive (.macroCall c) (.macroCall c') h)
    {r r' : Role} (hlike : Like r r') : motive r r' hlike := by
  have h := hlike.eq
  match r, r', bare_role_cases r, bare_role_cases r', h with
  | _, _, .inr (.inl ⟨inner, rooted, path, a, rfl⟩), .inr (.inl ⟨_, _, _, a', rfl⟩), h =>
      obtain ⟨rfl, rfl, rfl, -⟩ := Role.attribute.inj h
      exact attr _ _ _ _ _ _
  | _, _, .inr (.inr ⟨c, rfl⟩), .inr (.inr ⟨c', rfl⟩), h =>
      exact call _ _ ⟨Role.macroCall.inj h⟩ _
  | r, r', .inl hr, .inl hr', h =>
      obtain rfl : r = r' := by rw [← hr, ← hr', h]
      exact same _ _
  | _, r', .inr (.inl ⟨inner, rooted, path, a, rfl⟩), .inl hr', h =>
      obtain rfl := hr'.symm.trans h.symm
      exact attr _ _ _ _ _ _
  | r, _, .inl hr, .inr (.inl ⟨inner, rooted, path, a, rfl⟩), h =>
      obtain rfl := hr.symm.trans h
      exact attr _ _ _ _ _ _
  | _, r', .inr (.inr ⟨c, rfl⟩), .inl hr', h =>
      obtain rfl := hr'.symm.trans h.symm
      exact call _ _ ⟨Role.macroCall.inj h⟩ _
  | r, _, .inl hr, .inr (.inr ⟨c, rfl⟩), h =>
      obtain rfl := hr.symm.trans h
      exact call _ _ ⟨Role.macroCall.inj h⟩ _
  | _, _, .inr (.inl ⟨_, _, _, _, rfl⟩), .inr (.inr ⟨_, rfl⟩), h => exact nomatch h
  | _, _, .inr (.inr ⟨_, rfl⟩), .inr (.inl ⟨_, _, _, _, rfl⟩), h => exact nomatch h

end Roles

/-! ## Syntax that is alike -/

namespace Grammar

section PathSyntax

variable (p p' : PathSyntax) [h : Like p p']

instance : Like p.qualified p'.qualified := by
  have h := congrArg PathSyntax.qualified h.eq
  exact ⟨h⟩

instance : Like p.rooted p'.rooted := by
  have h := congrArg PathSyntax.rooted h.eq
  exact ⟨h⟩

instance : Like p.segments p'.segments := by
  have h := congrArg PathSyntax.segments h.eq
  exact ⟨congrArg (List.map bare) h⟩

instance : Like p.parts p'.parts := by
  have h := congrArg PathSyntax.parts h.eq
  exact ⟨h⟩

instance : Like p.plain p'.plain := by
  have h := congrArg PathSyntax.plain h.eq
  exact ⟨h⟩

instance : Like p.lastPlain p'.lastPlain := by
  have h := congrArg PathSyntax.lastPlain h.eq
  exact ⟨h⟩

omit h in
instance (q q' r r' : Bool) (l l' : List String) (ns ns' : List Node) (a a' b b' : Bool)
    [hq : Like q q'] [hr : Like r r'] [hl : Like l l'] [hns : Like ns ns'] [ha : Like a a']
    [hb : Like b b'] : Like (PathSyntax.mk q r l ns a b) ⟨q', r', l', ns', a', b'⟩ := by
  obtain rfl := hq.rigid
  obtain rfl := hr.rigid
  obtain rfl := hl.rigid
  obtain rfl := ha.rigid
  obtain rfl := hb.rigid
  exact ⟨congrArg (PathSyntax.mk q r l · a b) hns.eq⟩

omit h in
instance (q q' r r' : Bool) (ns ns' : List Node) (l l' : List (String × List Node × Bool))
    [Like q q'] [Like r r'] [Like ns ns'] [Like l l'] :
    Like (PathSyntax.ofSegments q r ns l) (.ofSegments q' r' ns' l') := by
  unfold PathSyntax.ofSegments
  infer_instance

end PathSyntax

section Generics

variable (gs gs' : Generics) [h : Like gs gs']

instance : Like gs.present gs'.present := by
  have h := congrArg Generics.present h.eq
  exact ⟨h⟩

instance : Like gs.any gs'.any := by
  have h := congrArg Generics.any h.eq
  exact ⟨h⟩

instance : Like gs.parts gs'.parts := by
  have h := congrArg Generics.parts h.eq
  exact ⟨h⟩

omit h in
instance (a a' b b' : Bool) (ns ns' : List Node) [ha : Like a a'] [hb : Like b b']
    [hns : Like ns ns'] : Like (Generics.mk a b ns) ⟨a', b', ns'⟩ := by
  obtain rfl := ha.rigid
  obtain rfl := hb.rigid
  exact ⟨congrArg (Generics.mk a b) hns.eq⟩

end Generics

section AliasSyntax

variable (a a' : AliasSyntax) [h : Like a a']

instance : Like a.name a'.name := by
  have h := congrArg AliasSyntax.name h.eq
  exact ⟨h⟩

instance : Like a.bounded a'.bounded := by
  have h := congrArg AliasSyntax.bounded h.eq
  exact ⟨h⟩

instance : Like a.parts a'.parts := by
  have h := congrArg AliasSyntax.parts h.eq
  exact ⟨h⟩

instance : Like a.definition a'.definition := by
  have h := congrArg AliasSyntax.definition h.eq
  exact ⟨h⟩

omit h in
instance (name : String) (b : Bool) (ns ns' : List Node) (d d' : Option Node)
    [hns : Like ns ns'] [hd : Like d d'] :
    Like (AliasSyntax.mk name b ns d) ⟨name, b, ns', d'⟩ where
  eq := by
    show AliasSyntax.mk name b (bare ns) (bare d) = ⟨name, b, bare ns', bare d'⟩
    rw [hns.eq, hd.eq]

end AliasSyntax

/-! ## What the grammar looks for -/

section Nodes

variable (n n' : Node) [h : Like n n']

instance : Like (isRange n) (isRange n') := by
  have h : Like n.role n'.role := inferInstance
  unfold isRange
  generalize n.role = r, n'.role = r' at h
  cases h using Like.role_cases <;> exact ⟨rfl⟩

instance : Like (isComparison n) (isComparison n') := by
  have h : Like n.role n'.role := inferInstance
  unfold isComparison
  generalize n.role = r, n'.role = r' at h
  cases h using Like.role_cases <;> exact ⟨rfl⟩

instance : Like (isBlockLike n) (isBlockLike n') := by
  have h : Like n.role n'.role := inferInstance
  unfold isBlockLike
  generalize n.role = r, n'.role = r' at h
  cases h using Like.role_cases <;> exact ⟨rfl⟩

end Nodes

section Ahead

open Overlay.Source.Parser

variable (ts us : List Token) [Like ts us] (b : Bool)

instance : Like (isParenArguments ts) (isParenArguments us) := by
  unfold isParenArguments
  infer_instance

instance : Like (startsBound b ts) (startsBound b us) := by
  unfold startsBound
  infer_instance

instance : Like (endsPredicates ts) (endsPredicates us) := by
  unfold endsPredicates
  infer_instance

instance : Like (isAlternative ts) (isAlternative us) := by
  unfold isAlternative
  infer_instance

instance : Like (isBinder ts) (isBinder us) := by
  unfold isBinder
  infer_instance

instance : Like (startsClosure ts) (startsClosure us) := by
  unfold startsClosure
  infer_instance

instance : Like (startsExpr ts) (startsExpr us) := by
  unfold startsExpr
  infer_instance

instance : Like (startsBlockLike ts) (startsBlockLike us) := by
  unfold startsBlockLike
  infer_instance

instance : Like (startsItem ts) (startsItem us) := by
  unfold startsItem
  infer_instance

instance : Like (startsMacroPath ts) (startsMacroPath us) := by
  unfold startsMacroPath
  infer_instance

instance : Like (startsGenerics ts) (startsGenerics us) := by
  unfold startsGenerics
  infer_instance

instance : Like (startsSignature b ts) (startsSignature b us) := by
  unfold startsSignature
  infer_instance

/-- The operators of the grammar are marks. -/
instance : Like (binaryOperator? ts) (binaryOperator? us) where
  eq := by
    congr 1
    unfold binaryOperator?
    refine List.find?_congr fun o ho => ?_
    have := operator_of_mem_binaryOperators ho
    exact Like.rigid inferInstance

instance : Like (nextLevel ts) (nextLevel us) := by
  unfold nextLevel
  have h : binaryOperator? ts = binaryOperator? us := Like.rigid inferInstance
  rw [h]
  split
  · infer_instance
  · infer_instance

instance : Like (endsRange b ts) (endsRange b us) := by
  simp only [endsRange, List.any_cons, List.any_nil, Bool.or_false]
  infer_instance

end Ahead

end Grammar

end Overlay.Source
