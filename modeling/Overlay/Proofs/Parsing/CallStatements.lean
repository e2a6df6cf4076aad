import Mathlib
import Overlay.Proofs.Parsing.Runs

/-!
# Scripts of one call

A script whose entry point is a single call is read up to that call without a choice, and so is the
path of the callee. What the run of the parser depends on is only the run over the arguments, and a
macro call does not even read those.
-/

namespace Overlay.Source

open Overlay.Source.Parser Overlay.Source.Grammar Token

/-! ## Runs that depend on another one -/

namespace Parser

section Through

variable {α β γ : Type} {p : Parser α} {f : α → Parser β} {s : Stream} {X : Except Fault γ}

/-- A parser whose run depends on that of `X` only passes it on to the steps behind it. -/
theorem run_bind_map {k : γ → α × Stream} {k' : γ → β × Stream} (h : p s = X.map k)
    (hf : ∀ x, f (k x).1 (k x).2 = .ok (k' x)) : (p >>= f) s = X.map k' := by
  show (p s).bind (fun x => f x.1 x.2) = _
  rw [h]
  cases X with
  | error e => rfl
  | ok x => exact hf x

/-- What a group has left over when its content has been read. -/
def leftover (d : Delimiter) (t : Stream) : Option Fault :=
  t.stray.or (t.rest.head?.map fun t => ⟨.stray d, t.start⟩)

theorem leftover_nil {d : Delimiter} {n : Nat} {e : Position} {stray : Option Fault} :
    leftover d ⟨[], n, e, stray⟩ = stray := Option.or_none

theorem leftover_eq_none {d : Delimiter} {t : Stream} :
    leftover d t = none ↔ t.stray = none ∧ t.rest = [] := by
  simp [leftover]

/-- A group depends on its content. -/
theorem run_group {d : Delimiter} {o c : Span} {body rest : List Token} {n : Nat} {e : Position}
    {stray : Option Fault} :
    group d p ⟨.group d o c body :: rest, n, e, stray⟩
      = (p ⟨body, 0, c.start, stray⟩).map fun x => (x.1, ⟨rest, n + 1, e, leftover d x.2⟩) := by
  simp only [group, if_true]
  cases p ⟨body, 0, c.start, stray⟩ <;> rfl

theorem run_group_map {d : Delimiter} {o c : Span} {body rest : List Token} {n : Nat} {e : Position}
    {stray : Option Fault} {k : γ → α × Stream} (h : p ⟨body, 0, c.start, stray⟩ = X.map k) :
    group d p ⟨.group d o c body :: rest, n, e, stray⟩
      = X.map fun x => ((k x).1, ⟨rest, n + 1, e, leftover d (k x).2⟩) := by
  rw [run_group, h]
  cases X <;> rfl

end Through

end Parser

/-! ## Paths -/

/-- The keywords that may be segments of a path. -/
def pathKeywords : List String := ["super", "self", "Self", "crate", "try"]

/-- A name that may be a segment of a path. -/
def IsSegment (x : String) : Prop := keywords.contains x = false ∨ x ∈ pathKeywords

instance (x : String) : Decidable (IsSegment x) := inferInstanceAs (Decidable (_ ∨ _))

/-- Segments of a path that others stand before. -/
inductive MoreSegments : List String → List Token → Prop where
  | nil : MoreSegments [] []
  | cons {x : String} {xs : List String} {us : List Token} (a b c : Span) (h : MoreSegments xs us) :
      MoreSegments (x :: xs) (.punct ':' true a :: .punct ':' false b :: .ident x c :: us)

/-- The tokens of a path without arguments. -/
inductive PathTokens : Bool → List String → List Token → Prop where
  | plain {x : String} {xs : List String} {us : List Token} (a : Span) (h : MoreSegments xs us) :
      PathTokens false (x :: xs) (.ident x a :: us)
  | rooted {x : String} {xs : List String} {us : List Token} (h : MoreSegments (x :: xs) us) :
      PathTokens true (x :: xs) us

theorem IsSegment.ne {x w : String} (hx : IsSegment x) (hw : keywords.contains w = true)
    (hpath : w ∉ pathKeywords) : x ≠ w := by
  rintro rfl
  rcases hx with hx | hx
  · rw [hx] at hw
    cases hw
  · exact hpath hx

section Paths

variable {g : Grammar} {x : String} {xs : List String} {us v : List Token} {n : Nat} {e : Position}
  {stray : Option Fault}

theorem run_anyIdent {a : Span} :
    anyIdent ⟨.ident x a :: v, n, e, stray⟩ = .ok (x, ⟨v, n + 1, e, stray⟩) := rfl

theorem run_name (hx : keywords.contains x = false) {a : Span} :
    name ⟨.ident x a :: v, n, e, stray⟩ = .ok (x, ⟨v, n + 1, e, stray⟩) := by
  show (if keywords.contains x then _ else _ : Parser String) _ = _
  rw [hx]
  rfl

theorem isAnyWord_ident {ws : List String} {a : Span} :
    isAnyWord ws (.ident x a :: v) = ws.contains x := by
  rw [isAnyWord, Bool.eq_iff_iff, List.any_eq_true, List.contains_iff_mem]
  constructor
  · rintro ⟨w, hw, hx⟩
    rwa [beq_iff_eq.mp hx]
  · intro hx
    exact ⟨x, hx, beq_self_eq_true x⟩

/-- One segment, if no arguments stand behind it. -/
theorem run_segment (hx : IsSegment x) {a : Span} {b : Bool} (hangle : (!b && isMark "<" v) = false)
    (hv : (isMark "::" v && isMark "<" (v.drop 2)) = false) :
    segment g b ⟨.ident x a :: v, n, e, stray⟩ = .ok ((x, [], true), ⟨v, n + 1, e, stray⟩) := by
  show (if isAnyWord ["super", "self", "crate", "try"] (.ident x a :: v) then _ else _ : Parser _) _ = _
  rw [isAnyWord_ident]
  split
  · exact run_bind_eq run_anyIdent
  · next hwords =>
      have hend : (do
          let ts ← ahead
          if (!b && isMark "<" ts && !isMark "<=" ts)
              || (isMark "::" ts && isMark "<" (ts.drop 2)) then
            return (x, ← angleArguments g, false)
          else return (x, [], true) : Parser (String × List Node × Bool)) ⟨v, n + 1, e, stray⟩
          = .ok ((x, [], true), ⟨v, n + 1, e, stray⟩) := by
        show (if !b && isMark "<" v && _ || _ then _ else _ : Parser _) _ = _
        rw [hv, hangle]
        rfl
      show (if isWord "Self" (.ident x a :: v) then _ else _ : Parser _) _ = _
      split
      · exact (run_bind_eq run_anyIdent).trans hend
      · next hself =>
          have hname : keywords.contains x = false := hx.resolve_right fun hpath => by
            simp only [pathKeywords, List.contains_eq_mem, List.mem_cons, isWord, beq_iff_eq,
              decide_eq_true_eq, List.not_mem_nil, or_false] at hpath hwords hself
            tauto
          exact (run_bind_eq (run_name hname)).trans hend

theorem MoreSegments.length_le (h : MoreSegments xs us) : 3 * xs.length = us.length := by
  induction h with
  | nil => rfl
  | cons a b c h ih =>
      rw [List.length_cons, Nat.mul_add, ih]
      rfl

/-- What stands behind a segment of a path is no argument of it. -/
theorem MoreSegments.no_arguments (h : MoreSegments xs us) (hv : isMark "::" v = false) :
    (isMark "::" (us ++ v) && isMark "<" ((us ++ v).drop 2)) = false := by
  cases h with
  | nil => rw [List.nil_append, hv, Bool.false_and]
  | cons a b c h => rfl

theorem MoreSegments.no_angle (h : MoreSegments xs us) {b : Bool}
    (hangle : (!b && isMark "<" v) = false) : (!b && isMark "<" (us ++ v)) = false := by
  cases h with
  | nil => exact hangle
  | cons a c d h => exact Bool.and_false _

theorem run_moreSegments (h : MoreSegments xs us) (hxs : ∀ x ∈ xs, IsSegment x)
    (hv : isMark "::" v = false) {b : Bool} (hangle : (!b && isMark "<" v) = false) :
    moreSegments g b true ⟨us ++ v, n, e, stray⟩
      = .ok (xs.map fun x => (x, [], true), ⟨v, n + us.length, e, stray⟩) := by
  have hfuel : xs.length < (us ++ v).length + 1 := by
    have := h.length_le
    rw [List.length_append]
    omega
  show steps _ ((us ++ v).length + 1) _ = _
  generalize (us ++ v).length + 1 = fuel at hfuel
  induction h generalizing n fuel with
  | nil =>
      obtain ⟨fuel, rfl⟩ := Nat.exists_eq_add_one_of_ne_zero (Nat.ne_zero_of_lt hfuel)
      refine run_bind_eq (a := none) (t := ⟨v, n, e, stray⟩) ?_
      show (if isMark "::" v && _ then _ else _ : Parser _) _ = _
      rw [hv]
      rfl
  | @cons x xs us a a' c h ih =>
      obtain ⟨fuel, rfl⟩ := Nat.exists_eq_add_one_of_ne_zero (Nat.ne_zero_of_lt hfuel)
      have hsegment : segment g b ⟨.ident x c :: (us ++ v), n + 2, e, stray⟩
          = .ok ((x, [], true), ⟨us ++ v, n + 3, e, stray⟩) :=
        run_segment (hxs x List.mem_cons_self) (h.no_angle hangle) (h.no_arguments hv)
      have hmore := ih (fun y hy => hxs y (List.mem_cons_of_mem x hy)) (n := n + 3) fuel
        (Nat.lt_of_succ_lt_succ hfuel)
      refine (run_bind_eq (a := some (x, [], true)) (t := ⟨us ++ v, n + 3, e, stray⟩) ?_).trans ?_
      · show (segment g b >>= fun a => pure (some a)) _ = _
        exact run_bind_eq hsegment
      rw [List.length_cons, List.length_cons, List.length_cons,
        show n + (us.length + 1 + 1 + 1) = n + 3 + us.length by omega]
      exact run_bind_eq hmore

/-- What a path without arguments is read as. -/
def plainPath (rooted : Bool) (segs : List String) : PathSyntax :=
  .ofSegments false rooted [] (segs.map fun x => (x, [], true))

theorem segments_plainPath {rooted : Bool} : (plainPath rooted xs).segments = xs := by
  simp [plainPath, PathSyntax.ofSegments, Function.comp_def]

theorem parts_plainPath {rooted : Bool} : (plainPath rooted xs).parts = [] := by
  simp [plainPath, PathSyntax.ofSegments]

theorem plain_plainPath {rooted : Bool} : (plainPath rooted xs).plain = true := by
  simp [plainPath, PathSyntax.ofSegments]

theorem run_path {rooted : Bool} (h : PathTokens rooted xs us) (hxs : ∀ x ∈ xs, IsSegment x)
    (hv : isMark "::" v = false) {b : Bool} (hangle : (!b && isMark "<" v) = false) :
    path g b ⟨us ++ v, n, e, stray⟩
      = .ok (plainPath rooted xs, ⟨v, n + us.length, e, stray⟩) := by
  have hnames {x : String} {xs : List String} {us : List Token} {a : Span} {n : Nat} {rooted : Bool}
      (h : MoreSegments xs us) (hxs : ∀ y ∈ x :: xs, IsSegment y) : (do
        let first ← segment g b
        let rest ← moreSegments g b true
        return .ofSegments false rooted [] (first :: rest) : Parser PathSyntax)
          ⟨.ident x a :: (us ++ v), n, e, stray⟩
        = .ok (plainPath rooted (x :: xs), ⟨v, n + 1 + us.length, e, stray⟩) := by
    rw [run_bind_eq
        (run_segment (hxs x List.mem_cons_self) (h.no_angle hangle) (h.no_arguments hv)),
      run_bind_eq (run_moreSegments h (fun y hy => hxs y (List.mem_cons_of_mem x hy)) hv hangle)]
    rfl
  cases h with
  | @plain x xs us a h =>
      rw [List.length_cons, show n + (us.length + 1) = n + 1 + us.length by omega]
      exact (run_bind_eq (a := false) rfl).trans (hnames h hxs)
  | rooted h =>
      cases h with
      | @cons _ _ us a b c h =>
          rw [List.length_cons, List.length_cons, List.length_cons,
            show n + (us.length + 1 + 1 + 1) = n + 2 + 1 + us.length by omega]
          exact (run_bind_eq (a := true) rfl).trans (hnames h hxs)

theorem run_qualifiedPath {rooted : Bool} (h : PathTokens rooted xs us)
    (hxs : ∀ x ∈ xs, IsSegment x) (hv : isMark "::" v = false) {b : Bool}
    (hangle : (!b && isMark "<" v) = false) :
    qualifiedPath g b ⟨us ++ v, n, e, stray⟩
      = .ok (plainPath rooted xs, ⟨v, n + us.length, e, stray⟩) := by
  have hstart : isMark "<" (us ++ v) = false := by
    cases h with
    | plain a h => rfl
    | rooted h =>
        cases h
        rfl
  show (if isMark "<" (us ++ v) then _ else _ : Parser PathSyntax) _ = _
  rw [hstart]
  exact run_path h hxs hv hangle

/-! ## What a path of several segments starts with -/

/-- Tokens that start with a path of several segments. -/
inductive PathStart : List Token → Prop where
  | rooted (a b : Span) (rest : List Token) :
      PathStart (.punct ':' true a :: .punct ':' false b :: rest)
  | plain {x : String} (hx : IsSegment x) (a b c : Span) (rest : List Token) :
      PathStart (.ident x a :: .punct ':' true b :: .punct ':' false c :: rest)

theorem PathTokens.start {rooted : Bool} (h : PathTokens rooted xs us) (hxs : ∀ x ∈ xs, IsSegment x)
    (hlength : 2 ≤ xs.length) : PathStart (us ++ v) := by
  cases h with
  | plain a h =>
      cases h with
      | nil => simp at hlength
      | cons b c d h => exact .plain (hxs _ List.mem_cons_self) a b c _
  | rooted h =>
      cases h with
      | cons a b c h => exact .rooted a b _

namespace PathStart

variable {ts : List Token}

/-- No word that is a keyword of another kind stands at the start of a path. -/
theorem isWord_eq_false (h : PathStart ts) {w : String} (hw : keywords.contains w = true)
    (hpath : w ∉ pathKeywords) : isWord w ts = false := by
  cases h with
  | rooted => rfl
  | plain hx => exact beq_eq_false_iff_ne.mpr (hx.ne hw hpath)

theorem isAnyWord_eq_false (h : PathStart ts) {ws : List String}
    (hws : ∀ w ∈ ws, keywords.contains w = true ∧ w ∉ pathKeywords) : isAnyWord ws ts = false := by
  rw [isAnyWord, List.any_eq_false]
  intro w hw
  rw [h.isWord_eq_false (hws w hw).1 (hws w hw).2]
  exact Bool.false_ne_true

theorem startsItem_eq_false (h : PathStart ts) : startsItem ts = false := by
  have hword {w : String} (hw : keywords.contains w = true) (hpath : w ∉ pathKeywords) :=
    h.isWord_eq_false hw hpath
  have hany : isAnyWord ["pub", "extern", "use", "fn", "mod", "type", "struct", "enum", "trait", "impl",
      "macro"] ts = false := h.isAnyWord_eq_false (by decide)
  rw [startsItem, hany, hword (w := "static") (by decide) (by decide),
    hword (w := "const") (by decide) (by decide), hword (w := "unsafe") (by decide) (by decide),
    hword (w := "async") (by decide) (by decide)]
  cases h with
  | rooted a b rest => rfl
  | plain hx a b c rest => simp [isName, isMark, marksAhead, isWord, isAnyWord]

theorem startsBlockLike_eq_false (h : PathStart ts) : startsBlockLike ts = false := by
  have hany : isAnyWord ["if", "while", "loop", "match", "unsafe"] ts = false :=
    h.isAnyWord_eq_false (by decide)
  rw [startsBlockLike, hany, h.isWord_eq_false (w := "for") (by decide) (by decide),
    h.isWord_eq_false (w := "const") (by decide) (by decide)]
  cases h with
  | rooted a b rest => rfl
  | plain hx a b c rest => simp [isGroup, isLifetime]

theorem startsClosure_eq_false (h : PathStart ts) : startsClosure ts = false := by
  have hword {w : String} (hw : keywords.contains w = true) (hpath : w ∉ pathKeywords) :=
    h.isWord_eq_false hw hpath
  rw [startsClosure, isBinder, hword (w := "move") (by decide) (by decide),
    hword (w := "for") (by decide) (by decide), hword (w := "const") (by decide) (by decide),
    hword (w := "static") (by decide) (by decide), hword (w := "async") (by decide) (by decide)]
  cases h <;> rfl

theorem isLiteral_eq_false (h : PathStart ts) : isLiteral ts = false := by
  cases h with
  | rooted => rfl
  | plain hx =>
      have htrue := beq_eq_false_iff_ne.mpr (hx.ne (w := "true") (by decide) (by decide))
      have hfalse := beq_eq_false_iff_ne.mpr (hx.ne (w := "false") (by decide) (by decide))
      exact Bool.or_eq_false_iff.mpr ⟨htrue, hfalse⟩

/-- Behind the first word of a path only another segment can stand. -/
theorem word_and_eq_false (h : PathStart ts) {w : String} {c : List Token → Bool}
    (hc : ∀ a b rest, c (.punct ':' true a :: .punct ':' false b :: rest) = false) :
    (isWord w ts && c ts.tail) = false := by
  cases h with
  | rooted => rfl
  | plain hx a b c rest => exact (congrArg _ (hc ..)).trans (Bool.and_false _)

theorem startsPath (h : PathStart ts) : (isName ts || isMark "::" ts || isMark "<" ts
    || isAnyWord ["self", "Self", "super", "crate"] ts
    || (isWord "try" ts && (isMark "!" ts.tail || isMark "::" ts.tail))) = true := by
  cases h with
  | rooted => rfl
  | plain hx a b c rest =>
      rcases hx with hx | hx
      · rw [isName, hx]
        rfl
      · simp only [pathKeywords, List.mem_cons, List.not_mem_nil, or_false] at hx
        rcases hx with rfl | rfl | rfl | rfl | rfl <;> rfl

/-- An expression that starts with a path is read as one. -/
theorem atom_eq_pathExpr {s : Stream} (h : PathStart s.rest) {b : Bool} :
    atom g b s = pathExpr g b s := by
  show (if isLiteral s.rest then _ else _ : Parser Node) s = _
  rw [h.isLiteral_eq_false, h.isWord_eq_false (w := "async") (by decide) (by decide),
    h.word_and_eq_false (w := "try") (c := isGroup .brace) fun _ _ _ => rfl, h.startsClosure_eq_false,
    h.word_and_eq_false (w := "builtin") (c := isMark "#") fun _ _ _ => rfl, h.startsPath]
  rfl

theorem isMark_eq_false (h : PathStart ts) {m : String} {c : Char} (hm : m.toList = [c])
    (hc : c ≠ ':') : isMark m ts = false := by
  rw [isMark, hm]
  cases h with
  | rooted => exact Bool.and_eq_false_iff.mpr (.inl (beq_eq_false_iff_ne.mpr hc))
  | plain hx => rfl

end PathStart

/-! ## Macro calls at the start of a statement -/

theorem run_mark?_false {m : String} {s : Stream} (h : isMark m s.rest = false) :
    mark? m s = .ok (false, s) := by
  show (if isMark m s.rest then _ else _ : Parser Bool) s = _
  rw [h]
  rfl

/-- A segment of a path without arguments; one keyword may only be a segment of other paths. -/
theorem startsModSegment (hx : IsSegment x) {a : Span} :
    (isName (.ident x a :: v) || isAnyWord ["super", "self", "Self", "crate"] (.ident x a :: v))
      = !(x == "try") := by
  rw [isAnyWord_ident]
  rcases hx with hx | hx
  · have htry : x ≠ "try" := fun h => by
      rw [h] at hx
      exact absurd hx (by decide)
    rw [isName, hx, beq_eq_false_iff_ne.mpr htry]
    rfl
  · simp only [pathKeywords, List.mem_cons, List.not_mem_nil, or_false] at hx
    rcases hx with rfl | rfl | rfl | rfl | rfl <;> rfl

/-- The names of a path are all read, or else they end behind a `::`. -/
theorem run_modSegments (h : MoreSegments xs us) (hx : IsSegment x) (hxs : ∀ y ∈ xs, IsSegment y)
    (hv : isMark "::" v = false) (htry : x ≠ "try") {a : Span} {fuel : Nat} (hfuel : xs.length < fuel) :
    ∃ r, modSegments fuel ⟨.ident x a :: (us ++ v), n, e, stray⟩ = .ok r ∧
      (r = ((x :: xs, false), ⟨v, n + 1 + us.length, e, stray⟩) ∨ r.1.1 ≠ [] ∧ r.1.2 = true) := by
  induction h generalizing x n a fuel with
  | nil =>
      obtain ⟨fuel, rfl⟩ := Nat.exists_eq_add_one_of_ne_zero (Nat.ne_zero_of_lt hfuel)
      refine ⟨(([x], false), ⟨v, n + 1, e, stray⟩), ?_, .inl rfl⟩
      show (if isName _ || isAnyWord _ _ then _ else _ : Parser _) _ = _
      rw [startsModSegment hx, beq_eq_false_iff_ne.mpr htry, Bool.not_false, if_pos rfl,
        run_bind_eq run_anyIdent, run_bind_eq (run_mark?_false hv)]
      rfl
  | @cons y ys us b c d h ih =>
      obtain ⟨fuel, rfl⟩ := Nat.exists_eq_add_one_of_ne_zero (Nat.ne_zero_of_lt hfuel)
      have hread : modSegments (fuel + 1) ⟨.ident x a :: .punct ':' true b :: .punct ':' false c
          :: .ident y d :: (us ++ v), n, e, stray⟩
          = (modSegments fuel ⟨.ident y d :: (us ++ v), n + 3, e, stray⟩).map fun r =>
            ((x :: r.1.1, r.1.1.isEmpty || r.1.2), r.2) := by
        show (if isName _ || isAnyWord _ _ then _ else _ : Parser _) _ = _
        rw [startsModSegment hx, beq_eq_false_iff_ne.mpr htry, Bool.not_false, if_pos rfl,
          run_bind_eq run_anyIdent, run_bind_eq (a := true) rfl]
        rfl
      by_cases hy : y = "try"
      · subst hy
        obtain ⟨fuel, rfl⟩ := Nat.exists_eq_add_one_of_ne_zero
          (Nat.ne_zero_of_lt (Nat.lt_of_succ_lt_succ hfuel))
        exact ⟨(([x], true), ⟨.ident "try" d :: (us ++ v), n + 3, e, stray⟩), hread,
          .inr ⟨List.cons_ne_nil x [], rfl⟩⟩
      · obtain ⟨r, hr, hcases⟩ := ih (hxs y List.mem_cons_self)
          (fun z hz => hxs z (List.mem_cons_of_mem y hz)) hy (Nat.lt_of_succ_lt_succ hfuel)
        refine ⟨_, hread.trans (congrArg _ hr), ?_⟩
        rcases hcases with rfl | ⟨hne, htrailing⟩
        · refine .inl ?_
          rw [List.length_cons, List.length_cons, List.length_cons,
            show n + 1 + (us.length + 1 + 1 + 1) = n + 3 + 1 + us.length by omega]
          rfl
        · exact .inr ⟨List.cons_ne_nil _ _, (Bool.or_eq_true _ _).mpr (.inr htrailing)⟩

/-- A path without arguments, from its first name on. -/
def modPathNames (rooted : Bool) : Parser (Bool × List String) := do
  let (segments, trailing) ← modSegments ((← ahead).length + 1)
  if segments.isEmpty then
    let segment ← name
    return (rooted, [segment])
  else if trailing then refuse "expected path segment after `::`"
  else return (rooted, segments)

theorem modPath_eq : modPath = (mark? "::" >>= modPathNames) := rfl

theorem run_modPathNames {rooted : Bool} (h : MoreSegments xs us) (hxs : ∀ y ∈ x :: xs, IsSegment y)
    (hv : isMark "::" v = false) {a : Span} :
    modPathNames rooted ⟨.ident x a :: (us ++ v), n, e, stray⟩
        = .ok ((rooted, x :: xs), ⟨v, n + 1 + us.length, e, stray⟩) ∨
      ∃ f, modPathNames rooted ⟨.ident x a :: (us ++ v), n, e, stray⟩ = .error f := by
  by_cases htry : x = "try"
  · subst htry
    exact .inr ⟨_, rfl⟩
  · have hfuel : xs.length < (Token.ident x a :: (us ++ v)).length + 1 := by
      have := h.length_le
      rw [List.length_cons, List.length_append]
      omega
    obtain ⟨⟨⟨ys, trailing⟩, t⟩, hrun, hcases⟩ := run_modSegments (n := n) (e := e) (a := a) h
      (hxs x List.mem_cons_self) (fun y hy => hxs y (List.mem_cons_of_mem x hy)) hv htry hfuel
    rw [modPathNames, run_bind_eq (a := .ident x a :: (us ++ v)) rfl, run_bind_eq hrun]
    rcases hcases with heq | ⟨hne, htrailing⟩
    · cases heq
      exact .inl rfl
    · obtain ⟨y, ys, rfl⟩ := List.exists_cons_of_ne_nil hne
      obtain rfl : trailing = true := htrailing
      exact .inr ⟨_, rfl⟩

/-- A path without arguments is read whole, or refused because of a keyword in it. -/
theorem run_modPath {rooted : Bool} (h : PathTokens rooted xs us) (hxs : ∀ x ∈ xs, IsSegment x)
    (hv : isMark "::" v = false) :
    modPath ⟨us ++ v, n, e, stray⟩ = .ok ((rooted, xs), ⟨v, n + us.length, e, stray⟩) ∨
      ∃ f, modPath ⟨us ++ v, n, e, stray⟩ = .error f := by
  cases h with
  | @plain x xs us a h =>
      rw [modPath_eq, List.cons_append, run_bind_eq (a := false) rfl, List.length_cons,
        show n + (us.length + 1) = n + 1 + us.length by omega]
      exact run_modPathNames h hxs hv
  | rooted h =>
      cases h with
      | @cons x xs us a b c h =>
          rw [modPath_eq, List.cons_append, List.cons_append, List.cons_append,
            run_bind_eq (a := true) rfl, List.length_cons, List.length_cons, List.length_cons,
            show n + (us.length + 1 + 1 + 1) = n + 2 + 1 + us.length by omega]
          exact run_modPathNames h hxs hv

/-- What the tokens behind a path make of a statement. -/
def macroStartOf (ts : List Token) : MacroStart :=
  let next := ts.tail
  if !isMark "!" ts then .none
  else if isName next || isWord "try" next then .item
  else if isGroup .brace next && !((isMark "." next.tail && !isMark ".." next.tail)
      || isMark "?" next.tail) then .statement
  else .none

theorem run_macroStart_ok {s t : Stream} {r : Bool × List String} (h : modPath s = .ok (r, t)) :
    macroStart s = .ok (macroStartOf t.rest, s) := by
  rw [macroStart]
  refine (run_bind_eq (a := .ok (r.2, t.rest)) (t := s) ?_).trans ?_
  · rw [peek, run_bind_eq h]
    rfl
  · rw [macroStartOf]
    dsimp only
    repeat' split
    all_goals rfl

theorem run_macroStart_error {s : Stream} {f : Fault} (h : modPath s = .error f) :
    macroStart s = .ok (.none, s) := by
  have hbind {q : Bool × List String → Parser (List String × List Token)} :
      (modPath >>= q) s = .error f := by
    show (modPath s).bind _ = _
    rw [h]
    rfl
  rw [macroStart]
  refine (run_bind_eq (a := .error f) (t := s) ?_).trans rfl
  rw [peek, hbind]

end Paths

/-! ## Calls as statements -/

/-- What may stand behind a call at the end of a block. -/
inductive CallEnd : List Token → Prop where
  | nothing : CallEnd []
  | semicolon (m : Span) : CallEnd [.punct ';' false m]

/-- A stream at the end of its group. -/
def Parser.finished (t : Stream) : Stream := ⟨[], t.taken + t.rest.length, t.ending, t.stray⟩

section Calls

variable {g : Grammar} {γ : Type} {X : Except Fault γ} {s t : Stream} {k : γ → Node × Stream}

theorem run_outerAttributes_none (h : isMark "#" s.rest = false) :
    outerAttributes g s = .ok ([], s) := by
  show steps _ (s.rest.length + 1) s = _
  refine run_bind_eq (a := none) (t := s) ?_
  show (if isMark "#" s.rest then _ else _ : Parser (Option Node)) s = _
  rw [h]
  rfl

theorem run_trailer_end (h : CallEnd t.rest) {operand : Node} :
    trailer g s operand t = .ok (none, t) := by
  obtain ⟨rest, n, e, stray⟩ := t
  cases h <;> rfl

theorem run_climb_end (h : CallEnd t.rest) {left : Node} (hleft : isRange left = false) :
    climbProduction g left true Level.lowest t = .ok (left, t) := by
  obtain ⟨rest, n, e, stray⟩ := t
  show climbLoop g true Level.lowest (rest.length + 1) left _ = _
  refine run_bind_eq (a := none) (t := ⟨rest, n, e, stray⟩) ?_
  show (if isRange left then _ else _ : Parser (Option Node)) _ = _
  rw [hleft]
  cases h <;> rfl

/-- An operand that starts with a path is that path and its trailers. -/
theorem run_unary_of_path (hs : PathStart s.rest) {b : Bool} {callee : Node}
    (hpath : pathExpr g b s = .ok (callee, t))
    (htrailers : trailers g s (t.rest.length + 1) callee t = X.map k) :
    unaryProduction g b s = X.map k := by
  rw [unaryProduction, run_bind_eq (a := s) rfl,
    run_bind_eq (run_outerAttributes_none (hs.isMark_eq_false (c := '#') rfl (by decide))),
    run_bind_eq (a := s.rest) rfl, hs.isMark_eq_false (m := "&") (c := '&') rfl (by decide),
    hs.isMark_eq_false (m := "*") (c := '*') rfl (by decide),
    hs.isMark_eq_false (m := "!") (c := '!') rfl (by decide),
    hs.isMark_eq_false (m := "-") (c := '-') rfl (by decide)]
  show ((get : Parser Stream) >>= _) s = _
  rw [run_bind_eq (a := s) rfl, run_bind_eq (hs.atom_eq_pathExpr.trans hpath),
    run_bind_eq (a := t.rest) rfl]
  exact run_bind_map htrailers fun x => rfl

theorem run_statementExpr_of_unary (hs : PathStart s.rest)
    (hunary : unaryProduction g true s = X.map k) (hblock : ∀ x, isBlockLike (k x).1 = false)
    (hrange : ∀ x, isRange (k x).1 = false) (hend : ∀ x, CallEnd (k x).2.rest) :
    statementExprProduction g s = X.map k := by
  rw [statementExprProduction, run_bind_eq (a := s) rfl,
    run_bind_eq (run_outerAttributes_none (hs.isMark_eq_false (c := '#') rfl (by decide))),
    run_bind_eq (a := s) rfl, run_bind_eq (a := s.rest) rfl, hs.startsBlockLike_eq_false]
  refine run_bind_map hunary fun x => ?_
  beta_reduce
  rw [run_bind_eq (a := (k x).2.rest) rfl, hblock x]
  exact run_climb_end (hend x) (hrange x)

/-- Whether an expression has to end in a semicolon, if another statement follows. -/
def needsEnd (value : Node) : Bool :=
  match value.role with
  | .macroCall call => call.delimiter != .brace
  | _ => !isBlockLike value

/-- A statement that starts with a path and is no macro call of its own is an expression. -/
theorem run_statement_of_expr (hs : PathStart s.rest) (hkind : macroStart s = .ok (.none, s))
    (hvalue : g.statementExpr s = X.map k) (hend : ∀ x, CallEnd (k x).2.rest)
    (after : Stream → List Node → Parser Node) :
    ∃ b : γ → Bool, statement g after s = X.map fun x =>
      ((.mk .statement (used s (finished (k x).2)) [(k x).1], b x), finished (k x).2) := by
  refine ⟨fun x => (k x).2.rest.isEmpty && needsEnd (k x).1, ?_⟩
  rw [statement, run_bind_eq (a := s) rfl,
    run_bind_eq (run_outerAttributes_none (hs.isMark_eq_false (c := '#') rfl (by decide))),
    run_bind_eq hkind, run_bind_eq (a := s.rest) rfl,
    hs.isWord_eq_false (w := "let") (by decide) (by decide), hs.startsItem_eq_false]
  refine run_bind_map hvalue fun x => ?_
  have hx := hend x
  beta_reduce
  generalize k x = v at hx ⊢
  obtain ⟨value, rest, n, e, stray⟩ := v
  cases hx <;> rfl

/-- A macro call that is a statement of its own. -/
theorem run_statement_of_macro (hs : PathStart s.rest) (hkind : macroStart s = .ok (.statement, s))
    {call : Node} (hcall : macroStatement s = .ok (call, t)) (hend : CallEnd t.rest)
    (after : Stream → List Node → Parser Node) :
    statement g after s
      = .ok ((.mk .statement (used s (finished t)) [call], false), finished t) := by
  rw [statement, run_bind_eq (a := s) rfl,
    run_bind_eq (run_outerAttributes_none (hs.isMark_eq_false (c := '#') rfl (by decide))),
    run_bind_eq hkind, run_bind_eq (a := s.rest) rfl]
  dsimp only
  rw [run_bind_eq hcall]
  obtain ⟨rest, n, e, stray⟩ := t
  cases hend <;> rfl

theorem run_statements_of_last (hs : PathStart s.rest) {st : γ → Node} {b : γ → Bool}
    {t : γ → Stream} (h : statement g (itemAfter g) s = X.map fun x => ((st x, b x), t x))
    (ht : ∀ x, (t x).rest = []) :
    statementsProduction g s = X.map fun x => ([st x], t x) := by
  show statementsLoop g (itemAfter g) (s.rest.length + 1) s = _
  have hnil : s.rest.isEmpty = false := by
    revert hs
    generalize s.rest = ts
    rintro (_ | _) <;> rfl
  rw [statementsLoop, run_bind_eq (a := s.rest) rfl, hs.isMark_eq_false (c := ';') rfl (by decide)]
  show (atEnd >>= _) s = _
  rw [run_bind_eq (a := s.rest.isEmpty) rfl, hnil]
  refine run_bind_map h fun x => ?_
  show (atEnd >>= _) (t x) = _
  rw [run_bind_eq (a := (t x).rest.isEmpty) rfl, ht x]
  rfl

/-! ## The two forms of a call -/

variable {rooted : Bool} {segs : List String} {us ts w : List Token} {n : Nat} {e : Position}
  {stray : Option Fault}

/-- The callee of a call. -/
theorem run_pathExpr_callee (h : PathTokens rooted segs us) (hsegs : ∀ x ∈ segs, IsSegment x)
    {o c : Span} :
    ∃ callee, pathExpr g true ⟨us ++ .group .paren o c ts :: w, n, e, stray⟩
      = .ok (.mk (.path false segs) callee [],
        ⟨.group .paren o c ts :: w, n + us.length, e, stray⟩) := by
  let s : Stream := ⟨us ++ .group .paren o c ts :: w, n, e, stray⟩
  let t : Stream := ⟨.group .paren o c ts :: w, n + us.length, e, stray⟩
  refine ⟨used s t, ?_⟩
  have hpath : qualifiedPath g true s = .ok (plainPath rooted segs, t) := run_qualifiedPath h hsegs rfl rfl
  rw [pathExpr, run_bind_eq (a := s) rfl, run_bind_eq hpath, run_bind_eq (a := t.rest) rfl]
  show nodeSince s (.path false (plainPath rooted segs).segments) (plainPath rooted segs).parts t = _
  rw [segments_plainPath, parts_plainPath]
  rfl

/-- A call of a function depends on its arguments. -/
theorem run_unary_call (h : PathTokens rooted segs us) (hsegs : ∀ x ∈ segs, IsSegment x)
    (hlength : 2 ≤ segs.length) (hw : CallEnd w) {o c : Span} :
    ∃ callee call, unaryProduction g true ⟨us ++ .group .paren o c ts :: w, n, e, stray⟩
      = (commaList (g.expr true) ⟨ts, 0, c.start, stray⟩).map fun x =>
        (.mk .call call (.mk (.path false segs) callee [] :: x.1),
          ⟨w, n + us.length + 1, e, leftover .paren x.2⟩) := by
  let s : Stream := ⟨us ++ .group .paren o c ts :: w, n, e, stray⟩
  let t : Stream := ⟨w, n + us.length + 1, e, stray⟩
  obtain ⟨callee, hcallee⟩ : ∃ callee, pathExpr g true s = .ok (.mk (.path false segs) callee [], _) :=
    run_pathExpr_callee h hsegs
  refine ⟨callee, used s t, run_unary_of_path (h.start hsegs hlength) hcallee ?_⟩
  refine run_bind_map (k := fun x => (some (.mk .call (used s t)
    (.mk (.path false segs) callee [] :: x.1)), ⟨w, n + us.length + 1, e, leftover .paren x.2⟩)) ?_
    fun x => run_bind_eq (run_trailer_end hw)
  rw [trailer, run_bind_eq (a := .group .paren o c ts :: w) rfl,
    if_pos (show isGroup .paren (.group .paren o c ts :: w) = true from rfl)]
  exact run_bind_map run_group fun x => rfl

/-- A macro call does not read its arguments. -/
theorem run_pathExpr_macro (h : PathTokens rooted segs us) (hsegs : ∀ x ∈ segs, IsSegment x)
    {d : Delimiter} {m o c : Span} :
    ∃ call, pathExpr g true ⟨us ++ .punct '!' false m :: .group d o c ts :: w, n, e, stray⟩
      = .ok (.mk (.macroCall ⟨segs, d, c, ts⟩) call [], ⟨w, n + us.length + 2, e, stray⟩) := by
  let s : Stream := ⟨us ++ .punct '!' false m :: .group d o c ts :: w, n, e, stray⟩
  let t : Stream := ⟨.punct '!' false m :: .group d o c ts :: w, n + us.length, e, stray⟩
  refine ⟨used s ⟨w, n + us.length + 2, e, stray⟩, ?_⟩
  have hpath : qualifiedPath g true s = .ok (plainPath rooted segs, t) := run_qualifiedPath h hsegs rfl rfl
  rw [pathExpr, run_bind_eq (a := s) rfl, run_bind_eq hpath, run_bind_eq (a := t.rest) rfl,
    plain_plainPath, segments_plainPath]
  rfl

theorem run_macroStart_call (h : PathTokens rooted segs us) (hsegs : ∀ x ∈ segs, IsSegment x)
    {o c : Span} :
    macroStart ⟨us ++ .group .paren o c ts :: w, n, e, stray⟩
      = .ok (.none, ⟨us ++ .group .paren o c ts :: w, n, e, stray⟩) := by
  rcases run_modPath (v := .group .paren o c ts :: w) h hsegs rfl with hpath | ⟨f, hpath⟩
  · exact run_macroStart_ok hpath
  · exact run_macroStart_error hpath

/-- A call of a function as the last statement of a block. -/
theorem run_statements_call {depth : Nat} (h : PathTokens rooted segs us)
    (hsegs : ∀ x ∈ segs, IsSegment x) (hlength : 2 ≤ segs.length) (hw : CallEnd w) {o c : Span} :
    ∃ callee call whole, (ofDepth (depth + 2)).statements ⟨us ++ .group .paren o c ts :: w, n, e, stray⟩
      = (commaList ((ofDepth depth).expr true) ⟨ts, 0, c.start, stray⟩).map fun x =>
        ([.mk .statement whole [.mk .call call (.mk (.path false segs) callee [] :: x.1)]],
          ⟨[], n + us.length + 1 + w.length, e, leftover .paren x.2⟩) := by
  have hs := h.start (v := .group .paren o c ts :: w) hsegs hlength
  obtain ⟨callee, call, hunary⟩ := run_unary_call (g := ofDepth depth) h hsegs hlength hw
  have hvalue : (ofDepth (depth + 1)).statementExpr ⟨us ++ .group .paren o c ts :: w, n, e, stray⟩ = _ :=
    run_statementExpr_of_unary hs hunary (fun _ => rfl) (fun _ => rfl) fun _ => hw
  obtain ⟨b, hstatement⟩ :=
    run_statement_of_expr hs (run_macroStart_call h hsegs) hvalue (fun _ => hw) (itemAfter _)
  exact ⟨callee, call, used ⟨us ++ .group .paren o c ts :: w, n, e, stray⟩
    ⟨[], n + us.length + 1 + w.length, e, stray⟩, run_statements_of_last hs hstatement fun _ => rfl⟩

/-- A macro call is a statement of its own only if it is in braces and no keyword in its path
stands against it. -/
theorem run_macroStart_macro (h : PathTokens rooted segs us) (hsegs : ∀ x ∈ segs, IsSegment x)
    (hw : CallEnd w) {d : Delimiter} {m o c : Span} {s : Stream}
    (hs : s = ⟨us ++ .punct '!' false m :: .group d o c ts :: w, n, e, stray⟩) :
    macroStart s = .ok (.none, s) ∨ macroStart s = .ok (.statement, s) ∧ modPath s = .ok
      ((rooted, segs), ⟨.punct '!' false m :: .group d o c ts :: w, n + us.length, e, stray⟩) := by
  subst hs
  rcases run_modPath (v := .punct '!' false m :: .group d o c ts :: w) h hsegs rfl with
    hpath | ⟨f, hpath⟩
  · have hstart := run_macroStart_ok hpath
    cases d with
    | paren => exact .inl hstart
    | bracket => exact .inl hstart
    | brace =>
        refine .inr ⟨?_, hpath⟩
        cases hw <;> exact hstart
  · exact .inl (run_macroStart_error hpath)

theorem run_macroStatement {d : Delimiter} {m o c : Span}
    (hpath : modPath ⟨us ++ .punct '!' false m :: .group d o c ts :: w, n, e, stray⟩
      = .ok ((rooted, segs), ⟨.punct '!' false m :: .group d o c ts :: w, n + us.length, e, stray⟩)) :
    ∃ call, macroStatement ⟨us ++ .punct '!' false m :: .group d o c ts :: w, n, e, stray⟩
      = .ok (.mk (.macroCall ⟨segs, d, c, ts⟩) call [], ⟨w, n + us.length + 2, e, stray⟩) := by
  let s : Stream := ⟨us ++ .punct '!' false m :: .group d o c ts :: w, n, e, stray⟩
  refine ⟨used s ⟨w, n + us.length + 2, e, stray⟩, ?_⟩
  rw [macroStatement, run_bind_eq (a := s) rfl, run_bind_eq hpath]
  rfl

/-- A macro call as the last statement of a block, whatever it is called on. -/
theorem run_statements_macro {depth : Nat} (h : PathTokens rooted segs us)
    (hsegs : ∀ x ∈ segs, IsSegment x) (hlength : 2 ≤ segs.length) (hw : CallEnd w) {d : Delimiter}
    {m o c : Span} :
    ∃ call whole, (ofDepth (depth + 2)).statements
        ⟨us ++ .punct '!' false m :: .group d o c ts :: w, n, e, stray⟩
      = .ok ([.mk .statement whole [.mk (.macroCall ⟨segs, d, c, ts⟩) call []]],
          ⟨[], n + us.length + 2 + w.length, e, stray⟩) := by
  have hs := h.start (v := .punct '!' false m :: .group d o c ts :: w) hsegs hlength
  let s : Stream := ⟨us ++ .punct '!' false m :: .group d o c ts :: w, n, e, stray⟩
  let t : Stream := ⟨w, n + us.length + 2, e, stray⟩
  let g := ofDepth (depth + 1)
  have hstatement : ∃ call b, statement g (itemAfter g) s = (Except.ok () : Except Fault Unit).map
      fun _ => ((.mk .statement (used s (finished t)) [.mk (.macroCall ⟨segs, d, c, ts⟩) call []], b),
        finished t) := by
    rcases run_macroStart_macro (s := s) h hsegs hw rfl with hnone | ⟨hkind, hpath⟩
    · obtain ⟨call, hcall⟩ : ∃ call, pathExpr (ofDepth depth) true s = .ok (_, t) :=
        run_pathExpr_macro h hsegs
      have hunary := run_unary_of_path (X := .ok ()) (k := fun _ => (_, t)) hs hcall
        (run_bind_eq (run_trailer_end hw))
      have hvalue : g.statementExpr s = _ :=
        run_statementExpr_of_unary hs hunary (fun _ => rfl) (fun _ => rfl) fun _ => hw
      obtain ⟨b, hstatement⟩ := run_statement_of_expr hs hnone hvalue (fun _ => hw) (itemAfter g)
      exact ⟨call, b (), hstatement⟩
    · obtain ⟨call, hcall⟩ := run_macroStatement hpath
      exact ⟨call, false, run_statement_of_macro hs hkind hcall hw (itemAfter g)⟩
  obtain ⟨call, b, hstatement⟩ := hstatement
  exact ⟨call, used s (finished t), run_statements_of_last hs hstatement fun _ => rfl⟩

end Calls

/-! ## Scripts -/

section Scripts

variable {g : Grammar} {γ : Type} {X : Except Fault γ} {k : γ → List Node × Stream} {body : List Token}
  {n : Nat} {e : Position} {o c : Span}

theorem run_innerAttributes_none {s : Stream} (h : isMark "#" s.rest = false) :
    innerAttributes g s = .ok ([], s) := by
  show steps _ (s.rest.length + 1) s = _
  refine run_bind_eq (a := none) (t := s) ?_
  show (if isMark "#" s.rest && _ then _ else _ : Parser (Option Node)) s = _
  rw [h]
  rfl

theorem run_functionBody (hbody : isMark "#" body = false)
    (h : g.statements ⟨body, 0, c.start, none⟩ = X.map k) :
    functionBody g ⟨[.group .brace o c body], n, e, none⟩ = X.map fun x =>
      (([], .mk .block [.group .brace o c body] (k x).1), ⟨[], n + 1, e, leftover .brace (k x).2⟩) := by
  have hcontent : (do
      let attributes ← innerAttributes g
      return (attributes, ← g.statements) : Parser (List Node × List Node))
        ⟨body, 0, c.start, none⟩ = X.map fun x => (([], (k x).1), (k x).2) := by
    rw [run_bind_eq (run_innerAttributes_none hbody)]
    exact run_bind_map h fun x => rfl
  rw [functionBody, run_bind_eq (a := ⟨[.group .brace o c body], n, e, none⟩) rfl]
  refine run_bind_map (run_group_map hcontent) fun x => ?_
  show Except.ok (([], Node.mk _ ([Token.group .brace o c body].take (n + 1 - n)) _), _) = _
  rw [Nat.add_sub_cancel_left]
  rfl

/-- The tokens of an entry point with the given body. -/
def entryTokens (a b p q o c : Span) (body : List Token) : List Token :=
  [.ident "fn" a, .ident "main" b, .group .paren p q [], .group .brace o c body]

variable {a b p q : Span}

theorem run_signature : signature g false ⟨entryTokens a b p q o c body, n, e, none⟩
    = .ok (("main", []), ⟨[.group .brace o c body], n + 3, e, none⟩) := rfl

theorem run_declared (hbody : isMark "#" body = false)
    (h : g.statements ⟨body, 0, c.start, none⟩ = X.map k) :
    declared g ⟨entryTokens a b p q o c body, n, e, none⟩ = X.map fun x =>
      ((.functionDecl "main", [.mk .block [.group .brace o c body] (k x).1]),
        ⟨[], n + 4, e, leftover .brace (k x).2⟩) := by
  show functionItem g ⟨entryTokens a b p q o c body, n, e, none⟩ = _
  rw [functionItem, run_bind_eq (a := false) rfl, run_bind_eq run_signature]
  dsimp only
  rw [run_bind_eq (a := false) rfl]
  exact run_bind_map (run_functionBody hbody h) fun x => rfl

/-- A file that is only its entry point depends on the statements of it. -/
theorem run_file_of_entry {depth : Nat} (hbody : isMark "#" body = false)
    (h : (ofDepth depth).statements ⟨body, 0, c.start, none⟩ = X.map k) :
    ∃ whole, fileProduction (ofDepth (depth + 1)) ⟨entryTokens a b p q o c body, n, e, none⟩
      = X.map fun x => (⟨[], [.mk (.functionDecl "main") whole
          [.mk .block [.group .brace o c body] (k x).1]]⟩,
        ⟨[], n + 4, e, leftover .brace (k x).2⟩) := by
  let s : Stream := ⟨entryTokens a b p q o c body, n, e, none⟩
  let main (x : γ) : Node := .mk (.functionDecl "main") (used s ⟨[], n + 4, e, none⟩)
    [.mk .block [.group .brace o c body] (k x).1]
  let t (x : γ) : Stream := ⟨[], n + 4, e, leftover .brace (k x).2⟩
  have hitem : (ofDepth (depth + 1)).item s = X.map fun x => (main x, t x) := by
    show itemProduction (ofDepth depth) s = _
    rw [itemProduction, run_bind_eq (a := s) rfl, run_bind_eq (run_outerAttributes_none rfl)]
    exact run_bind_map (run_declared hbody h) fun x => rfl
  have hitems : untilEnd (ofDepth (depth + 1)).item s = X.map fun x => ([main x], t x) := by
    show steps _ (4 + 1) s = _
    rw [steps]
    refine run_bind_map (k := fun x => (some (main x), t x)) ?_ fun x => rfl
    rw [run_bind_eq (a := false) rfl]
    exact run_bind_map hitem fun x => rfl
  refine ⟨used s ⟨[], n + 4, e, none⟩, ?_⟩
  rw [fileProduction, run_bind_eq (run_innerAttributes_none rfl)]
  exact run_bind_map hitems fun x => rfl

/-- The tree of a script that is only an entry point with one statement. -/
def entryTree (whole block statement : List Token) (value : Node) : File :=
  ⟨[], [.mk (.functionDecl "main") whole [.mk .block block [.mk .statement statement [value]]]]⟩

/-- The depth at which the arguments of a call are read in a script of these tokens. -/
def argumentDepth (ts : List Token) : Nat := 2 * sizeAll ts + 5

variable {rooted : Bool} {segs : List String} {us ts w all : List Token} {o' c' m : Span}
  (h : PathTokens rooted segs us) (hsegs : ∀ x ∈ segs, IsSegment x) (hlength : 2 ≤ segs.length)
  (hw : CallEnd w)

include h hsegs hlength hw

/-- A script that calls a function depends on the arguments of the call. -/
theorem run_file_call (hall : all = entryTokens a b p q o c (us ++ .group .paren o' c' ts :: w)) :
    ∃ whole block statement call callee, fileProduction (.forTokens all) ⟨all, 0, .start, none⟩
      = (commaList ((ofDepth (argumentDepth all)).expr true) ⟨ts, 0, c'.start, none⟩).map fun x =>
        (entryTree whole block statement
            (.mk .call call (.mk (.path false segs) callee [] :: x.1)),
          ⟨[], 4, .start, leftover .paren x.2⟩) := by
  subst hall
  obtain ⟨callee, call, statement, hstatements⟩ := run_statements_call h hsegs hlength hw
  obtain ⟨whole, hfile⟩ := run_file_of_entry
    ((h.start hsegs hlength).isMark_eq_false (c := '#') rfl (by decide)) hstatements
  simp only [leftover_nil] at hfile
  exact ⟨whole, [.group .brace o c (us ++ .group .paren o' c' ts :: w)], statement, call, callee, hfile⟩

/-- A script that calls a macro is read whatever the macro is called on. -/
theorem run_file_macro {d : Delimiter}
    (hall : all = entryTokens a b p q o c (us ++ .punct '!' false m :: .group d o' c' ts :: w)) :
    ∃ whole block statement call, fileProduction (.forTokens all) ⟨all, 0, .start, none⟩
      = .ok (entryTree whole block statement (.mk (.macroCall ⟨segs, d, c', ts⟩) call []),
          ⟨[], 4, .start, none⟩) := by
  subst hall
  obtain ⟨call, statement, hstatements⟩ := run_statements_macro h hsegs hlength hw
  obtain ⟨whole, hfile⟩ := run_file_of_entry (X := .ok ()) (k := fun _ => (_, _))
    ((h.start hsegs hlength).isMark_eq_false (c := '#') rfl (by decide)) hstatements
  exact ⟨whole, [.group .brace o c (us ++ .punct '!' false m :: .group d o' c' ts :: w)], statement, call,
    hfile⟩

end Scripts

end Overlay.Source
