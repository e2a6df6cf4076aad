import Overlay.Proofs.Parsing.Likeness

/-!
# Parsers that agree without places

Two parsers are alike if on streams that are the same without places they give results that are the
same without places, be it a value or a fault. They need to agree only on streams that are short
enough for the depth of the grammars they use: the bound leaves a margin of at most two, and a
parser that has read a token is left with no margin.
-/

set_option synthInstance.maxSize 100000
set_option synthInstance.maxHeartbeats 200000

namespace Overlay.Source.Parser

open Token

/-! ## Streams that are alike -/

section Streams

variable {s s' : Stream}

theorem bareAll_rest (h : Like s s') : bareAll s.rest = bareAll s'.rest :=
  congrArg Stream.rest h.eq

instance (s s' : Stream) [h : Like s s'] : Like s.rest s'.rest := ⟨bareAll_rest h⟩

theorem like_stream {rest rest' : List Token} (hrest : bareAll rest = bareAll rest')
    {taken : Nat} {ending ending' : Position} {stray stray' : Option Fault}
    (hstray : bare stray = bare stray') :
    Like (⟨rest, taken, ending, stray⟩ : Stream) ⟨rest', taken, ending', stray'⟩ where
  eq := by
    show (⟨bareAll rest, taken, .start, bare stray⟩ : Stream) = ⟨bareAll rest', _, .start, _⟩
    rw [hrest, hstray]

theorem like_taken (h : Like s s') : s.taken = s'.taken := by
  have h := congrArg Stream.taken h.eq
  exact h

instance (s s' : Stream) [h : Like s s'] : Like s.taken s'.taken := ⟨like_taken h⟩

theorem bare_stray (h : Like s s') : bare s.stray = bare s'.stray := congrArg Stream.stray h.eq

/-- All that is seen of a fault without its place is that there is one. -/
theorem bare_fault_eq_iff {x y : Option Fault} : bare x = bare y ↔ x.isSome = y.isSome := by
  cases x <;> cases y <;> simp [bare]

theorem isSome_head?_rest (h : Like s s') : s.rest.head?.isSome = s'.rest.head?.isSome := by
  have h := congrArg List.length (bareAll_rest h)
  rw [length_bareAll, length_bareAll] at h
  cases hs : s.rest <;> cases hs' : s'.rest <;> simp_all

end Streams

/-! ## Parsers -/

section Combinators

variable {α β : Type} [Bare α] [Bare β] {k : Nat} {m : Fin 3}

/-- The parsers give the same without places, as far as the bound goes. -/
class Alike (k : Nat) (m : Fin 3) (p q : Parser α) : Prop where
  run : ∀ {s s' : Stream}, Like s s' → 2 * sizeAll s.rest + 2 ≤ k + m → bare (p s) = bare (q s')

theorem Alike.mono {p q : Parser α} (h : Alike k 1 p q) : Alike k 0 p q where
  run hs hk := h.run hs (Nat.le_succ_of_le hk)

/-- Two results that are the same without places. -/
theorem alike_result {x y : Except Fault (α × Stream)} (h : bare x = bare y) :
    (∃ a t a' t', x = .ok (a, t) ∧ y = .ok (a', t') ∧ Like a a' ∧ Like t t') ∨
      ∃ e e', x = .error e ∧ y = .error e' := by
  match x, y, h with
  | .ok (a, t), .ok (a', t'), h =>
      simp only [bare_ok, bare_pair, Except.ok.injEq, Prod.mk.injEq] at h
      exact .inl ⟨a, t, a', t', rfl, rfl, ⟨h.1⟩, ⟨h.2⟩⟩
  | .error e, .error e', _ => exact .inr ⟨e, e', rfl, rfl⟩
  | .ok (a, t), .error e, h => simp at h
  | .error e, .ok (a, t), h => simp at h

theorem bare_result {a a' : α} {t t' : Stream} (ha : Like a a') (ht : Like t t') :
    bare (.ok (a, t) : Except Fault (α × Stream)) = bare (.ok (a', t')) := by
  rw [bare_ok, bare_ok, bare_pair, bare_pair, ha.eq, ht.eq]

/-- The margin that a parser leaves of `m`: none if it has read something. -/
class Leaves (p : Parser α) (m : Fin 3) (m' : outParam (Fin 3)) : Prop where
  bound : ∀ {s t : Stream} {a : α} {k : Nat}, p s = .ok (a, t) →
    2 * sizeAll s.rest + 2 ≤ k + m → 2 * sizeAll t.rest + 2 ≤ k + m'

instance (priority := high) (p : Parser α) [Forward p] [Strict p] : Leaves p m 0 where
  bound {s t a k} hp hk := by
    obtain ⟨n, hn, hrest, -⟩ := (Forward.onward hp).rest
    have hshort := Strict.shorter hp
    have hsize := sizeAll_drop s.rest n hn
    rw [hrest, List.length_drop] at hshort
    rw [hrest]
    have := m.isLt
    show _ ≤ k + 0
    omega

instance (p : Parser α) [Forward p] : Leaves p m m where
  bound {s t a k} hp hk := by
    obtain ⟨n, hn, hrest, -⟩ := (Forward.onward hp).rest
    have hsize := sizeAll_drop s.rest n hn
    rw [hrest]
    omega

instance (n : Nat) : Leaves (skip n) m m where
  bound {s t a k} hp hk := by
    cases hp
    have hle : sizeAll (s.rest.drop n) ≤ sizeAll s.rest := by
      by_cases hn : n ≤ s.rest.length
      · have := sizeAll_drop s.rest n hn
        omega
      · rw [List.drop_eq_nil_of_le (by omega)]
        exact Nat.zero_le _
    show 2 * sizeAll (s.rest.drop n) + 2 ≤ k + m
    omega

instance (n : Nat) (f : Unit → Parser α) [Forward (f ())] : Leaves (skip n >>= f) m m where
  bound hp hk := by
    obtain ⟨_, t, ht, hp⟩ := run_bind_ok hp
    exact Leaves.bound hp (Leaves.bound ht hk)

instance Alike.bind {m' : Fin 3} {p q : Parser α} {f f' : α → Parser β} [Leaves p m m']
    [hp : Alike k m p q] [hf : ∀ x : Twin α, Alike k m' (f x.one) (f' x.two)] :
    Alike k m (p >>= f) (q >>= f') where
  run {s s'} hs hk := by
    show bare ((p s).bind fun x => f x.1 x.2) = bare ((q s').bind fun x => f' x.1 x.2)
    obtain ⟨a, t, a', t', hpa, hqa, ha, ht⟩ | ⟨e, e', hpe, hqe⟩ := alike_result (hp.run hs hk)
    · rw [hpa, hqa]
      exact (hf ⟨a, a', ha⟩).run ht (Leaves.bound hpa hk)
    · rw [hpe, hqe]
      rfl

theorem Alike.andThen {m' : Fin 3} {p q : Parser α} {f f' : α → Parser β} [Leaves p m m']
    (hp : Alike k m p q) (hf : ∀ a a', Like a a' → Alike k m' (f a) (f' a')) :
    Alike k m (p >>= f) (q >>= f') :=
  @Alike.bind _ _ _ _ _ _ m' _ _ _ _ _ hp fun x => hf x.one x.two x.like

instance (priority := high) Alike.bindRigid {m' : Fin 3} {p q : Parser α} {f f' : α → Parser β}
    [Rigid α] [Leaves p m m'] [hp : Alike k m p q] [hf : ∀ a, Alike k m' (f a) (f' a)] :
    Alike k m (p >>= f) (q >>= f') :=
  @Alike.bind _ _ _ _ _ _ m' _ _ _ _ _ hp fun x => by
    rw [x.like.rigid]
    exact hf x.two

instance (priority := high) Alike.bindFst {γ : Type} [Bare γ] {m' : Fin 3} {p q : Parser (γ × α)}
    {f f' : γ × α → Parser β} [Rigid γ] [Leaves p m m'] [hp : Alike k m p q]
    [hf : ∀ c (x : Twin α), Alike k m' (f (c, x.one)) (f' (c, x.two))] :
    Alike k m (p >>= f) (q >>= f') :=
  @Alike.bind _ _ _ _ _ _ m' _ _ _ _ _ hp fun x => by
    obtain ⟨⟨c, a⟩, ⟨c', a'⟩, h⟩ := x
    obtain rfl : c = c' := Rigid.eq (congrArg Prod.fst h.eq)
    exact hf c ⟨a, a', ⟨congrArg Prod.snd h.eq⟩⟩

instance (priority := high) Alike.bindSnd {γ : Type} [Bare γ] {m' : Fin 3} {p q : Parser (α × γ)}
    {f f' : α × γ → Parser β} [Rigid γ] [Leaves p m m'] [hp : Alike k m p q]
    [hf : ∀ (x : Twin α) c, Alike k m' (f (x.one, c)) (f' (x.two, c))] :
    Alike k m (p >>= f) (q >>= f') :=
  @Alike.bind _ _ _ _ _ _ m' _ _ _ _ _ hp fun x => by
    obtain ⟨⟨a, c⟩, ⟨a', c'⟩, h⟩ := x
    obtain rfl : c = c' := Rigid.eq (congrArg Prod.snd h.eq)
    exact hf ⟨a, a', ⟨congrArg Prod.fst h.eq⟩⟩ c

instance (a a' : α) [h : Like a a'] : Alike k m (pure a : Parser α) (pure a') where
  run hs _ := bare_result h hs

instance Alike.ite {c c' : Bool} {p p' q q' : Parser α} [hc : Like c c'] [hp : Alike k m p p']
    [hq : Alike k m q q'] :
    Alike k m (if c = true then p else q) (if c' = true then p' else q') := by
  obtain rfl := hc.rigid
  split
  · exact hp
  · exact hq

theorem Alike.cond {c c' : Bool} {p p' q q' : Parser α} (hc : Like c c') (hp : Alike k m p p')
    (hq : Alike k m q q') :
    Alike k m (if c = true then p else q) (if c' = true then p' else q') := Alike.ite

instance (priority := low) {c : Prop} [Decidable c] {p p' q q' : Parser α} [hp : Alike k m p p']
    [hq : Alike k m q q'] : Alike k m (if c then p else q) (if c then p' else q') := by
  split
  · exact hp
  · exact hq

instance (f f' : Stream → Fault) :
    Alike k m (fun s => .error (f s) : Parser α) (fun s => .error (f' s)) where
  run _ _ := rfl

instance (text text' : String) : Alike k m (refuse text : Parser α) (refuse text') where
  run _ _ := rfl

instance (l l' : List String) : Alike k m (expected l : Parser α) (expected l') where
  run _ _ := rfl

instance (p p' : Position) (text text' : String) :
    Alike k m (refuseAt p text : Parser α) (refuseAt p' text') where
  run _ _ := rfl

instance (f f' : Fault) : Alike k m (throw f : Parser α) (throw f') where
  run _ _ := rfl

instance : Alike k m ahead ahead where
  run hs _ := bare_result ⟨bareAll_rest hs⟩ hs

instance : Alike k m atEnd atEnd where
  run hs _ := by
    have : Like _ _ := hs
    exact bare_result inferInstance hs

instance : Alike k m (get : Parser Stream) get where
  run hs _ := bare_result hs hs

instance (n n' : Nat) [hn : Like n n'] : Alike k m (skip n) (skip n') where
  run {s s'} hs _ := by
    obtain rfl := hn.rigid
    have hrest : Like (s.rest.drop n) (s'.rest.drop n) := inferInstance
    refine bare_result inferInstance ?_
    rw [like_taken hs]
    exact like_stream hrest.eq (bare_stray hs)

instance (p q : Parser α) [h : Alike k m p q] : Alike k m (peek p) (peek q) where
  run {s s'} hs hk := by
    unfold peek
    obtain ⟨a, t, a', t', hpa, hqa, ha, ht⟩ | ⟨e, e', hpe, hqe⟩ := alike_result (h.run hs hk)
    · rw [hpa, hqa]
      exact bare_result ⟨congrArg Except.ok ha.eq⟩ hs
    · rw [hpe, hqe]
      exact bare_result ⟨rfl⟩ hs

instance (p q : Parser α) [h : Alike k m p q] : Alike k m (attempt p) (attempt q) where
  run {s s'} hs hk := by
    unfold attempt
    obtain ⟨a, t, a', t', hpa, hqa, ha, ht⟩ | ⟨e, e', hpe, hqe⟩ := alike_result (h.run hs hk)
    · rw [hpa, hqa]
      exact bare_result inferInstance ht
    · rw [hpe, hqe]
      exact bare_result inferInstance hs

/-- The tokens read since alike streams are the same without the joints between them. -/
theorem Alike.since {before before' : Stream} (hbefore : Like before before')
    {f f' : List Token → Parser α}
    (hf : ∀ ts us : List Token, ts.map (Token.bare false) = us.map (Token.bare false) →
      Alike k m (f ts) (f' us)) :
    Alike k m (Parser.since before >>= f) (Parser.since before' >>= f') where
  run {s s'} hs hk := by
    show bare (f (before.rest.take (s.taken - before.taken)) s) =
      bare (f' (before'.rest.take (s'.taken - before'.taken)) s')
    refine (hf _ _ ?_).run hs hk
    rw [like_taken hs, like_taken hbefore, List.map_take, List.map_take,
      map_bare_of_bareAll (bareAll_rest hbefore)]

instance (before before' : Stream) (role role' : Role) (children children' : List Node)
    [hbefore : Like before before'] [hrole : Like role role'] [hchildren : Like children children'] :
    Alike k m (nodeSince before role children) (nodeSince before' role' children') := by
  refine Alike.since hbefore fun ts us h => ?_
  have : Like (Node.mk role ts children) (.mk role' us children') :=
    ⟨by rw [bare_node, bare_node, hrole.eq, h, hchildren.eq]⟩
  infer_instance

instance (role role' : Role) (p q : Parser (List Node)) {m' : Fin 3} [Like role role']
    [Leaves p m m'] [Alike k m p q] : Alike k m (node role p) (node role' q) := by
  unfold node
  infer_instance

instance (priority := low) (role : Role) (p : Parser (List Node)) {m' : Fin 3} [Leaves p m m'] :
    Leaves (node role p) m m' where
  bound hp hk := by
    obtain ⟨_, _, hget, hp⟩ := run_bind_ok hp
    cases hget
    obtain ⟨_, _, hparts, hnode⟩ := run_bind_ok hp
    have hk := Leaves.bound hparts hk
    obtain ⟨_, _, hsince, hnode⟩ := run_bind_ok hnode
    cases hsince
    cases hnode
    exact hk

instance (w : String) [Mark w] : Alike k m (mark w) (mark w) := by
  unfold mark
  infer_instance

instance (w : String) [Mark w] : Alike k m (mark? w) (mark? w) := by
  unfold mark?
  infer_instance

instance (w : String) : Alike k m (word w) (word w) := by
  unfold word
  infer_instance

instance (w : String) : Alike k m (word? w) (word? w) := by
  unfold word?
  infer_instance

/-- Parsers that go by what is ahead. -/
theorem Alike.ahead {f f' : List Token → Parser α}
    (hf : ∀ ts us, Like ts us → Alike k m (f ts) (f' us)) :
    Alike k m (Parser.ahead >>= f) (Parser.ahead >>= f') :=
  .andThen inferInstance hf

/-- The parsers give the same from the two streams. -/
def AlikeFrom (k : Nat) (m : Fin 3) (s s' : Stream) (p q : Parser α) : Prop :=
  2 * sizeAll s.rest + 2 ≤ k + m → bare (p s) = bare (q s')

theorem Alike.aheadFrom {f f' : List Token → Parser α}
    (hf : ∀ s s', Like s s' → AlikeFrom k m s s' (f s.rest) (f' s'.rest)) :
    Alike k m (Parser.ahead >>= f) (Parser.ahead >>= f') where
  run {s s'} hs hk := hf s s' hs hk

theorem AlikeFrom.of {s s' : Stream} {p q : Parser α} (hs : Like s s') (h : Alike k m p q) :
    AlikeFrom k m s s' p q := h.run hs

theorem AlikeFrom.cond {s s' : Stream} {c c' : Bool} {p p' q q' : Parser α} (hc : Like c c')
    (hp : c = true → AlikeFrom k m s s' p p') (hq : AlikeFrom k m s s' q q') :
    AlikeFrom k m s s' (if c = true then p else q) (if c' = true then p' else q') := by
  obtain rfl := hc.rigid
  split
  · next h => exact hp h
  · exact hq

/-- Passing over a token that is there leaves no margin. -/
theorem AlikeFrom.skip {s s' : Stream} {n : Nat} {f f' : Unit → Parser α} (hs : Like s s')
    (h0 : 0 < n) (hn : n ≤ s.rest.length) (hf : Alike k 0 (f ()) (f' ())) :
    AlikeFrom k m s s' (Parser.skip n >>= f) (Parser.skip n >>= f') := by
  intro hk
  have hrest : Like (s.rest.drop n) (s'.rest.drop n) := inferInstance
  have ht : Like (⟨s.rest.drop n, s.taken + n, s.ending, s.stray⟩ : Stream)
      ⟨s'.rest.drop n, s'.taken + n, s'.ending, s'.stray⟩ := by
    rw [like_taken hs]
    exact like_stream hrest.eq (bare_stray hs)
  refine hf.run ht ?_
  have hsize := sizeAll_drop s.rest n hn
  have := m.isLt
  show 2 * sizeAll (s.rest.drop n) + 2 ≤ k + 0
  omega

instance : Alike k m name name := by
  refine .ahead fun ts us h => ?_
  cases h using Like.tokens_cases <;> infer_instance

instance : Alike k m anyIdent anyIdent := by
  refine .ahead fun ts us h => ?_
  cases h using Like.tokens_cases <;> infer_instance

instance : Alike k m lifetime lifetime := by
  unfold lifetime
  infer_instance

instance : Alike k m literal literal := by
  rw [literal_eq]
  infer_instance

instance : Alike k m anyGroup anyGroup := by
  refine .ahead fun ts us h => ?_
  cases h using Like.tokens_cases with
  | group d o o' c c' body body' ts us hbody _ _ =>
      have : Like c c' := ⟨rfl⟩
      infer_instance
  | _ => infer_instance

instance (d : Delimiter) (p q : Parser α) [hp : Alike k 0 p q] :
    Alike k m (group d p) (group d q) where
  run {s s'} hs hk := by
    obtain ⟨rest, taken, ending, stray⟩ := s
    obtain ⟨rest', taken', ending', stray'⟩ := s'
    have hrest : Like rest rest' := ⟨bareAll_rest hs⟩
    obtain rfl : taken = taken' := like_taken hs
    have hstray : bare stray = bare stray' := bare_stray hs
    cases hrest using Like.tokens_cases with
    | group e o o' c c' body body' ts us hbody hts _ =>
        simp only [group]
        split
        · have hsize : 2 * sizeAll body + 2 ≤ k + 0 := by
            simp only [sizeAll, size] at hk
            have := m.isLt
            omega
          have hinner : Like (⟨body, 0, c.start, stray⟩ : Stream) ⟨body', 0, c'.start, stray'⟩ :=
            like_stream hbody.eq hstray
          obtain ⟨a, t, a', t', hpa, hqa, ha, ht⟩ | ⟨e, e', hpe, hqe⟩ :=
            alike_result (hp.run hinner hsize)
          · rw [hpa, hqa]
            refine bare_result ha (like_stream hts.eq ?_)
            have hfound := bare_fault_eq_iff.mp (bare_stray ht)
            have hleft := isSome_head?_rest ht
            simp only [bare_fault_eq_iff, Option.isSome_or, Option.isSome_map, hfound, hleft]
          · rw [hpe, hqe]
            rfl
        · rfl
    | _ => rfl

/-! ## Repetition -/

instance (step step' : Parser (Option α)) [Forward step] [hstep : Alike k m step step']
    (n n' : Nat) [hn : Like n n'] : Alike k m (steps step n) (steps step' n') := by
  obtain rfl := hn.rigid
  clear hn
  induction n with
  | zero =>
      unfold steps
      infer_instance
  | succ n ih =>
      unfold steps
      refine @Alike.bind _ _ _ _ _ _ m _ _ _ _ _ hstep fun x => ?_
      obtain ⟨one, two, like⟩ := x
      cases like using Like.option_cases <;> infer_instance

instance (step step' : Parser (Option α)) [Forward step] [Alike k m step step'] :
    Alike k m (repeating step) (repeating step') := by
  unfold repeating
  infer_instance

instance (p q : Parser α) [Forward p] [Alike k m p q] : Alike k m (untilEnd p) (untilEnd q) := by
  unfold untilEnd
  infer_instance

section Separated

variable (stop stop' : List Token → Bool) (separator : String) [Mark separator]
  (p q : Parser α) [Forward p] [∀ x : Twin (List Token), Like (stop x.one) (stop' x.two)]
  [Alike k m p q]

instance (n n' : Nat) [hn : Like n n'] :
    Alike k m (separatedUntil.go stop separator p n) (separatedUntil.go stop' separator q n') := by
  obtain rfl := hn.rigid
  clear hn
  induction n with
  | zero =>
      unfold separatedUntil.go
      infer_instance
  | succ n ih =>
      unfold separatedUntil.go
      infer_instance

instance : Alike k m (separatedUntil stop separator p) (separatedUntil stop' separator q) := by
  unfold separatedUntil
  infer_instance

instance (n n' : Nat) [hn : Like n n'] :
    Alike k m (separatedWhile.go stop separator p n) (separatedWhile.go stop' separator q n') := by
  obtain rfl := hn.rigid
  clear hn
  induction n with
  | zero =>
      unfold separatedWhile.go
      infer_instance
  | succ n ih =>
      unfold separatedWhile.go
      infer_instance

instance : Alike k m (separatedWhile stop separator p) (separatedWhile stop' separator q) := by
  unfold separatedWhile
  infer_instance

end Separated

instance {γ : Type} [Rigid α] (l : List γ) (a : α) (f f' : γ → α → Parser (ForInStep α))
    [∀ c a, Forward (f c a)] [∀ c a, Alike k m (f c a) (f' c a)] :
    Alike k m (forIn l a f) (forIn l a f') := by
  induction l generalizing a with
  | nil =>
      rw [List.forIn_nil, List.forIn_nil]
      infer_instance
  | cons c l ih =>
      rw [List.forIn_cons, List.forIn_cons]
      refine @Alike.bindRigid _ _ _ _ _ _ m _ _ _ _ _ _ _ fun x => ?_
      cases x
      · infer_instance
      · exact ih _

instance Alike.commaList (p q : Parser α) [Forward p] [Alike k m p q] :
    Alike k m (commaList p) (commaList q) := by
  unfold Parser.commaList
  infer_instance

end Combinators

end Overlay.Source.Parser
