import Overlay.Source.Grammar

/-!
# Parsers only go on

No parser goes back behind a token it has read, and none forgets that a group held too
much. What a parser has read are the first tokens of what was left before it, and it counts
them.
-/

set_option synthInstance.maxSize 100000
set_option synthInstance.maxHeartbeats 200000

namespace Overlay.Source.Parser

/-- The second stream is the first one after some of its tokens. -/
structure Onward (s t : Stream) : Prop where
  rest : ∃ n, n ≤ s.rest.length ∧ t.rest = s.rest.drop n ∧ t.taken = s.taken + n
  stray : t.stray = none → s.stray = none

theorem Onward.refl (s : Stream) : Onward s s := ⟨⟨0, by simp, by simp, by simp⟩, id⟩

theorem Onward.trans {s t u : Stream} (h : Onward s t) (h' : Onward t u) : Onward s u := by
  obtain ⟨n, hn, hrest, htaken⟩ := h.rest
  obtain ⟨m, hm, hrest', htaken'⟩ := h'.rest
  refine ⟨⟨n + m, ?_, ?_, ?_⟩, fun hu => h.stray (h'.stray hu)⟩
  · rw [hrest, List.length_drop] at hm
    omega
  · rw [hrest', hrest, List.drop_drop]
  · rw [htaken', htaken, Nat.add_assoc]

/-- A parser that only goes on from the stream `s`. -/
class ForwardFrom {α : Type} (s : Stream) (p : Parser α) : Prop where
  onward : ∀ {t : Stream} {a : α}, p s = .ok (a, t) → Onward s t

/-- A parser that only goes on. -/
class Forward {α : Type} (p : Parser α) : Prop where
  onward : ∀ {s t : Stream} {a : α}, p s = .ok (a, t) → Onward s t

instance {α : Type} (s : Stream) (p : Parser α) [Forward p] : ForwardFrom s p where
  onward := Forward.onward

/-! ## Tokens that stand ahead are there -/

@[simp] theorem isMark_nil (m : String) : isMark m [] = false := by
  unfold isMark marksAhead
  split <;> simp_all

@[simp] theorem isWord_nil (w : String) : isWord w [] = false := rfl

@[simp] theorem isAnyWord_nil (ws : List String) : isAnyWord ws [] = false := by
  simp [isAnyWord]

@[simp] theorem isName_nil : isName [] = false := rfl

@[simp] theorem isLifetime_nil : isLifetime [] = false := rfl

@[simp] theorem isGroup_nil (d : Delimiter) : isGroup d [] = false := rfl

@[simp] theorem isLiteral_nil : isLiteral [] = false := rfl

/-- A token is left if something stands there. -/
theorem one_le_length {ts : List Token} {c : List Token → Bool} (hnil : c [] = false)
    (h : c ts = true) : 1 ≤ ts.length := by
  match ts with
  | [] =>
      rw [hnil] at h
      cases h
  | _ :: _ => simp

/-- Two tokens are left if something stands at the second. -/
theorem two_le_length {ts : List Token} {c : List Token → Bool} (hnil : c [] = false)
    (h : c ts.tail = true) : 2 ≤ ts.length := by
  match ts with
  | [] | [_] =>
      change c [] = true at h
      rw [hnil] at h
      cases h
  | _ :: _ :: _ => simp

theorem marksAhead_length {cs : List Char} {ts : List Token} (h : marksAhead cs ts = true) :
    cs.length ≤ ts.length ∧ 0 < cs.length := by
  induction cs, ts using marksAhead.induct with
  | case1 c d joint span rest => simp
  | case2 c more d joint span rest hmore ih =>
      rw [marksAhead] at h
      · simp only [Bool.and_eq_true] at h
        have := ih h.2
        simp only [List.length_cons]
        omega
      · exact hmore
  | case3 cs ts h1 h2 =>
      rw [marksAhead] at h
      · cases h
      · exact h1
      · exact h2

theorem isMark_length {m : String} {ts : List Token} (h : isMark m ts = true) :
    m.length ≤ ts.length ∧ 0 < m.length := by
  have := marksAhead_length h
  rwa [String.length_toList] at this

section Combinators

variable {α β : Type}

theorem run_bind_ok {p : Parser α} {f : α → Parser β} {s u : Stream} {b : β}
    (h : (p >>= f) s = .ok (b, u)) :
    ∃ a t, p s = .ok (a, t) ∧ f a t = .ok (b, u) := by
  change (p s).bind (fun x => f x.1 x.2) = _ at h
  cases hp : p s with
  | error e =>
      rw [hp] at h
      cases h
  | ok x =>
      rw [hp] at h
      exact ⟨x.1, x.2, rfl, h⟩

/-! ## Going on -/

instance (a : α) : Forward (pure a : Parser α) where
  onward h := by
    cases h
    exact .refl _

instance {p : Parser α} {f : α → Parser β} [Forward p] [∀ a, Forward (f a)] :
    Forward (p >>= f) where
  onward h := by
    obtain ⟨a, t, hp, hf⟩ := run_bind_ok h
    exact (Forward.onward hp).trans (Forward.onward hf)

theorem Forward.bind {p : Parser α} {f : α → Parser β} (hp : Forward p)
    (hf : ∀ a, Forward (f a)) : Forward (p >>= f) := inferInstance

instance Forward.ite {c : Prop} [Decidable c] {p q : Parser α} [hp : Forward p]
    [hq : Forward q] : Forward (if c then p else q) := by
  split
  · exact hp
  · exact hq

instance (f : Stream → Fault) : Forward (fun s => .error (f s) : Parser α) where
  onward h := by cases h

instance (text : String) : Forward (refuse text : Parser α) where
  onward h := by cases h

instance (alternatives : List String) : Forward (expected alternatives : Parser α) where
  onward h := by cases h

instance (p : Position) (text : String) : Forward (refuseAt p text : Parser α) where
  onward h := by cases h

instance (f : Fault) : Forward (throw f : Parser α) where
  onward h := by cases h

instance : Forward ahead where
  onward h := by
    cases h
    exact .refl _

instance : Forward atEnd where
  onward h := by
    cases h
    exact .refl _

instance : Forward (get : Parser Stream) where
  onward h := by
    cases h
    exact .refl _

instance (before : Stream) : Forward (since before) where
  onward h := by
    cases h
    exact .refl _

instance (p : Parser α) : Forward (peek p) where
  onward {s t a} h := by
    rw [peek] at h
    split at h <;> cases h <;> exact .refl _

instance (p : Parser α) [Forward p] : Forward (attempt p) where
  onward {s t a} h := by
    rw [attempt] at h
    split at h
    · next hp =>
        cases h
        exact Forward.onward hp
    · cases h
      exact .refl _

/-- Passing over tokens goes on if there are so many. -/
theorem ForwardFrom.skip {s : Stream} {n : Nat} {f : Unit → Parser α}
    (hn : n ≤ s.rest.length) (hf : Forward (f ())) : ForwardFrom s (skip n >>= f) where
  onward h := by
    obtain ⟨_, t, ht, h⟩ := run_bind_ok h
    cases ht
    refine Onward.trans ?_ (hf.onward h)
    exact ⟨⟨n, hn, rfl, rfl⟩, id⟩

theorem ForwardFrom.bind {s : Stream} {p : Parser α} {f : α → Parser β} [Forward p]
    (hf : ∀ {a t}, p s = .ok (a, t) → ForwardFrom t (f a)) : ForwardFrom s (p >>= f) where
  onward h := by
    obtain ⟨a, t, hp, h⟩ := run_bind_ok h
    exact (Forward.onward hp).trans ((hf hp).onward h)

theorem ForwardFrom.of {s : Stream} {p : Parser α} (h : Forward p) : ForwardFrom s p :=
  inferInstance

theorem ForwardFrom.skip' {s : Stream} {n : Nat} (hn : n ≤ s.rest.length) :
    ForwardFrom s (Parser.skip n) where
  onward h := by
    cases h
    exact ⟨⟨n, hn, rfl, rfl⟩, id⟩

/-- What is ahead of a stream may tell that a parser only goes on from it. -/
theorem Forward.ahead {f : List Token → Parser α} (h : ∀ s, ForwardFrom s (f s.rest)) :
    Forward (Parser.ahead >>= f) where
  onward {s t a} hs := by
    obtain ⟨_, _, hts, hf⟩ := run_bind_ok hs
    cases hts
    exact (h s).onward hf

theorem ForwardFrom.ite {s : Stream} {c : Prop} [Decidable c] {p q : Parser α}
    (hp : c → ForwardFrom s p) (hq : ¬c → ForwardFrom s q) :
    ForwardFrom s (if c then p else q) := by
  split
  · exact hp ‹_›
  · exact hq ‹_›

instance (priority := high) {f : List Token → Parser α} [h : ∀ s, ForwardFrom s (f s.rest)] :
    Forward (Parser.ahead >>= f) := .ahead h

instance {s : Stream} {c : Prop} [Decidable c] {p q : Parser α} [ForwardFrom s p]
    [ForwardFrom s q] : ForwardFrom s (if c then p else q) :=
  .ite (fun _ => inferInstance) fun _ => inferInstance

/-- What stands ahead tells that at least `n` tokens are left. -/
class Ensures (c : Prop) (n : Nat) (ts : List Token) : Prop where
  room : c → n ≤ ts.length

/-- A parser that only goes on if at least `n` tokens are left. -/
class ForwardWith (n : outParam Nat) (p : Parser α) : Prop where
  from_ : ∀ {s : Stream}, n ≤ s.rest.length → ForwardFrom s p

instance {n : Nat} {f : Unit → Parser α} [Forward (f ())] :
    ForwardWith n (Parser.skip n >>= f) where
  from_ hn := .skip hn inferInstance

instance {n : Nat} {role : Role} {p : Parser (List Node)} [ForwardWith n p] :
    ForwardWith n (node role p) where
  from_ hn := ⟨fun h => by
    obtain ⟨_, _, hget, h⟩ := run_bind_ok h
    cases hget
    obtain ⟨children, t, hp, h⟩ := run_bind_ok h
    cases h
    exact (ForwardWith.from_ hn).onward hp⟩

instance (priority := low) {n : Nat} {p : Parser α} {f : α → Parser β} [ForwardWith n p]
    [∀ a, Forward (f a)] : ForwardWith n (p >>= f) where
  from_ hn := ⟨fun h => by
    obtain ⟨a, t, hp, hf⟩ := run_bind_ok h
    exact ((ForwardWith.from_ hn).onward hp).trans (Forward.onward hf)⟩

instance (priority := high) {s : Stream} {c : Prop} [Decidable c] {n : Nat}
    {p q : Parser α} [ForwardWith n p] [Ensures c n s.rest] [ForwardFrom s q] :
    ForwardFrom s (if c then p else q) :=
  .ite (fun h => ForwardWith.from_ (Ensures.room h)) fun _ => inferInstance

instance {n : Nat} {alternatives : List String} :
    Forward (Parser.skip n >>= fun _ => (expected alternatives : Parser α)) where
  onward h := by
    obtain ⟨_, _, _, h⟩ := run_bind_ok h
    cases h

instance : Forward (Parser.ahead >>= fun ts => Parser.skip ts.length) :=
  .ahead fun _ => .skip' (Nat.le_refl _)

section Ensures

variable (ts : List Token)

instance (a b : Bool) (n : Nat) [Ensures (a = true) n ts] [Ensures (b = true) n ts] :
    Ensures ((a || b) = true) n ts where
  room h := (Bool.or_eq_true_iff.mp h).elim Ensures.room Ensures.room

instance (a b : Bool) (n : Nat) [Ensures (b = true) n ts] : Ensures ((a && b) = true) n ts where
  room h := Ensures.room (Bool.and_eq_true_iff.mp h).2

instance (a b : Bool) (n : Nat) [Ensures (a = true) n ts] : Ensures ((a && b) = true) n ts where
  room h := Ensures.room (Bool.and_eq_true_iff.mp h).1

instance (m : String) : Ensures (isMark m ts = true) 1 ts where
  room h := one_le_length (isMark_nil m) h

instance (w : String) : Ensures (isWord w ts = true) 1 ts where
  room h := one_le_length (isWord_nil w) h

instance (w : String) : Ensures (isWord w ts.tail = true) 2 ts where
  room h := two_le_length (isWord_nil w) h

instance (ws : List String) : Ensures (isAnyWord ws ts = true) 1 ts where
  room h := one_le_length (isAnyWord_nil ws) h

instance (ws : List String) : Ensures (isAnyWord ws ts.tail = true) 2 ts where
  room h := two_le_length (isAnyWord_nil ws) h

instance : Ensures (isName ts = true) 1 ts where
  room h := one_le_length isName_nil h

instance : Ensures (isLifetime ts = true) 1 ts where
  room h := one_le_length isLifetime_nil h

instance (d : Delimiter) : Ensures (isGroup d ts = true) 1 ts where
  room h := one_le_length (isGroup_nil d) h

end Ensures

instance (m : String) : Forward (mark m) := by
  unfold mark
  exact .ahead fun s => .ite (fun h => .skip' (isMark_length h).1) fun _ => inferInstance

instance (m : String) : Forward (mark? m) := by
  unfold mark?
  exact .ahead fun s =>
    .ite (fun h => .skip (isMark_length h).1 inferInstance) fun _ => inferInstance

instance (w : String) : Forward (word w) := by
  unfold word
  exact .ahead fun s =>
    .ite (fun h => .skip' (one_le_length (isWord_nil w) h)) fun _ => inferInstance

instance (w : String) : Forward (word? w) := by unfold word?; infer_instance

instance : Forward name := by
  unfold name
  refine .ahead fun s => ?_
  split
  · next hrest =>
      exact .ite (fun _ => inferInstance) fun _ => .skip (by simp [hrest]) inferInstance
  · infer_instance

instance : Forward anyIdent := by
  unfold anyIdent
  refine .ahead fun s => ?_
  split
  · next hrest => exact .skip (by simp [hrest]) inferInstance
  · infer_instance

instance : Forward lifetime := by
  unfold lifetime
  exact .ahead fun s =>
    .ite (fun h => .skip' (one_le_length isLifetime_nil h)) fun _ => inferInstance

instance : Forward literal := by
  unfold literal
  refine .ahead fun s => ?_
  split
  · next hrest => exact .skip' (by simp [hrest])
  · exact .ite (fun h => .skip' (one_le_length isLiteral_nil h)) fun _ => inferInstance

instance : Forward anyGroup := by
  unfold anyGroup
  refine .ahead fun s => ?_
  split
  · next hrest => exact .skip (by simp [hrest]) inferInstance
  · infer_instance

instance (d : Delimiter) (p : Parser α) [Forward p] : Forward (group d p) where
  onward {s t a} h := by
    rw [group] at h
    split at h
    · next e o close body rest hrest =>
        split at h
        · split at h
          · cases h
          · next b inner hp =>
              cases h
              refine ⟨⟨1, by simp [hrest], by rw [hrest]; rfl, rfl⟩, fun hstray => ?_⟩
              have hinner := (Forward.onward hp).stray
              cases hs : inner.stray with
              | none => exact hinner hs
              | some f => simp [hs] at hstray
        · cases h
    · cases h

instance (before : Stream) (role : Role) (children : List Node) :
    Forward (nodeSince before role children) := by
  unfold nodeSince
  infer_instance

instance Forward.node (role : Role) (p : Parser (List Node)) [Forward p] :
    Forward (node role p) := by
  unfold Parser.node
  infer_instance

instance (step : Parser (Option α)) [Forward step] (n : Nat) : Forward (steps step n) := by
  induction n with
  | zero =>
      unfold steps
      infer_instance
  | succ n ih =>
      unfold steps
      refine .bind inferInstance fun a => ?_
      split <;> infer_instance

instance Forward.repeating (step : Parser (Option α)) [Forward step] : Forward (repeating step) := by
  unfold Parser.repeating
  infer_instance

instance (p : Parser α) [Forward p] : Forward (untilEnd p) := by
  unfold untilEnd
  infer_instance

instance (l : List α) (b : β) (f : α → β → Parser (ForInStep β)) [∀ a b, Forward (f a b)] :
    Forward (forIn l b f) := by
  induction l generalizing b with
  | nil => exact inferInstanceAs (Forward (pure b))
  | cons a l ih =>
      rw [List.forIn_cons]
      refine .bind inferInstance fun step => ?_
      split <;> infer_instance

instance (stop : List Token → Bool) (separator : String) (p : Parser α) [Forward p] (n : Nat) :
    Forward (separatedUntil.go stop separator p n) := by
  induction n with
  | zero =>
      unfold separatedUntil.go
      infer_instance
  | succ n ih =>
      unfold separatedUntil.go
      infer_instance

instance (stop : List Token → Bool) (separator : String) (p : Parser α) [Forward p] :
    Forward (separatedUntil stop separator p) := by
  unfold separatedUntil
  infer_instance

instance Forward.commaList (p : Parser α) [Forward p] : Forward (commaList p) := by
  unfold Parser.commaList
  infer_instance

instance (stop : List Token → Bool) (separator : String) (p : Parser α) [Forward p] (n : Nat) :
    Forward (separatedWhile.go stop separator p n) := by
  induction n with
  | zero =>
      unfold separatedWhile.go
      infer_instance
  | succ n ih =>
      unfold separatedWhile.go
      infer_instance

instance (stop : List Token → Bool) (separator : String) (p : Parser α) [Forward p] :
    Forward (separatedWhile stop separator p) := by
  unfold separatedWhile
  infer_instance

/-- A parser that reads nothing. -/
class Still (p : Parser α) : Prop where
  still : ∀ {s t : Stream} {a : α}, p s = .ok (a, t) → t = s

instance (a : α) : Still (pure a : Parser α) where
  still h := by
    cases h
    rfl

instance (p : Position) (text : String) : Still (refuseAt p text : Parser α) where
  still h := by cases h

instance {c : Prop} [Decidable c] {p q : Parser α} [Still p] [Still q] :
    Still (if c then p else q) := by
  split <;> infer_instance

/-! ## Reading something -/

/-- A parser that reads at least one token of the stream `s`. -/
class StrictFrom (s : Stream) (p : Parser α) : Prop where
  shorter : ∀ {t : Stream} {a : α}, p s = .ok (a, t) → t.rest.length < s.rest.length

/-- A parser that reads at least one token. -/
class Strict (p : Parser α) : Prop where
  shorter : ∀ {s t : Stream} {a : α}, p s = .ok (a, t) → t.rest.length < s.rest.length

instance (s : Stream) (p : Parser α) [Strict p] : StrictFrom s p where
  shorter := Strict.shorter

theorem Onward.length_le {s t : Stream} (h : Onward s t) : t.rest.length ≤ s.rest.length := by
  obtain ⟨n, -, hrest, -⟩ := h.rest
  rw [hrest, List.length_drop]
  omega

instance {p : Parser α} {f : α → Parser β} [Strict p] [∀ a, Forward (f a)] :
    Strict (p >>= f) where
  shorter h := by
    obtain ⟨a, t, hp, hf⟩ := run_bind_ok h
    exact Nat.lt_of_le_of_lt (Forward.onward hf).length_le (Strict.shorter hp)

instance (priority := low) {p : Parser α} {f : α → Parser β} [Forward p] [∀ a, Strict (f a)] :
    Strict (p >>= f) where
  shorter h := by
    obtain ⟨a, t, hp, hf⟩ := run_bind_ok h
    exact Nat.lt_of_lt_of_le (Strict.shorter hf) (Forward.onward hp).length_le

instance {c : Prop} [Decidable c] {p q : Parser α} [Strict p] [Strict q] :
    Strict (if c then p else q) := by
  split <;> infer_instance

instance (f : Stream → Fault) : Strict (fun s => .error (f s) : Parser α) where
  shorter h := by cases h

instance (text : String) : Strict (refuse text : Parser α) where
  shorter h := by cases h

instance (alternatives : List String) : Strict (expected alternatives : Parser α) where
  shorter h := by cases h

instance (p : Position) (text : String) : Strict (refuseAt p text : Parser α) where
  shorter h := by cases h

theorem StrictFrom.skip {s : Stream} {n : Nat} {f : Unit → Parser α} (h0 : 0 < n)
    (hn : n ≤ s.rest.length) (hf : Forward (f ())) : StrictFrom s (skip n >>= f) where
  shorter h := by
    obtain ⟨_, t, ht, h⟩ := run_bind_ok h
    cases ht
    have hle := (hf.onward h).length_le
    simp only [List.length_drop] at hle
    omega

theorem StrictFrom.skip' {s : Stream} {n : Nat} (h0 : 0 < n) (hn : n ≤ s.rest.length) :
    StrictFrom s (Parser.skip n) where
  shorter h := by
    cases h
    simp only [List.length_drop]
    omega

theorem StrictFrom.ite {s : Stream} {c : Prop} [Decidable c] {p q : Parser α}
    (hp : c → StrictFrom s p) (hq : ¬c → StrictFrom s q) :
    StrictFrom s (if c then p else q) := by
  split
  · exact hp ‹_›
  · exact hq ‹_›

theorem Strict.ahead {f : List Token → Parser α} (h : ∀ s, StrictFrom s (f s.rest)) :
    Strict (Parser.ahead >>= f) where
  shorter {s t a} hs := by
    obtain ⟨_, _, hts, hf⟩ := run_bind_ok hs
    cases hts
    exact (h s).shorter hf

instance (m : String) : Strict (mark m) := by
  unfold mark
  exact .ahead fun s =>
    .ite (fun h => .skip' (isMark_length h).2 (isMark_length h).1) fun _ => inferInstance

instance (w : String) : Strict (word w) := by
  unfold word
  exact .ahead fun s =>
    .ite (fun h => .skip' Nat.one_pos (one_le_length (isWord_nil w) h)) fun _ => inferInstance

instance : Strict name := by
  unfold name
  refine .ahead fun s => ?_
  split
  · next hrest =>
      exact .ite (fun _ => inferInstance) fun _ =>
        .skip Nat.one_pos (by simp [hrest]) inferInstance
  · infer_instance

instance : Strict anyIdent := by
  unfold anyIdent
  refine .ahead fun s => ?_
  split
  · next hrest => exact .skip Nat.one_pos (by simp [hrest]) inferInstance
  · infer_instance

instance : Strict lifetime := by
  unfold lifetime
  exact .ahead fun s =>
    .ite (fun h => .skip' Nat.one_pos (one_le_length isLifetime_nil h)) fun _ => inferInstance

instance (d : Delimiter) (p : Parser α) : Strict (group d p) where
  shorter {s t a} h := by
    rw [group] at h
    split at h
    · next hrest =>
        split at h
        · split at h
          · cases h
          · cases h
            simp [hrest]
        · cases h
    · cases h

end Combinators

end Overlay.Source.Parser
