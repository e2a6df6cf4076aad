import Overlay.Proofs.Parsing.AlikeGrammar

/-!
# Runs and the tokens they read

A parser reads some of the tokens ahead and leaves the others (`used`). A node that was read has
just these tokens (`Tight`), and a run can be repeated on tokens that are alike (`run_of_alike`).
-/

set_option synthInstance.maxSize 100000
set_option synthInstance.maxHeartbeats 200000

namespace Overlay.Source

open Overlay.Source.Parser Overlay.Source.Grammar Token

theorem Token.sizeAll_append (us vs : List Token) :
    sizeAll (us ++ vs) = sizeAll us + sizeAll vs := by
  induction us with
  | nil => rw [List.nil_append, sizeAll, Nat.zero_add]
  | cons t us ih => rw [List.cons_append, sizeAll, sizeAll, ih, Nat.add_assoc]

/-! ## Steps -/

namespace Parser

variable {α β : Type}

theorem run_bind_eq {p : Parser α} {f : α → Parser β} {s t : Stream} {a : α}
    (h : p s = .ok (a, t)) : (p >>= f) s = f a t := by
  show (p s).bind (fun x => f x.1 x.2) = _
  rw [h]
  rfl

/-- A mark of one character is a token. -/
theorem exists_of_isMark {m : String} {c : Char} (hm : m.toList = [c]) {ts : List Token}
    (h : isMark m ts = true) : ∃ j s rest, ts = .punct c j s :: rest := by
  rw [isMark, hm] at h
  match ts, h with
  | .punct d j s :: rest, h =>
      have hc : c = d ∧ d ≠ '\'' := by simpa [marksAhead] using h
      exact ⟨j, s, rest, by rw [hc.1]⟩

theorem run_mark_ok {m : String} {s t : Stream} {a : Unit} (h : mark m s = .ok (a, t)) :
    isMark m s.rest = true ∧
      t = { s with rest := s.rest.drop m.length, taken := s.taken + m.length } := by
  obtain ⟨_, _, hts, h⟩ := run_bind_ok h
  cases hts
  split at h
  · next hm =>
      cases h
      exact ⟨hm, rfl⟩
  · cases h

/-- The tokens read from one stream to another. -/
def used (s t : Stream) : List Token := s.rest.take (t.taken - s.taken)

theorem used_self (s : Stream) : used s s = [] := by
  rw [used, Nat.sub_self, List.take_zero]

theorem Onward.used_append {s t u : Stream} (h : Onward s t) (h' : Onward t u) :
    used s u = used s t ++ used t u := by
  obtain ⟨n, hn, hrest, htaken⟩ := h.rest
  obtain ⟨m, hm, hrest', htaken'⟩ := h'.rest
  rw [used, used, used, hrest, htaken', htaken, Nat.add_sub_cancel_left, Nat.add_sub_cancel_left,
    Nat.add_assoc, Nat.add_sub_cancel_left, List.take_add]

end Parser

theorem run_of_parseTokens {α : Type} {p : Grammar → Parser α} {ending : Position}
    {ts : List Token} {a : α} (h : parseTokens p ending ts = .ok a) :
    ∃ t, p (.forTokens ts) ⟨ts, 0, ending, none⟩ = .ok (a, t) ∧ t.stray = none ∧ t.rest = [] := by
  rw [parseTokens] at h
  split at h
  · cases h
  · next b t hp =>
      split at h
      · cases h
      · cases h
      · next hstray hrest =>
          cases h
          exact ⟨t, hp, hstray, hrest⟩

/-! ## The tokens of a node -/

/-- The tokens of the node are those that the parser has read. -/
class Tight (p : Parser Node) : Prop where
  tokens : ∀ {s t : Stream} {n : Node}, p s = .ok (n, t) → n.tokens = used s t

section Tight

variable {s t : Stream} {n : Node}

theorem tokens_nodeSince {before : Stream} {role : Role} {children : List Node}
    (h : nodeSince before role children s = .ok (n, t)) : s = t ∧ n.tokens = used before t := by
  cases h
  exact ⟨rfl, rfl⟩

instance (role : Role) (p : Parser (List Node)) : Tight (node role p) where
  tokens h := by
    obtain ⟨_, _, hget, h⟩ := run_bind_ok h
    cases hget
    obtain ⟨children, u, hp, h⟩ := run_bind_ok h
    exact (tokens_nodeSince h).2

instance {c : Prop} [Decidable c] {p q : Parser Node} [hp : Tight p] [hq : Tight q] :
    Tight (if c then p else q) := by
  split
  · exact hp
  · exact hq

instance (text : String) : Tight (refuse text) where
  tokens h := by cases h

instance {f : List Token → Parser Node} [hf : ∀ ts, Tight (f ts)] : Tight (ahead >>= f) where
  tokens h := by
    obtain ⟨ts, _, hahead, h⟩ := run_bind_ok h
    cases hahead
    exact (hf _).tokens h

instance (g : Grammar) : Tight (constBlock g) where
  tokens h := by
    obtain ⟨_, _, hget, h⟩ := run_bind_ok h
    cases hget
    obtain ⟨_, u, -, h⟩ := run_bind_ok h
    obtain ⟨_, v, -, h⟩ := run_bind_ok h
    exact (tokens_nodeSince h).2

instance (g : Grammar) (b : Bool) : Tight (pathExpr g b) where
  tokens h := by
    obtain ⟨_, _, hget, h⟩ := run_bind_ok h
    cases hget
    obtain ⟨p, u, -, h⟩ := run_bind_ok h
    obtain ⟨_, _, hahead, h⟩ := run_bind_ok h
    cases hahead
    split at h
    · obtain ⟨_, v, -, h⟩ := run_bind_ok h
      obtain ⟨_, w, -, h⟩ := run_bind_ok h
      exact (tokens_nodeSince h).2
    · split at h
      · obtain ⟨_, v, -, h⟩ := run_bind_ok h
        exact (tokens_nodeSince h).2
      · exact (tokens_nodeSince h).2

instance (g : Grammar) (b : Bool) : Tight (atom g b) := by unfold atom; infer_instance

/-- A trailer of an expression goes on with its tokens. -/
theorem tokens_trailer {g : Grammar} {before : Stream} {operand : Node} {o : Option Node}
    (h : trailer g before operand s = .ok (o, t)) :
    (o = none ∧ t = s) ∨ ∃ n, o = some n ∧ n.tokens = used before t := by
  obtain ⟨_, _, hahead, h⟩ := run_bind_ok h
  cases hahead
  split at h
  · obtain ⟨_, v, -, h⟩ := run_bind_ok h
    obtain ⟨n, w, hn, h⟩ := run_bind_ok h
    cases h
    exact .inr ⟨n, rfl, (tokens_nodeSince hn).2⟩
  · split at h
    · obtain ⟨_, u, -, h⟩ := run_bind_ok h
      obtain ⟨_, v, -, h⟩ := run_bind_ok h
      obtain ⟨n, w, hn, h⟩ := run_bind_ok h
      cases h
      exact .inr ⟨n, rfl, (tokens_nodeSince hn).2⟩
    · split at h
      · obtain ⟨_, v, -, h⟩ := run_bind_ok h
        obtain ⟨n, w, hn, h⟩ := run_bind_ok h
        cases h
        exact .inr ⟨n, rfl, (tokens_nodeSince hn).2⟩
      · split at h
        · obtain ⟨_, v, -, h⟩ := run_bind_ok h
          obtain ⟨n, w, hn, h⟩ := run_bind_ok h
          cases h
          exact .inr ⟨n, rfl, (tokens_nodeSince hn).2⟩
        · cases h
          exact .inl ⟨rfl, rfl⟩

theorem tokens_trailers {g : Grammar} {before : Stream} {fuel : Nat} {operand : Node}
    (h : trailers g before fuel operand s = .ok (n, t)) (ho : operand.tokens = used before s) :
    n.tokens = used before t := by
  induction fuel generalizing operand s with
  | zero =>
      cases h
      exact ho
  | succ fuel ih =>
      obtain ⟨o, u, htrailer, hmore⟩ := run_bind_ok h
      rcases tokens_trailer htrailer with ⟨rfl, rfl⟩ | ⟨grown, rfl, hgrown⟩
      · cases hmore
        exact ho
      · exact ih hmore hgrown

/-- Where no attribute is read, nothing is. -/
theorem run_outerAttributes_nil {g : Grammar} (h : outerAttributes g s = .ok ([], t)) : t = s := by
  obtain ⟨_, _, hahead, h⟩ := run_bind_ok h
  cases hahead
  obtain ⟨o, u, hstep, h⟩ := run_bind_ok h
  obtain ⟨_, _, hahead, hstep⟩ := run_bind_ok hstep
  cases hahead
  split at hstep
  · obtain ⟨a, v, -, hstep⟩ := run_bind_ok hstep
    cases hstep
    obtain ⟨as, w, -, h⟩ := run_bind_ok h
    cases h
  · cases hstep
    cases h
    rfl

instance (g : Grammar) (b : Bool) : Tight (unaryProduction g b) where
  tokens {s t n} h := by
    obtain ⟨_, _, hget, h⟩ := run_bind_ok h
    cases hget
    obtain ⟨attributes, u, hattributes, h⟩ := run_bind_ok h
    obtain ⟨_, _, hahead, h⟩ := run_bind_ok h
    cases hahead
    split at h
    · obtain ⟨⟨role, operand⟩, v, -, h⟩ := run_bind_ok h
      exact (tokens_nodeSince h).2
    · split at h
      · obtain ⟨_, v, -, h⟩ := run_bind_ok h
        obtain ⟨_, w, -, h⟩ := run_bind_ok h
        exact (tokens_nodeSince h).2
      · obtain ⟨_, _, hget, h⟩ := run_bind_ok h
        cases hget
        obtain ⟨first, v, hfirst, h⟩ := run_bind_ok h
        obtain ⟨_, _, hahead, h⟩ := run_bind_ok h
        cases hahead
        obtain ⟨whole, w, hwhole, h⟩ := run_bind_ok h
        have htokens := tokens_trailers hwhole (Tight.tokens hfirst)
        split at h
        · cases h
        · rw [withAttributes] at h
          split at h
          · next hnil =>
              cases h
              rw [List.isEmpty_iff.mp hnil] at hattributes
              rw [← run_outerAttributes_nil hattributes]
              exact htokens
          · exact (tokens_nodeSince h).2

/-- An operator and its right operand go on with the tokens of the left one. -/
theorem tokens_climbStep {g : Grammar} [g.IsForward] {b : Bool} {l : Level} {left : Node}
    {o : Option Node} (h : climbStep g b l left s = .ok (o, t)) :
    (o = none ∧ t = s) ∨ ∃ n, o = some n ∧ n.tokens = left.tokens ++ used s t := by
  obtain ⟨_, _, hget, h⟩ := run_bind_ok h
  cases hget
  obtain ⟨_, _, hahead, h⟩ := run_bind_ok h
  cases hahead
  have hgrow {role : Role} {more : List Node} {u : Stream}
      (h : (do return some (.mk role (left.tokens ++ (← since s)) (left :: more)) :
        Parser (Option Node)) u = .ok (o, t)) :
      ∃ n, o = some n ∧ n.tokens = left.tokens ++ used s t := by
    obtain ⟨ts, _, hsince, h⟩ := run_bind_ok h
    cases hsince
    cases h
    exact ⟨_, rfl, rfl⟩
  dsimp only at h
  split at h
  · cases h
    exact .inl ⟨rfl, rfl⟩
  · cases hop : binaryOperator? s.rest with
    | some op =>
      simp only [hop] at h
      split at h
      · cases h
        exact .inl ⟨rfl, rfl⟩
      · split at h
        · cases h
        · obtain ⟨_, u, -, h⟩ := run_bind_ok h
          obtain ⟨right, v, -, h⟩ := run_bind_ok h
          exact .inr (hgrow h)
    | none =>
      simp only [hop] at h
      split at h
      · obtain ⟨_, u, -, h⟩ := run_bind_ok h
        obtain ⟨right, v, -, h⟩ := run_bind_ok h
        exact .inr (hgrow h)
      · split at h
        · obtain ⟨_, u, -, h⟩ := run_bind_ok h
          obtain ⟨right, v, -, h⟩ := run_bind_ok h
          exact .inr (hgrow h)
        · split at h
          · obtain ⟨_, u, -, h⟩ := run_bind_ok h
            obtain ⟨target, v, -, h⟩ := run_bind_ok h
            obtain ⟨_, _, hahead, h⟩ := run_bind_ok h
            cases hahead
            obtain ⟨_, w, -, h⟩ := run_bind_ok h
            exact .inr (hgrow h)
          · cases h
            exact .inl ⟨rfl, rfl⟩

theorem tokens_climbLoop {g : Grammar} [g.IsForward] {b : Bool} {l : Level} {fuel : Nat}
    {left : Node} (h : climbLoop g b l fuel left s = .ok (n, t)) :
    n.tokens = left.tokens ++ used s t := by
  induction fuel generalizing left s with
  | zero =>
      cases h
      rw [used_self, List.append_nil]
  | succ fuel ih =>
      obtain ⟨o, u, hstep, hmore⟩ := run_bind_ok h
      have hu : Onward s u := Forward.onward hstep
      rcases tokens_climbStep hstep with ⟨rfl, rfl⟩ | ⟨grown, rfl, hgrown⟩
      · cases hmore
        rw [used_self, List.append_nil]
      · have ht : Onward u t := Forward.onward (p := climbLoop g b l fuel grown) hmore
        rw [ih hmore, hgrown, List.append_assoc, hu.used_append ht]

instance (g : Grammar) [g.IsForward] (b : Bool) : Tight (exprProduction g b) where
  tokens {s t n} h := by
    obtain ⟨first, u, hfirst, h⟩ := run_bind_ok h
    obtain ⟨_, _, hahead, h⟩ := run_bind_ok h
    cases hahead
    have hu : Onward s u := Forward.onward hfirst
    have ht : Onward u t := Forward.onward (p := climbLoop g b _ _ first) h
    rw [tokens_climbLoop h, Tight.tokens hfirst, hu.used_append ht]

end Tight

/-! ## Runs in another place -/

theorem Parser.Onward.rest_eq {s t : Stream} (h : Onward s t) : s.rest = used s t ++ t.rest := by
  obtain ⟨n, -, hrest, htaken⟩ := h.rest
  rw [used, hrest, htaken, Nat.add_sub_cancel_left, List.take_append_drop]

theorem Parser.Onward.taken_eq {s t : Stream} (h : Onward s t) :
    t.taken = s.taken + (used s t).length := by
  obtain ⟨n, hn, hrest, htaken⟩ := h.rest
  rw [used, htaken, Nat.add_sub_cancel_left, List.length_take, Nat.min_eq_left hn]

/-- A stream behind some of its tokens, with nothing stray. -/
def Parser.behind (s : Stream) (n : Nat) (ending : Position) : Stream :=
  ⟨s.rest.drop n, s.taken + n, ending, none⟩

/-- A run can be repeated by a parser that is alike, on tokens that are. -/
theorem run_of_alike {α : Type} [Bare α] {p q : Parser α} [hp : Forward p] [hq : Forward q]
    {s t s' : Stream} {a : α} {k : Nat} (halike : Alike k 0 p q) (h : p s = .ok (a, t))
    (ht : t.stray = none) (hk : 2 * sizeAll s.rest + 2 ≤ k) (hs : Like s s') :
    ∃ a' ending, q s' = .ok (a', behind s' (used s t).length ending) ∧ Like a a' := by
  have hsame := halike.run hs hk
  rw [h] at hsame
  obtain ⟨a, t, a', t', heq, hrun, ha, hlike⟩ | ⟨e, e', heq, -⟩ := alike_result hsame
  · cases heq
    have hforward := hp.onward h
    have hforward' := hq.onward hrun
    have htaken := hforward.taken_eq
    rw [like_taken hlike, like_taken hs] at htaken
    obtain ⟨n, -, hrest, htaken'⟩ := hforward'.rest
    have hn : n = (used s t).length := by omega
    refine ⟨a', t'.ending, ?_, ha⟩
    rw [hrun, behind, ← hn, ← hrest, ← htaken']
    have hstray := bare_fault_eq_iff.mp (bare_stray hlike)
    rw [ht, Option.isSome_none, eq_comm, Option.isSome_eq_false_iff, Option.isNone_iff_eq_none]
      at hstray
    rw [← hstray]
  · cases heq

end Overlay.Source
