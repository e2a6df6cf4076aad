import Overlay.Proofs.NameTokens

/-!
# Lexemes in a row

The scanner keeps a stack of open groups and counts its steps. `Lexes` says the same without
either: from one cursor to another there are blanks, lexemes and whole groups, and these are their
tokens. A text has tokens exactly if it lexes up to blanks at its end.
-/

namespace Overlay.Source.Lexer

open Text

theorem Cursor.drop_drop (c : Cursor) (m n : Nat) : (c.drop m).drop n = c.drop (m + n) := by
  simp only [Cursor.drop, List.drop_drop, Cursor.mk.injEq, true_and]
  rw [Position.advanceAll, Position.advanceAll, Position.advanceAll, List.take_add,
    List.foldl_append]

@[simp] theorem Cursor.drop_zero (c : Cursor) : c.drop 0 = c := rfl

@[simp] theorem Cursor.rest_drop (c : Cursor) (n : Nat) : (c.drop n).rest = c.rest.drop n := rfl

/-! ## Blanks and comments -/

theorem lineLength_le (cs : List Char) : lineLength cs ≤ cs.length := by
  fun_induction lineLength cs with
  | case1 | case2 | case3 => simp
  | case4 c rest _ _ ih =>
      rw [List.length_cons]
      omega

theorem blockLength_bounds {depth : Nat} {cs : List Char} {n : Nat}
    (h : blockLength depth cs = some n) : 2 ≤ n ∧ n ≤ cs.length := by
  fun_induction blockLength depth cs generalizing n with
  | case1 depth rest ih | case3 depth rest _ ih | case4 depth c rest _ _ ih =>
      obtain ⟨m, hm, rfl⟩ := Option.map_eq_some_iff.mp h
      have := ih hm
      simp only [List.length_cons]
      omega
  | case2 depth rest hdepth =>
      cases h
      simp
  | case5 => cases h

theorem startsWith_cons {word : String} {c : Char} {w : List Char} (hword : word.toList = c :: w)
    {cs : List Char} (h : startsWith word cs = true) :
    ∃ tail, cs = c :: tail ∧ w.isPrefixOf tail = true := by
  rw [startsWith, hword] at h
  cases cs with
  | nil => cases h
  | cons d tail =>
      rw [List.isPrefixOf, Bool.and_eq_true, beq_iff_eq] at h
      exact ⟨tail, by rw [h.1], h.2⟩

theorem lineLength_slash (cs : List Char) : lineLength ('/' :: cs) = lineLength cs + 1 := by
  rw [lineLength] <;> simp

theorem plainComment_pos {cs : List Char} {n : Nat} (h : plainComment cs = some n) :
    0 < n ∧ n ≤ cs.length := by
  rw [plainComment] at h
  split at h
  · next hstart =>
      cases h
      simp only [Bool.and_eq_true] at hstart
      obtain ⟨tail, rfl, -⟩ := startsWith_cons (c := '/') (w := ['/']) rfl hstart.1.1
      exact ⟨by rw [lineLength_slash]; omega, lineLength_le _⟩
  · split at h
    · next hstart =>
        cases h
        have hlength := List.IsPrefix.length_le (List.isPrefixOf_iff_prefix.mp hstart)
        exact ⟨by omega, hlength⟩
    · split at h
      · have := blockLength_bounds h
        omega
      · cases h

/-- The number of characters that are blank or in comments. -/
inductive Skips : List Char → Nat → Prop
  | stop {cs : List Char} (hcomment : plainComment cs = none)
      (hspace : ∀ ch ∈ cs.head?, isSpace ch = false) : Skips cs 0
  | comment {cs : List Char} {n m : Nat} (h : plainComment cs = some n)
      (hrest : Skips (cs.drop n) m) : Skips cs (n + m)
  | space {ch : Char} {cs : List Char} {m : Nat} (hcomment : plainComment (ch :: cs) = none)
      (h : isSpace ch = true) (hrest : Skips cs m) : Skips (ch :: cs) (1 + m)

theorem exists_skips (cs : List Char) : ∃ m, Skips cs m := by
  induction hlength : cs.length using Nat.strongRecOn generalizing cs with
  | ind k ih =>
      cases hcomment : plainComment cs with
      | some n =>
          have := plainComment_pos hcomment
          obtain ⟨m, hm⟩ := ih (cs.drop n).length (by rw [List.length_drop]; omega) _ rfl
          exact ⟨n + m, .comment hcomment hm⟩
      | none =>
          match cs with
          | [] => exact ⟨0, .stop hcomment nofun⟩
          | ch :: cs =>
              cases hspace : isSpace ch with
              | true =>
                  obtain ⟨m, hm⟩ := ih cs.length (by rw [← hlength, List.length_cons]; omega) _ rfl
                  exact ⟨1 + m, .space hcomment hspace hm⟩
              | false =>
                  refine ⟨0, .stop hcomment fun c hc => ?_⟩
                  obtain rfl : ch = c := Option.some.inj hc
                  exact hspace

theorem skipSpace_eq {cs : List Char} {m : Nat} (h : Skips cs m) {fuel : Nat}
    (hfuel : cs.length ≤ fuel) (p : Position) : skipSpace fuel ⟨cs, p⟩ = Cursor.drop ⟨cs, p⟩ m := by
  induction h generalizing fuel p with
  | @stop cs hcomment hspace =>
      cases fuel with
      | zero => rfl
      | succ fuel =>
          rw [skipSpace]
          simp only [hcomment]
          cases cs with
          | nil => rfl
          | cons ch tail => simp [hspace ch rfl]
  | @comment cs n m hcomment hrest ih =>
      have hpos := plainComment_pos hcomment
      obtain ⟨fuel, rfl⟩ : ∃ k, fuel = k + 1 := ⟨fuel - 1, by omega⟩
      rw [skipSpace]
      simp only [hcomment]
      rw [← Cursor.drop_drop]
      refine ih ?_ _
      rw [List.length_drop]
      omega
  | @space ch cs m hcomment hspace hrest ih =>
      rw [List.length_cons] at hfuel
      obtain ⟨fuel, rfl⟩ : ∃ k, fuel = k + 1 := ⟨fuel - 1, by omega⟩
      rw [skipSpace]
      simp only [hcomment, hspace, if_true]
      rw [← Cursor.drop_drop]
      exact ih (by omega) _

/-! ## Lexemes -/

/-- A comment of documentation that can be read. -/
def document? (cs : List Char) : Option (Nat × List Char × Bool) :=
  (docComment cs).filter fun d => !hasBareReturn d.2.1

/-- The tokens of the lexeme at the cursor, and the number of its characters. -/
inductive Lexeme (c : Cursor) : List Token → Nat → Prop
  | doc {n : Nat} {content : List Char} {inner : Bool}
      (h : document? c.rest = some (n, content, inner)) :
      Lexeme c (docTokens (c.spanOf n) content inner) n
  | leaf {ch : Char} {t : Token} {n : Nat} (hdoc : document? c.rest = none)
      (hch : c.rest.head? = some ch) (hopen : Delimiter.ofOpening? ch = none)
      (hclose : Delimiter.ofClosing? ch = none) (h : Lexer.leaf c = some (t, n)) : Lexeme c [t] n

/-- Blanks, lexemes and groups from one cursor to another, and their tokens. -/
inductive Lexes : Cursor → List Token → Cursor → Prop
  | nil {c : Cursor} : Lexes c [] c
  | lexeme {c e : Cursor} {m n : Nat} {us ts : List Token} (hskip : Skips c.rest m)
      (h : Lexeme (c.drop m) us n) (hrest : Lexes (c.drop (m + n)) ts e) : Lexes c (us ++ ts) e
  | group {c inner e : Cursor} {m k : Nat} {d : Delimiter} {body ts : List Token}
      (hskip : Skips c.rest m) (hopen : (c.drop m).rest.head? = some d.opening)
      (hbody : Lexes (c.drop (m + 1)) body inner) (hskip' : Skips inner.rest k)
      (hclose : (inner.drop k).rest.head? = some d.closing)
      (hrest : Lexes (inner.drop (k + 1)) ts e) :
      Lexes c (.group d ((c.drop m).spanOf 1) ((inner.drop k).spanOf 1) body :: ts) e

/-- Nothing but blanks is left. -/
def Cursor.AtEnd (c : Cursor) : Prop := ∃ m, Skips c.rest m ∧ c.rest.drop m = []

theorem Lexes.exists_drop {c e : Cursor} {ts : List Token} (h : Lexes c ts e) :
    ∃ k, e = c.drop k := by
  induction h with
  | nil => exact ⟨0, rfl⟩
  | lexeme hskip hlexeme hrest ih =>
      obtain ⟨k, rfl⟩ := ih
      exact ⟨_, Cursor.drop_drop _ _ _⟩
  | group hskip hopen hbody hskip' hclose hrest ihbody ih =>
      obtain ⟨i, rfl⟩ := ihbody
      obtain ⟨k, rfl⟩ := ih
      rw [Cursor.drop_drop, Cursor.drop_drop]
      exact ⟨_, Cursor.drop_drop _ _ _⟩

/-! ## Every lexeme has characters -/

theorem docComment_pos {cs : List Char} {n : Nat} {content : List Char} {inner : Bool}
    (h : docComment cs = some (n, content, inner)) : 0 < n := by
  have hline {word : String} (hword : word.toList.head? = some '/') (hcs : startsWith word cs = true) :
      0 < lineLength cs := by
    cases hw : word.toList with
    | nil => simp [hw] at hword
    | cons c w =>
        obtain rfl : c = '/' := by simpa [hw] using hword
        obtain ⟨tail, rfl, -⟩ := startsWith_cons hw hcs
        rw [lineLength_slash]
        omega
  have hblock {f : Nat → Nat × List Char × Bool} (hf : ∀ n, (f n).1 = n)
      (hmap : (blockLength 0 cs).map f = some (n, content, inner)) : 0 < n := by
    obtain ⟨m, hm, hfm⟩ := Option.map_eq_some_iff.mp hmap
    have := blockLength_bounds hm
    have hn := hf m
    rw [hfm] at hn
    dsimp only at hn
    omega
  rw [docComment] at h
  split at h
  · next hcs =>
      cases h
      exact hline rfl hcs
  · split at h
    · exact hblock (fun _ => rfl) h
    · split at h
      · next hcs =>
          cases h
          exact hline rfl (Bool.and_eq_true_iff.mp hcs).1
      · split at h
        · exact hblock (fun _ => rfl) h
        · cases h

theorem name_pos {cs : List Char} {n : Nat} (h : name cs = some n) : 0 < n := by
  unfold name at h
  split at h
  · split at h
    · cases h
      omega
    · cases h
  · cases h

theorem anyName_pos {cs : List Char} {n : Nat} (h : anyName cs = some n) : 0 < n := by
  rw [anyName] at h
  split at h
  · split at h
    · dsimp only at h
      split at h
      · cases h
      · cases h
        omega
    · cases h
  · exact name_pos h

theorem ident_pos {cs : List Char} {n : Nat} (h : ident cs = some n) : 0 < n := by
  rw [ident] at h
  split at h
  · cases h
  · exact anyName_pos h

theorem quotedLiteral_pos {letters : String} {q : Quote} {cs : List Char} {n : Nat}
    (h : quotedLiteral letters q cs = some n) : 0 < n := by
  simp only [quotedLiteral] at h
  split at h
  · obtain ⟨m, -, rfl⟩ := Option.map_eq_some_iff.mp h
    rw [withSuffix]
    omega
  · split at h
    · obtain ⟨m, -, rfl⟩ := Option.map_eq_some_iff.mp h
      rw [withSuffix]
      omega
    · cases h

theorem mantissa_length {shape shape' : FloatShape} {cs : List Char}
    (h : mantissa shape cs = some shape') : shape.length ≤ shape'.length ∧
      (shape'.exponent = true → shape.exponent = true ∨ shape.length < shape'.length) := by
  fun_induction mantissa shape cs with
  | case1 | case3 | case7 =>
      cases h
      exact ⟨Nat.le_refl _, Or.inl⟩
  | case6 =>
      cases h
      exact ⟨Nat.le_succ _, fun _ => .inr (Nat.lt_succ_self _)⟩
  | case2 shape c rest _ ih | case5 shape c rest _ _ _ _ ih =>
      obtain ⟨hle, -⟩ := ih h
      dsimp only at hle
      exact ⟨by omega, fun _ => .inr (by omega)⟩
  | case4 => cases h

theorem floatDigits_pos {cs : List Char} {n : Nat} (h : floatDigits cs = some n) : 0 < n := by
  unfold floatDigits at h
  split at h
  · split at h
    · cases h
    · split at h
      · cases h
      · next shape hshape =>
          obtain ⟨hle, hlt⟩ := mantissa_length hshape
          dsimp only at hle hlt
          split at h
          · next hexponent =>
              have := hlt hexponent
              split at h
              · cases h
                omega
              · split at h
                · cases h
                  simp at this
                  omega
                · cases h
          · split at h
            · cases h
              omega
            · cases h
  · cases h

theorem baseDigits_pos {base : Nat} {cs : List Char} {n : Nat}
    (h : baseDigits base true cs = some n) : 0 < n := by
  cases cs with
  | nil => cases h
  | cons c cs =>
      rw [baseDigits] at h
      simp only [if_true] at h
      repeat' split at h
      all_goals first
        | cases h
        | obtain ⟨m, -, rfl⟩ := Option.map_eq_some_iff.mp h
          omega

theorem intDigits_pos {cs : List Char} {n : Nat} (h : intDigits cs = some n) : 0 < n := by
  rw [intDigits] at h
  repeat' split at h
  · obtain ⟨m, -, rfl⟩ := Option.map_eq_some_iff.mp h
    omega
  · obtain ⟨m, -, rfl⟩ := Option.map_eq_some_iff.mp h
    omega
  · obtain ⟨m, -, rfl⟩ := Option.map_eq_some_iff.mp h
    omega
  · exact baseDigits_pos h

theorem endNumber_le {cs : List Char} {n m : Nat} (h : endNumber cs n = some m) : n ≤ m := by
  unfold endNumber withSuffix at h
  by_cases hnext : (cs.drop (n + suffix (cs.drop n))).head?.any isContinue = true
  · rw [if_pos hnext] at h
    cases h
  · rw [if_neg hnext] at h
    cases h
    omega

theorem number_pos {cs : List Char} {n : Nat} (h : number cs = some n) : 0 < n := by
  rw [number, Option.orElse_eq_or, Option.or_eq_some_iff] at h
  rcases h with h | ⟨-, h⟩
  · obtain ⟨m, hm, hn⟩ := Option.bind_eq_some_iff.mp h
    exact Nat.lt_of_lt_of_le (floatDigits_pos hm) (endNumber_le hn)
  · obtain ⟨m, hm, hn⟩ := Option.bind_eq_some_iff.mp h
    exact Nat.lt_of_lt_of_le (intDigits_pos hm) (endNumber_le hn)

theorem charLiteral_pos {cs : List Char} {n : Nat} (h : charLiteral cs = some n) : 0 < n := by
  unfold charLiteral at h
  split at h
  · obtain ⟨m, -, rfl⟩ := Option.map_eq_some_iff.mp h
    rw [withSuffix]
    omega
  · cases h

theorem byteLiteral_pos {cs : List Char} {n : Nat} (h : byteLiteral cs = some n) : 0 < n := by
  unfold byteLiteral at h
  split at h
  · obtain ⟨m, -, rfl⟩ := Option.map_eq_some_iff.mp h
    rw [withSuffix]
    omega
  · cases h

theorem literal_pos {cs : List Char} {n : Nat} (h : literal cs = some n) : 0 < n := by
  simp only [literal, Option.orElse_eq_or, Option.or_eq_some_iff] at h
  rcases h with h | ⟨-, h | ⟨-, h | ⟨-, h | ⟨-, h | ⟨-, h⟩⟩⟩⟩⟩
  · exact quotedLiteral_pos h
  · exact quotedLiteral_pos h
  · exact quotedLiteral_pos h
  · exact byteLiteral_pos h
  · exact charLiteral_pos h
  · exact number_pos h

theorem leaf_pos {c : Cursor} {t : Token} {n : Nat} (h : leaf c = some (t, n)) : 0 < n := by
  unfold leaf at h
  split at h
  · next hliteral =>
      cases h
      exact literal_pos hliteral
  · split at h
    · split at h
      · split at h
        · cases h
        · dsimp only at h
          split at h
          · cases h
          · split at h <;> cases h <;> omega
      · cases h
        omega
      · cases h
    · obtain ⟨m, hm, heq⟩ := Option.map_eq_some_iff.mp h
      cases heq
      exact ident_pos hm

theorem Lexeme.pos {c : Cursor} {us : List Token} {n : Nat} (h : Lexeme c us n) : 0 < n := by
  cases h with
  | doc h =>
      rw [document?, Option.filter_eq_some_iff] at h
      exact docComment_pos h.1
  | leaf _ _ _ _ h => exact leaf_pos h

/-! ## The scanner -/

theorem document?_of_head {cs : List Char} (h : cs.head? ≠ some '/') : document? cs = none := by
  rw [document?, docComment_of_head h]
  rfl

section Scan

variable {c : Cursor} {m : Nat} (hskip : Skips c.rest m)
include hskip

theorem scan_eq {fuel : Nat} (hfuel : c.rest.length ≤ fuel) (stack : List Frame)
    (done : List Token) :
    scan (fuel + 1) c stack done =
      match document? (c.drop m).rest with
      | some (n, content, inner) =>
        scan fuel (c.drop (m + n)) stack
          ((docTokens ((c.drop m).spanOf n) content inner).reverse ++ done)
      | none =>
        match (c.drop m).rest with
        | [] =>
          match stack with
          | [] => .ok done.reverse
          | frame :: _ => .error frame.opening.start
        | ch :: _ =>
          match Delimiter.ofOpening? ch, Delimiter.ofClosing? ch with
          | some d, _ => scan fuel (c.drop (m + 1)) (⟨d, (c.drop m).spanOf 1, done⟩ :: stack) []
          | none, some d =>
            match stack with
            | [] => .error (c.drop m).place
            | frame :: outer =>
              if frame.delimiter = d then
                scan fuel (c.drop (m + 1)) outer
                  (.group d frame.opening ((c.drop m).spanOf 1) done.reverse :: frame.before)
              else .error (c.drop m).place
          | none, none =>
            match leaf (c.drop m) with
            | some (token, n) => scan fuel (c.drop (m + n)) stack (token :: done)
            | none => .error (c.drop m).place := by
  have hcursor : skipSpace (fuel + 1) c = c.drop m := skipSpace_eq hskip (by omega) c.place
  rw [scan.eq_def]
  simp only [hcursor, Cursor.drop_drop]
  rfl

theorem scan_lexeme {us : List Token} {n : Nat} (h : Lexeme (c.drop m) us n) {fuel : Nat}
    (hfuel : c.rest.length ≤ fuel) (stack : List Frame) (done : List Token) :
    scan (fuel + 1) c stack done = scan fuel (c.drop (m + n)) stack (us.reverse ++ done) := by
  rw [scan_eq hskip hfuel]
  cases h with
  | doc h => rw [h]
  | @leaf ch t n hdoc hch hopen hclose h =>
      obtain ⟨tail, hcons⟩ := List.head?_eq_some_iff.mp hch
      rw [hdoc]
      simp only [hcons, hopen, hclose, h]
      rfl

theorem scan_open {d : Delimiter} (hopen : (c.drop m).rest.head? = some d.opening) {fuel : Nat}
    (hfuel : c.rest.length ≤ fuel) (stack : List Frame) (done : List Token) :
    scan (fuel + 1) c stack done =
      scan fuel (c.drop (m + 1)) (⟨d, (c.drop m).spanOf 1, done⟩ :: stack) [] := by
  obtain ⟨tail, hcons⟩ := List.head?_eq_some_iff.mp hopen
  have hdoc : document? (c.drop m).rest = none := document?_of_head (by
    rw [hopen]
    cases d <;> decide)
  have hd : Delimiter.ofOpening? d.opening = some d := by cases d <;> rfl
  rw [scan_eq hskip hfuel, hdoc]
  simp only [hcons, hd]

theorem scan_close {d : Delimiter} (hclose : (c.drop m).rest.head? = some d.closing) {fuel : Nat}
    (hfuel : c.rest.length ≤ fuel) (opening : Span) (before done : List Token)
    (outer : List Frame) :
    scan (fuel + 1) c (⟨d, opening, before⟩ :: outer) done =
      scan fuel (c.drop (m + 1)) outer
        (.group d opening ((c.drop m).spanOf 1) done.reverse :: before) := by
  obtain ⟨tail, hcons⟩ := List.head?_eq_some_iff.mp hclose
  have hdoc : document? (c.drop m).rest = none := document?_of_head (by
    rw [hclose]
    cases d <;> decide)
  have hopen : Delimiter.ofOpening? d.closing = none := by cases d <;> rfl
  have hd : Delimiter.ofClosing? d.closing = some d := by cases d <;> rfl
  rw [scan_eq hskip hfuel, hdoc]
  simp only [hcons, hopen, hd, if_true]

end Scan

theorem length_drop_lt {c : Cursor} {m n : Nat} (hn : 0 < n) {ch : Char}
    (hch : (c.drop m).rest.head? = some ch) : (c.drop (m + n)).rest.length < c.rest.length := by
  obtain ⟨tail, hcons⟩ := List.head?_eq_some_iff.mp hch
  have hlength := congrArg List.length hcons
  simp only [Cursor.rest_drop, List.length_drop, List.length_cons] at hlength ⊢
  omega

theorem Lexeme.head {c : Cursor} {us : List Token} {n : Nat} (h : Lexeme c us n) :
    ∃ ch, c.rest.head? = some ch := by
  cases h with
  | leaf _ hch _ _ _ => exact ⟨_, hch⟩
  | doc h =>
      cases hcs : c.rest with
      | nil =>
          rw [hcs] at h
          cases h
      | cons ch tail => exact ⟨ch, rfl⟩

/-- Whatever lexes is scanned. -/
theorem scan_of_lexes {c e : Cursor} {ts : List Token} (h : Lexes c ts e) {fuel : Nat}
    (hfuel : c.rest.length < fuel) (stack : List Frame) (done : List Token) :
    ∃ fuel', e.rest.length < fuel' ∧
      scan fuel c stack done = scan fuel' e stack (ts.reverse ++ done) := by
  induction h generalizing fuel stack done with
  | nil => exact ⟨fuel, hfuel, rfl⟩
  | @lexeme c e m n us ts hskip hlexeme hrest ih =>
      obtain ⟨ch, hch⟩ := hlexeme.head
      have hlt := length_drop_lt hlexeme.pos hch
      obtain ⟨fuel, rfl⟩ : ∃ k, fuel = k + 1 := ⟨fuel - 1, by omega⟩
      obtain ⟨fuel', hfuel', hscan⟩ := @ih fuel (by omega) stack (us.reverse ++ done)
      refine ⟨fuel', hfuel', ?_⟩
      rw [scan_lexeme hskip hlexeme (by omega), hscan, List.reverse_append, List.append_assoc]
  | @group c inner e m k d body ts hskip hopen hbody hskip' hclose hrest ihbody ih =>
      have hlt := length_drop_lt Nat.one_pos hopen
      have hlt' := length_drop_lt Nat.one_pos hclose
      obtain ⟨fuel, rfl⟩ : ∃ k, fuel = k + 1 := ⟨fuel - 1, by omega⟩
      obtain ⟨fuel', hfuel', hscan⟩ := @ihbody fuel (by omega)
        (⟨d, (c.drop m).spanOf 1, done⟩ :: stack) []
      obtain ⟨fuel', rfl⟩ : ∃ k, fuel' = k + 1 := ⟨fuel' - 1, by omega⟩
      obtain ⟨fuel'', hfuel'', hscan'⟩ := @ih fuel' (by omega) stack
        (.group d ((c.drop m).spanOf 1) ((inner.drop k).spanOf 1) body :: done)
      refine ⟨fuel'', hfuel'', ?_⟩
      rw [scan_open hskip hopen (by omega), hscan, scan_close hskip' hclose (by omega),
        List.append_nil, List.reverse_reverse, hscan', List.reverse_cons, List.append_assoc]
      rfl

theorem opening_of_ofOpening? {ch : Char} {d : Delimiter} (h : Delimiter.ofOpening? ch = some d) :
    ch = d.opening := by
  unfold Delimiter.ofOpening? at h
  split at h
  · next hch =>
      cases h
      exact hch
  · split at h
    · next hch =>
        cases h
        exact hch
    · split at h
      · next hch =>
          cases h
          exact hch
      · cases h

theorem closing_of_ofClosing? {ch : Char} {d : Delimiter} (h : Delimiter.ofClosing? ch = some d) :
    ch = d.closing := by
  unfold Delimiter.ofClosing? at h
  split at h
  · next hch =>
      cases h
      exact hch
  · split at h
    · next hch =>
        cases h
        exact hch
    · split at h
      · next hch =>
          cases h
          exact hch
      · cases h

/-- How a scan goes on behind the tokens of the group at hand. -/
def Closes (fuel : Nat) (e : Cursor) (done : List Token) (result : List Token) :
    List Frame → Prop
  | [] => e.AtEnd ∧ result = done.reverse
  | frame :: outer => ∃ k fuel', Skips e.rest k ∧
      (e.drop k).rest.head? = some frame.delimiter.closing ∧ fuel' < fuel ∧
      (e.drop (k + 1)).rest.length < fuel' ∧
      scan fuel' (e.drop (k + 1)) outer
        (.group frame.delimiter frame.opening ((e.drop k).spanOf 1) done.reverse :: frame.before) =
        .ok result

theorem Closes.mono {fuel fuel' : Nat} (hle : fuel ≤ fuel') {e : Cursor} {done result : List Token}
    {stack : List Frame} (h : Closes fuel e done result stack) :
    Closes fuel' e done result stack := by
  cases stack with
  | nil => exact h
  | cons frame outer =>
      obtain ⟨k, f, hskip, hclose, hf, hrest⟩ := h
      exact ⟨k, f, hskip, hclose, by omega, hrest⟩

/-- Whatever is scanned lexes. -/
theorem lexes_of_scan {fuel : Nat} {c : Cursor} {stack : List Frame} {done result : List Token}
    (hfuel : c.rest.length < fuel) (h : scan fuel c stack done = .ok result) :
    ∃ ts e, Lexes c ts e ∧ Closes fuel e (ts.reverse ++ done) result stack := by
  induction fuel using Nat.strongRecOn generalizing c stack done with
  | ind fuel ih =>
      obtain ⟨m, hskip⟩ := exists_skips c.rest
      obtain ⟨fuel, rfl⟩ : ∃ k, fuel = k + 1 := ⟨fuel - 1, by omega⟩
      -- A lexeme is followed by what the rest of the scan finds.
      have hlexeme {us : List Token} {n : Nat} (hlexeme : Lexeme (c.drop m) us n) :
          ∃ ts e, Lexes c ts e ∧ Closes (fuel + 1) e (ts.reverse ++ done) result stack := by
        rw [scan_lexeme hskip hlexeme (by omega)] at h
        obtain ⟨ch, hch⟩ := hlexeme.head
        have hlt := length_drop_lt hlexeme.pos hch
        obtain ⟨ts, e, hlexes, hcloses⟩ := ih fuel (Nat.lt_succ_self _) (by omega) h
        refine ⟨us ++ ts, e, .lexeme hskip hlexeme hlexes, ?_⟩
        rw [List.reverse_append, List.append_assoc]
        exact hcloses.mono (Nat.le_succ _)
      cases hdoc : document? (c.drop m).rest with
      | some d => exact hlexeme (.doc hdoc)
      | none =>
          cases hcs : (c.drop m).rest with
          | nil =>
              rw [scan_eq hskip (by omega), hdoc] at h
              simp only [hcs] at h
              cases stack with
              | cons frame outer => cases h
              | nil =>
                  cases h
                  exact ⟨[], c, .nil, ⟨m, hskip, hcs⟩, rfl⟩
          | cons ch tail =>
              have hch : (c.drop m).rest.head? = some ch := by rw [hcs]; rfl
              cases hopen : Delimiter.ofOpening? ch with
              | some d =>
                  obtain rfl := opening_of_ofOpening? hopen
                  rw [scan_open hskip hch (by omega)] at h
                  have hlt := length_drop_lt Nat.one_pos hch
                  obtain ⟨body, inner, hbody, k, fuel', hskip', hclose, hfuel', hlt', hscan⟩ :=
                    ih fuel (Nat.lt_succ_self _) (by omega) h
                  obtain ⟨ts, e, hlexes, hcloses⟩ := ih fuel' (by omega) hlt' hscan
                  rw [List.append_nil, List.reverse_reverse] at hcloses
                  refine ⟨_, e, .group hskip hch hbody hskip' hclose hlexes, ?_⟩
                  rw [List.reverse_cons, List.append_assoc]
                  exact hcloses.mono (by omega)
              | none =>
                  cases hclose : Delimiter.ofClosing? ch with
                  | some d =>
                      obtain rfl := closing_of_ofClosing? hclose
                      refine ⟨[], c, .nil, ?_⟩
                      rw [scan_eq hskip (by omega), hdoc] at h
                      simp only [hcs, hopen, hclose] at h
                      cases stack with
                      | nil => cases h
                      | cons frame outer =>
                          have hlt := length_drop_lt Nat.one_pos hch
                          dsimp only at h
                          split at h
                          · next hd =>
                              subst hd
                              exact ⟨m, fuel, hskip, hch, Nat.lt_succ_self _, by omega, h⟩
                          · cases h
                  | none =>
                      cases hleaf : leaf (c.drop m) with
                      | some x => exact hlexeme (.leaf hdoc hch hopen hclose hleaf)
                      | none =>
                          rw [scan_eq hskip (by omega), hdoc] at h
                          simp only [hcs, hopen, hclose, hleaf] at h
                          cases h

/-- A text has tokens if it lexes up to blanks at its end. -/
theorem tokenizeFrom_eq_ok_iff {p : Position} {cs : List Char} {ts : List Token} :
    tokenizeFrom p cs = .ok ts ↔ ∃ e, Lexes ⟨cs, p⟩ ts e ∧ e.AtEnd := by
  constructor
  · intro h
    obtain ⟨us, e, hlexes, hend, rfl⟩ := lexes_of_scan (Nat.lt_succ_self _) h
    rw [List.append_nil, List.reverse_reverse]
    exact ⟨e, hlexes, hend⟩
  · rintro ⟨e, hlexes, m, hskip, hend⟩
    obtain ⟨fuel, hfuel, hscan⟩ := scan_of_lexes hlexes
      (Nat.lt_succ_self (Cursor.mk cs p).rest.length) [] []
    obtain ⟨fuel, rfl⟩ : ∃ k, fuel = k + 1 := ⟨fuel - 1, by omega⟩
    have hend : (e.drop m).rest = [] := hend
    have hdoc : document? (e.drop m).rest = none := by rw [hend]; rfl
    rw [tokenizeFrom, hscan, scan_eq hskip (by omega), hdoc]
    simp only [hend, List.append_nil, List.reverse_reverse]

end Overlay.Source.Lexer
