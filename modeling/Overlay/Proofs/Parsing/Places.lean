import Overlay.Proofs.Parsing.Lexemes
import Overlay.Proofs.Parsing.Offsets

/-!
# Tokens know their places

A cursor that walks through a text counts lines and columns, and a token starts and ends where the
cursor stands (`leaf_span`). The tokens of a file are those of its text, even if the first line is
passed over (`lexes_file`).
-/

namespace Overlay.Source

namespace Lexer

/-! ## Cursors in a text -/

/-- The cursor stands in the text, at its place. -/
def Cursor.In (text : List Char) (c : Cursor) : Prop :=
  ∃ before, text = before ++ c.rest ∧ c.place = Position.start.advanceAll before

theorem Cursor.In.drop {text : List Char} {c : Cursor} (h : c.In text) (n : Nat) :
    (c.drop n).In text := by
  obtain ⟨before, htext, hplace⟩ := h
  refine ⟨before ++ c.rest.take n, ?_, ?_⟩
  · rw [List.append_assoc, Cursor.rest_drop, List.take_append_drop, htext]
  · rw [Position.advanceAll_append, ← hplace]
    rfl

/-! ## Where tokens start and end -/

theorem Skips.idem {cs : List Char} {m : Nat} (h : Skips cs m) : Skips (cs.drop m) 0 := by
  induction h with
  | stop hcomment hspace => exact .stop hcomment hspace
  | comment h hrest ih => rwa [← List.drop_drop]
  | space hcomment h hrest ih =>
      rw [Nat.add_comm]
      exact ih

theorem leaf_span {c : Cursor} {t : Token} {n : Nat} (h : leaf c = some (t, n)) :
    t.start = c.place ∧ t.stop = (c.drop n).place := by
  unfold leaf at h
  split at h
  · cases h
    exact ⟨rfl, rfl⟩
  · split at h
    · split at h
      · split at h
        · cases h
        · dsimp only at h
          split at h
          · cases h
          · split at h <;> cases h <;> exact ⟨rfl, rfl⟩
      · cases h
        exact ⟨rfl, rfl⟩
      · cases h
    · obtain ⟨m, hm, heq⟩ := Option.map_eq_some_iff.mp h
      cases heq
      exact ⟨rfl, rfl⟩

/-- Tokens start behind the first blanks. -/
theorem Lexes.skip {c e : Cursor} {us : List Token} (h : Lexes c us e) :
    us = [] ∨ ∃ m, Skips c.rest m ∧ Lexes (c.drop m) us e := by
  cases h with
  | nil => exact .inl rfl
  | @lexeme _ _ m n us ts hskip hlexeme hrest =>
      refine .inr ⟨m, hskip, .lexeme (m := 0) hskip.idem hlexeme ?_⟩
      rwa [Cursor.drop_drop, Nat.zero_add]
  | @group _ inner _ m k d body ts hskip hopen hbody hskip' hclose hrest =>
      refine .inr ⟨m, hskip, .group (m := 0) hskip.idem hopen ?_ hskip' hclose hrest⟩
      rwa [Cursor.drop_drop, Nat.zero_add]

end Lexer

/-! ## The tokens of a file -/

theorem Position.advanceAll_line {p : Position} {cs : List Char} (h : '\n' ∉ cs) :
    (p.advanceAll cs).line = p.line := by
  induction cs generalizing p with
  | nil => rfl
  | cons c cs ih =>
      rw [List.mem_cons, not_or] at h
      rw [Position.advanceAll, List.foldl_cons, ← Position.advanceAll, ih h.2, Position.advance,
        if_neg (Ne.symm h.1)]

namespace Lexer

/-- Passing over a first line counts as if it had been read. -/
theorem in_of_line {line more : List Char} (hline : '\n' ∉ line) :
    (Cursor.drop ⟨'\n' :: more, .start⟩ 1).In (line ++ '\n' :: more) := by
  refine ⟨line ++ ['\n'], by simp [Cursor.drop], ?_⟩
  rw [Position.advanceAll_append]
  show (⟨2, 0⟩ : Position) = ⟨(Position.start.advanceAll line).line + 1, 0⟩
  rw [Position.advanceAll_line hline]
  rfl

theorem Skips.newline {more : List Char} {m : Nat} (h : Skips ('\n' :: more) m) :
    ∃ k, m = 1 + k := by
  have hcomment : plainComment ('\n' :: more) = none := plainComment_of_head (by simp)
  cases h with
  | stop _ hspace => exact absurd (hspace '\n' rfl) (by decide)
  | comment h _ =>
      rw [hcomment] at h
      cases h
  | space _ _ hrest => exact ⟨_, rfl⟩

end Lexer

/-- What is read of a file: all of it, or what follows its first line. -/
theorem fileContent_cases {cs : List Char} (h : cs.head? ≠ some byteOrderMark) :
    fileContent cs = cs ∨ fileContent cs = cs.dropWhile (· != '\n') := by
  cases cs with
  | nil => exact .inl rfl
  | cons c rest =>
      have hc : (c == byteOrderMark) = false := by simpa using h
      rw [fileContent.eq_def]
      simp only [hc, Bool.false_eq_true, if_false]
      split
      · split
        · exact .inl rfl
        · exact .inr rfl
      · exact .inl rfl

/-- The tokens of a file are those of its text. -/
theorem lexes_file {cs : List Char} {ts : List Token} (hmark : cs.head? ≠ some byteOrderMark)
    (h : tokenize (fileContent cs) = .ok ts) :
    ∃ c e : Lexer.Cursor, c.In cs ∧ Lexer.Lexes c ts e ∧ e.AtEnd := by
  have hnil : ∃ c e : Lexer.Cursor, c.In cs ∧ Lexer.Lexes c [] e ∧ e.AtEnd :=
    ⟨⟨[], _⟩, _, ⟨cs, (List.append_nil cs).symm, rfl⟩, .nil, 0, .stop rfl nofun, rfl⟩
  rcases fileContent_cases hmark with hcontent | hcontent
  · rw [hcontent] at h
    cases cs with
    | nil =>
        cases h
        exact hnil
    | cons c cs =>
        rw [tokenize_eq (by simpa using hmark)] at h
        cases hfrom : Lexer.tokenizeFrom .start (c :: cs) with
        | error p =>
            rw [hfrom] at h
            cases h
        | ok us =>
            rw [hfrom] at h
            cases h
            obtain ⟨e, hlexes, hend⟩ := Lexer.tokenizeFrom_eq_ok_iff.mp hfrom
            exact ⟨_, e, ⟨[], rfl, rfl⟩, hlexes, hend⟩
  · rw [hcontent] at h
    cases hdrop : cs.dropWhile (· != '\n') with
    | nil =>
        rw [hdrop] at h
        cases h
        exact hnil
    | cons c more =>
        have hc : c = '\n' := by
          have := @List.head_dropWhile_not _ (· != '\n') cs (by simp [hdrop])
          simpa [hdrop] using this
        subst hc
        have hline : '\n' ∉ cs.takeWhile (· != '\n') := fun hmem => by
          simpa using List.all_eq_true.mp List.all_takeWhile _ hmem
        have hcs : cs = cs.takeWhile (· != '\n') ++ '\n' :: more := by
          rw [← hdrop, List.takeWhile_append_dropWhile]
        rw [hdrop, tokenize_eq (by decide)] at h
        cases hfrom : Lexer.tokenizeFrom .start ('\n' :: more) with
        | error p =>
            rw [hfrom] at h
            cases h
        | ok us =>
            rw [hfrom] at h
            cases h
            obtain ⟨e, hlexes, hend⟩ := Lexer.tokenizeFrom_eq_ok_iff.mp hfrom
            rcases hlexes.skip with rfl | ⟨m, hskip, hlexes⟩
            · exact hnil
            · obtain ⟨j, rfl⟩ := hskip.newline
              refine ⟨_, e, ?_, hlexes, hend⟩
              rw [← Lexer.Cursor.drop_drop, hcs]
              exact (Lexer.in_of_line hline).drop j

end Overlay.Source
