import Overlay.Proofs.Parsing.Places

/-!
# Snippets are exact

A node is quoted from the place at which its first token starts to the place at which its last
token ends. Both places are counted in lines and columns, and the offset of a place is the number
of bytes before it, so all that is left to know is where tokens stand.

The tokens of a text stand in the order in which they are written (`Ordered`): no token starts
before the token on its left, or ends before it. The tokens of a documentation comment share one
place, so it cannot be said that each token ends before the next one starts. Still, tokens side by
side run from one place of the text to a later one (`Ordered.run`), and a node that consists of
them is quoted character by character.
-/

namespace Overlay.Source

/-! ## Tokens side by side -/

/-- The tokens inside of a token. -/
def Token.body : Token → List Token
  | group _ _ _ body => body
  | _ => []

/-- Tokens that stand side by side, among the tokens of a list or in one of its groups. -/
inductive Row (us : List Token) : List Token → Prop
  | here {ts : List Token} (h : us <:+: ts) : Row us ts
  | inside {t : Token} {ts : List Token} (ht : t ∈ ts) (h : Row us t.body) : Row us ts

/-- The token runs from behind the first `i` characters of the text to behind the first `j`. -/
structure Token.Sits (text : List Char) (t : Token) (i j : Nat) : Prop where
  forward : i < j
  inside : i < text.length
  start : t.start = lineColumn (text.take i)
  stop : t.stop = lineColumn (text.take j)

/-- Tokens of a text that start and end one after another, from `i` and `j` characters on. -/
inductive Ordered (text : List Char) : Nat → Nat → List Token → Prop
  | nil {i j : Nat} : Ordered text i j []
  | cons {i j k l : Nat} {t : Token} {ts : List Token} (hstart : i ≤ k) (hstop : j ≤ l)
      (h : t.Sits text k l) (hbody : Ordered text 0 0 t.body) (hrest : Ordered text k l ts) :
      Ordered text i j (t :: ts)

namespace Ordered

variable {text : List Char} {i j k l : Nat} {us ts : List Token}

theorem mono (h : Ordered text k l ts) (hstart : i ≤ k) (hstop : j ≤ l) : Ordered text i j ts := by
  cases h with
  | nil => exact .nil
  | cons hk hl ht hbody hrest =>
      exact .cons (Nat.le_trans hstart hk) (Nat.le_trans hstop hl) ht hbody hrest

/-- Tokens that share one place, in front of others. -/
theorem block (hus : ∀ t ∈ us, t.Sits text i j ∧ Ordered text 0 0 t.body)
    (hts : Ordered text i j ts) : Ordered text i j (us ++ ts) := by
  induction us with
  | nil => exact hts
  | cons t us ih =>
      obtain ⟨ht, hus⟩ := List.forall_mem_cons.mp hus
      exact .cons (Nat.le_refl i) (Nat.le_refl j) ht.1 ht.2 (ih hus)

theorem left (h : Ordered text i j (us ++ ts)) : Ordered text i j us := by
  induction us generalizing i j with
  | nil => exact .nil
  | cons t us ih =>
      cases h with
      | cons hk hl ht hbody hrest => exact .cons hk hl ht hbody (ih hrest)

theorem right (h : Ordered text i j (us ++ ts)) : Ordered text i j ts := by
  induction us generalizing i j with
  | nil => exact h
  | cons t us ih =>
      cases h with
      | cons hk hl ht hbody hrest => exact (ih hrest).mono hk hl

theorem body (h : Ordered text i j ts) : ∀ t ∈ ts, Ordered text 0 0 t.body := by
  induction h with
  | nil => exact nofun
  | cons _ _ _ hbody _ _ ih => exact List.forall_mem_cons.mpr ⟨hbody, ih⟩

theorem row (h : Ordered text i j ts) (hus : Row us ts) : Ordered text 0 0 us := by
  induction hus generalizing i j with
  | here hus =>
      obtain ⟨before, after, rfl⟩ := hus
      exact h.left.right.mono (Nat.zero_le i) (Nat.zero_le j)
  | inside ht _ ih => exact ih (h.body _ ht)

/-- Tokens side by side run from one place of the text to a later one. -/
theorem run (h : Ordered text i j us) (hus : us ≠ []) :
    ∃ a b, i ≤ a ∧ a < b ∧ a < text.length ∧
      (∃ t, us.head? = some t ∧ t.start = lineColumn (text.take a)) ∧
      ∃ t, us.getLast? = some t ∧ t.stop = lineColumn (text.take b) := by
  induction h with
  | nil => exact absurd rfl hus
  | @cons i j k l t ts hstart _ ht _ _ _ ih =>
      cases ts with
      | nil => exact ⟨k, l, hstart, ht.forward, ht.inside, ⟨t, rfl, ht.start⟩, ⟨t, rfl, ht.stop⟩⟩
      | cons u ts =>
          obtain ⟨a, b, hk, hab, -, -, hlast⟩ := ih (List.cons_ne_nil u ts)
          rw [← List.getLast?_cons_cons (a := t)] at hlast
          exact ⟨k, b, hstart, Nat.lt_of_le_of_lt hk hab, ht.inside, ⟨t, rfl, ht.start⟩, hlast⟩

end Ordered

/-! ## The tokens of a text -/

namespace Lexer

variable {text : List Char} {i n : Nat} {c : Cursor}

/-- The cursor stands behind the first `i` characters of the text. -/
structure Cursor.At (text : List Char) (i : Nat) (c : Cursor) : Prop where
  rest : c.rest = text.drop i
  place : c.place = lineColumn (text.take i)

theorem Cursor.In.exists_at (h : c.In text) : ∃ i, c.At text i := by
  obtain ⟨before, rfl, hplace⟩ := h
  exact ⟨before.length, List.drop_left.symm, by rw [hplace, advanceAll_start, List.take_left]⟩

theorem Cursor.At.drop (h : c.At text i) (n : Nat) : (c.drop n).At text (i + n) where
  rest := by rw [Cursor.rest_drop, h.rest, List.drop_drop]
  place := by
    show c.place.advanceAll (c.rest.take n) = _
    rw [h.place, h.rest, ← advanceAll_start, ← Position.advanceAll_append, ← List.take_add,
      advanceAll_start]

theorem Cursor.At.lt_length (h : c.At text i) {ch : Char} (hch : c.rest.head? = some ch) :
    i < text.length := by
  rw [h.rest] at hch
  by_contra hle
  rw [List.drop_of_length_le (Nat.le_of_not_lt hle)] at hch
  cases hch

theorem leaf_body {t : Token} (h : leaf c = some (t, n)) : t.body = [] := by
  unfold leaf at h
  split at h
  · cases h
    rfl
  · split at h
    · split at h
      · split at h
        · cases h
        · dsimp only at h
          split at h
          · cases h
          · split at h <;> cases h <;> rfl
      · cases h
        rfl
      · cases h
    · obtain ⟨m, hm, heq⟩ := Option.map_eq_some_iff.mp h
      cases heq
      rfl

/-- All tokens of a lexeme stand where it stands. -/
theorem Lexeme.sits {us : List Token} (h : Lexeme c us n) (hc : c.At text i) :
    ∀ t ∈ us, t.Sits text i (i + n) ∧ Ordered text 0 0 t.body := by
  obtain ⟨ch, hch⟩ := h.head
  have hforward : i < i + n := Nat.lt_add_of_pos_right h.pos
  have hsits (t : Token) (hstart : t.start = c.place) (hstop : t.stop = (c.drop n).place) :
      t.Sits text i (i + n) :=
    ⟨hforward, hc.lt_length hch, hstart.trans hc.place, hstop.trans (hc.drop n).place⟩
  cases h with
  | @doc n content inner h =>
      have hbody : Ordered text i (i + n) ([.ident "doc" (c.spanOf n),
          .punct '=' false (c.spanOf n), .literal (stringLiteral content) (c.spanOf n)] ++ []) := by
        refine .block ?_ .nil
        simp only [List.forall_mem_cons]
        exact ⟨⟨hsits _ rfl rfl, .nil⟩, ⟨hsits _ rfl rfl, .nil⟩, ⟨hsits _ rfl rfl, .nil⟩, nofun⟩
      have hgroup := hbody.mono (Nat.zero_le i) (Nat.zero_le (i + n))
      cases inner
      · simp only [docTokens, Bool.false_eq_true, if_false, List.forall_mem_cons]
        exact ⟨⟨hsits _ rfl rfl, .nil⟩, ⟨hsits _ rfl rfl, hgroup⟩, nofun⟩
      · simp only [docTokens, if_true, List.forall_mem_cons]
        exact ⟨⟨hsits _ rfl rfl, .nil⟩, ⟨hsits _ rfl rfl, .nil⟩, ⟨hsits _ rfl rfl, hgroup⟩, nofun⟩
  | @leaf _ t _ _ _ _ _ h =>
      have hspan := leaf_span h
      rw [List.forall_mem_singleton, leaf_body h]
      exact ⟨hsits t hspan.1 hspan.2, .nil⟩

/-- The tokens of a text stand in their order. -/
theorem Lexes.ordered {e : Cursor} {ts : List Token} (h : Lexes c ts e) (hc : c.At text i) :
    Ordered text i i ts := by
  induction h generalizing i with
  | nil => exact .nil
  | @lexeme c e m n us ts hskip hlexeme hrest ih =>
      have hts := ih (hc.drop (m + n))
      rw [← Nat.add_assoc] at hts
      have hmore := hts.mono (Nat.le_add_right (i + m) n) (Nat.le_refl (i + m + n))
      exact (Ordered.block (hlexeme.sits (hc.drop m)) hmore).mono (by omega) (by omega)
  | @group c inner e m k d body ts hskip hopen hbody hskip' hclose hrest ihbody ih =>
      obtain ⟨b, rfl⟩ := hbody.exists_drop
      have hinner := (hc.drop (m + 1)).drop b
      have hts := ih (hinner.drop (k + 1))
      refine .cons (k := i + m) (l := i + (m + 1) + b + (k + 1)) (by omega) (by omega)
        ⟨by omega, ?_, ?_, ?_⟩ ?_ ?_
      · exact (hc.drop m).lt_length hopen
      · exact (hc.drop m).place
      · show (((c.drop (m + 1)).drop b |>.drop k).drop 1).place = _
        rw [Cursor.drop_drop _ k 1]
        exact (hinner.drop (k + 1)).place
      · exact (ihbody (hc.drop (m + 1))).mono (Nat.zero_le _) (Nat.zero_le _)
      · exact hts.mono (by omega) (Nat.le_refl _)

end Lexer

/-! ## Quoting -/

namespace SourceFile

/-- The node runs over the characters in the middle: from the place behind the first ones to the
later place in front of the last ones. -/
structure RunsOver (file : SourceFile) (n : Node) (before middle after : List Char) : Prop where
  text : file.text.toList = before ++ middle ++ after
  later : middle ≠ []
  span : n.span? = some ⟨lineColumn before, lineColumn (before ++ middle)⟩

/-- A node of tokens side by side runs over some characters of the file. -/
theorem exists_runsOver {file : SourceFile} {ts : List Token} {n : Node}
    (hmark : file.text.toList.head? ≠ some byteOrderMark)
    (htokens : tokenize (fileContent file.text.toList) = .ok ts) (hrow : Row n.tokens ts)
    (hne : n.tokens ≠ []) : ∃ before middle after, file.RunsOver n before middle after := by
  obtain ⟨c, e, hc, hlexes, -⟩ := lexes_file hmark htokens
  obtain ⟨i, hi⟩ := hc.exists_at
  obtain ⟨a, b, -, hab, ha, ⟨t, ht, hstart⟩, ⟨u, hu, hstop⟩⟩ :=
    ((hlexes.ordered hi).row hrow).run hne
  have htake : file.text.toList.take a ++ (file.text.toList.drop a).take (b - a) =
      file.text.toList.take b := by
    rw [← List.take_add, Nat.add_sub_cancel' (Nat.le_of_lt hab)]
  refine ⟨file.text.toList.take a, (file.text.toList.drop a).take (b - a),
    file.text.toList.drop b, ?_, ?_, ?_⟩
  · rw [htake, List.take_append_drop]
  · refine List.ne_nil_of_length_pos ?_
    rw [List.length_take, List.length_drop]
    omega
  · rw [Node.span?, ht, hu, htake, ← hstart, ← hstop]

/-- The offset of a place is the number of bytes before it, and a node that runs from one place of
the text to a later one is quoted character by character. The tokens of a text without a byte order
mark report such places: this holds for all nodes of tokens that stand side by side in it. -/
theorem snippet_exact (file : SourceFile) :
    (∀ before after, file.text.toList = before ++ after →
      file.offset? (lineColumn before) = some (String.ofList before).utf8ByteSize) ∧
    (∀ n before middle after, file.RunsOver n before middle after →
      file.quoted? n = some middle ∧ file.snippet n = String.ofList middle) ∧
    ∀ ts n, file.text.toList.head? ≠ some byteOrderMark →
      tokenize (fileContent file.text.toList) = .ok ts → Row n.tokens ts → n.tokens ≠ [] →
      ∃ before middle after, file.RunsOver n before middle after := by
  refine ⟨fun _ _ h => offset?_lineColumn h, fun n before middle after h => ?_,
    fun _ _ => exists_runsOver⟩
  have hquoted := quoted?_eq h.text h.later h.span
  exact ⟨hquoted, snippet_of_quoted? hquoted⟩

/-- A second line that starts with a letter of two bytes, and so does not start where its offset
would be if it counted characters. -/
def wideLetters : SourceFile := ⟨"config.rs", "// ö\nü: T", ⟨[], []⟩⟩

/-- All tokens of that line. -/
def wideField : Node :=
  .mk (.field "ü") [.ident "ü" ⟨⟨2, 0⟩, ⟨2, 1⟩⟩, .punct ':' false ⟨⟨2, 1⟩, ⟨2, 2⟩⟩,
    .ident "T" ⟨⟨2, 3⟩, ⟨2, 4⟩⟩] []

theorem snippet_exact_wideLetters :
    wideLetters.offset? ⟨2, 1⟩ = some 8 ∧ wideLetters.snippet wideField = "ü: T" ∧
      ∃ before middle after, wideLetters.RunsOver wideField before middle after := by
  obtain ⟨hoffset, hsnippet, hrow⟩ := snippet_exact wideLetters
  refine ⟨hoffset ['/', '/', ' ', 'ö', '\n', 'ü'] [':', ' ', 'T'] rfl, ?_, ?_⟩
  · have hruns : wideLetters.RunsOver wideField ['/', '/', ' ', 'ö', '\n']
        ['ü', ':', ' ', 'T'] [] := ⟨rfl, by decide, rfl⟩
    exact (hsnippet _ _ _ _ hruns).2
  · exact hrow wideField.tokens wideField (by decide) rfl (.here (List.infix_refl _)) (by decide)

end SourceFile

end Overlay.Source
