import Mathlib.Data.List.Basic
import Overlay.Generate.Section

/-!
# A name is one token

The scanners look for literals before they look for names, and a literal may start
with letters: `r"`, `b'`, `cr#`. So whether a name is read as one depends on what
follows it. Nothing that goes on with a name may follow (`Breaks`), and neither may a
quote or a hash, with which the last letters could start a literal. Then a name is
scanned as a name and as nothing else, and so is a raw one, unless its word has no raw
form.

Read on its own, a name is therefore a single token (`tokenize_name`, `tokenize_raw`),
and the generator takes it as it is exactly if it is no keyword.
-/

namespace Overlay.Source

open Text

namespace Lexer

/-- Characters that do not go on with a name and start no literal after it. -/
def Breaks (rest : List Char) : Prop :=
  ∀ c ∈ rest.head?, isContinue c = false ∧ c ≠ '"' ∧ c ≠ '\'' ∧ c ≠ '#'

theorem breaks_nil : Breaks [] := by
  intro c hc
  cases hc

/-- The characters of names. -/
def isNameChar (c : Char) : Bool := isIdentStart c || isContinue c

theorem isNameChar_of_isIdent {cs : List Char} (h : isIdent cs = true) :
    ∀ c ∈ cs, isNameChar c = true := by
  intro c hc
  cases cs with
  | nil => cases hc
  | cons d cs =>
      rw [isIdent, Bool.and_eq_true, List.all_eq_true] at h
      rw [isNameChar, Bool.or_eq_true]
      rcases List.mem_cons.mp hc with rfl | hc
      · exact Or.inl h.1
      · exact Or.inr (h.2 c hc)

/-- A quote or a hash behind letters is not found at the start of a name. -/
theorem not_startsWith {cs rest pre post : List Char} {x : Char}
    (hcs : ∀ c ∈ cs, isNameChar c = true) (hrest : Breaks rest)
    (hpre : ∀ c ∈ pre, isContinue c = true) (hx : x ∈ ['"', '\'', '#']) :
    (pre ++ x :: post).isPrefixOf (cs ++ rest) = false := by
  induction cs generalizing pre with
  | nil =>
      cases rest with
      | nil => cases pre <;> rfl
      | cons r rest =>
          obtain ⟨hr, hquote, hsingle, hhash⟩ := hrest r rfl
          cases pre with
          | nil =>
              have hne : x ≠ r := by
                rintro rfl
                simp_all
              simp [List.isPrefixOf, hne]
          | cons p pre =>
              have hne : p ≠ r := by
                rintro rfl
                simp_all
              simp [List.isPrefixOf, hne]
  | cons c cs ih =>
      have hc := hcs c (by simp)
      cases pre with
      | nil =>
          have hne : x ≠ c := by
            rintro rfl
            simp only [List.mem_cons, List.not_mem_nil, or_false] at hx
            rcases hx with rfl | rfl | rfl <;> exact absurd hc (by decide)
          simp [List.isPrefixOf, hne]
      | cons p pre =>
          have htail : (pre ++ x :: post).isPrefixOf (cs ++ rest) = false :=
            ih (fun d hd => hcs d (by simp [hd])) (fun d hd => hpre d (by simp [hd]))
          rw [List.cons_append, List.cons_append, List.isPrefixOf, htail, Bool.and_false]

/-- Letters at the start of a name are part of it. -/
theorem length_le_of_startsWith {cs rest pre : List Char} (hrest : Breaks rest)
    (hpre : ∀ c ∈ pre, isContinue c = true) (h : pre.isPrefixOf (cs ++ rest) = true) :
    pre.length ≤ cs.length := by
  induction cs generalizing pre with
  | nil =>
      cases pre with
      | nil => simp
      | cons p pre =>
          cases rest with
          | nil => cases h
          | cons r rest =>
              rw [List.nil_append, List.isPrefixOf, Bool.and_eq_true, beq_iff_eq] at h
              have hr := (hrest r rfl).1
              rw [← h.1, hpre p (by simp)] at hr
              cases hr
  | cons c cs ih =>
      cases pre with
      | nil => simp
      | cons p pre =>
          rw [List.cons_append, List.isPrefixOf, Bool.and_eq_true] at h
          have hle := ih (fun d hd => hpre d (by simp [hd])) h.2
          simp only [List.length_cons]
          omega

/-! ## No literal -/

theorem isDigit_eq_false {c : Char} (h : isIdentStart c = true) : c.isDigit = false := by
  rw [Bool.eq_false_iff]
  intro hdigit
  have hrange : 48 ≤ c.toNat ∧ c.toNat ≤ 57 := by
    simpa [Char.isDigit, UInt32.le_iff_toNat_le] using hdigit
  rw [isIdentStart, isStart, if_pos (by omega), Bool.or_eq_true, beq_iff_eq] at h
  rcases h with rfl | halpha
  · exact absurd hdigit (by decide)
  · delta Char.isAlpha Char.isUpper Char.isLower at halpha
    simp [UInt32.le_iff_toNat_le] at halpha
    omega

theorem raw_eq_none {q : Quote} {cs : List Char}
    (h : ∀ c ∈ cs.head?, c ≠ '#' ∧ c ≠ '"') : raw q cs = none := by
  cases cs with
  | nil => rfl
  | cons c cs =>
      obtain ⟨hhash, hquote⟩ := h c rfl
      have hnone : (c :: cs).takeWhile (· == '#') = [] := by
        rw [List.takeWhile_cons_of_neg (by simpa using hhash)]
      rw [raw, hnone]
      simp only [List.length_nil, List.drop_zero]
      split
      · next heq => exact absurd (List.cons.inj heq).1 hquote
      · rfl

section Names

variable {cs rest : List Char}

theorem not_mark_of_head {cs rest : List Char} (hcs : ∀ c ∈ cs, isNameChar c = true)
    (hrest : Breaks rest) : ∀ c ∈ (cs ++ rest).head?, c ≠ '#' ∧ c ≠ '"' := by
  intro c hc
  cases cs with
  | nil => exact ⟨(hrest c hc).2.2.2, (hrest c hc).2.1⟩
  | cons d cs =>
      obtain rfl : d = c := Option.some.inj hc
      have hd := hcs d (by simp)
      refine ⟨?_, ?_⟩
      · rintro rfl
        exact absurd hd (by decide)
      · rintro rfl
        exact absurd hd (by decide)

theorem quotedLiteral_name (hcs : ∀ c ∈ cs, isNameChar c = true) (hrest : Breaks rest)
    {letters : String} (hletters : ∀ c ∈ letters.toList, isContinue c = true) (q : Quote) :
    quotedLiteral letters q (cs ++ rest) = none := by
  have hquote : startsWith (letters ++ "\"") (cs ++ rest) = false := by
    rw [startsWith, String.toList_append]
    exact not_startsWith hcs hrest hletters (by decide)
  rw [quotedLiteral]
  simp only [hquote, Bool.false_eq_true, if_false]
  split
  · next hr =>
      have hle : letters.length + 1 ≤ cs.length := by
        rw [startsWith] at hr
        have hlength := length_le_of_startsWith hrest (fun c hc => ?_) hr
        · simpa [String.length_toList] using hlength
        · rw [String.toList_append, List.mem_append] at hc
          rcases hc with hc | hc
          · exact hletters c hc
          · simp at hc
            rw [hc]
            decide
      rw [raw_eq_none]
      · rfl
      · rw [List.drop_append_of_le_length hle]
        exact not_mark_of_head (fun c hc => hcs c (List.mem_of_mem_drop hc)) hrest
  · rfl

theorem number_name (hcs : isIdent cs = true) (rest : List Char) :
    number (cs ++ rest) = none := by
  cases cs with
  | nil => cases hcs
  | cons c cs =>
      rw [isIdent, Bool.and_eq_true] at hcs
      have hdigit := isDigit_eq_false hcs.1
      have hzero : c ≠ '0' := by
        rintro rfl
        cases hdigit
      have hfloat : floatDigits (c :: (cs ++ rest)) = none := by
        rw [floatDigits, hdigit]
        rfl
      have hbase : ∀ b : Char, startsWith (String.ofList ['0', b]) (c :: (cs ++ rest)) = false := by
        intro b
        simp [startsWith, List.isPrefixOf, Ne.symm hzero]
      have hint : intDigits (c :: (cs ++ rest)) = none := by
        rw [intDigits, (hbase 'x' : startsWith "0x" _ = false),
          (hbase 'o' : startsWith "0o" _ = false), (hbase 'b' : startsWith "0b" _ = false)]
        simp only [Bool.false_eq_true, if_false]
        rw [baseDigits, hdigit]
        simp
      rw [List.cons_append, number, hfloat, hint]
      rfl

theorem byteLiteral_name (hcs : ∀ c ∈ cs, isNameChar c = true) (hrest : Breaks rest) :
    byteLiteral (cs ++ rest) = none := by
  have hno : (['b'] ++ '\'' :: []).isPrefixOf (cs ++ rest) = false :=
    not_startsWith hcs hrest (List.forall_mem_singleton.mpr (by decide)) (by decide)
  rw [byteLiteral]
  intro tail heq
  rw [heq] at hno
  simp [List.isPrefixOf] at hno

theorem charLiteral_name (hcs : ∀ c ∈ cs, isNameChar c = true) (hrest : Breaks rest) :
    charLiteral (cs ++ rest) = none := by
  have hno : ([] ++ '\'' :: []).isPrefixOf (cs ++ rest) = false :=
    not_startsWith hcs hrest (by simp) (by decide)
  rw [charLiteral]
  intro tail heq
  rw [heq] at hno
  simp [List.isPrefixOf] at hno

theorem literal_name (hcs : isIdent cs = true) (hrest : Breaks rest) :
    literal (cs ++ rest) = none := by
  have hchars := isNameChar_of_isIdent hcs
  rw [literal, quotedLiteral_name hchars hrest (by simp),
    quotedLiteral_name hchars hrest (List.forall_mem_singleton.mpr (by decide)),
    quotedLiteral_name hchars hrest (List.forall_mem_singleton.mpr (by decide)),
    byteLiteral_name hchars hrest, charLiteral_name hchars hrest, number_name hcs]
  rfl

/-! ## A name -/

theorem startsMark_name (hcs : isIdent cs = true) (rest : List Char) :
    startsMark (cs ++ rest) = false := by
  cases cs with
  | nil => cases hcs
  | cons c cs =>
      rw [isIdent, Bool.and_eq_true] at hcs
      have hmarks : marks.all (fun m => !isIdentStart m) = true := by decide
      have hc : c ∉ marks := by
        intro hmem
        simpa [hcs.1] using List.all_eq_true.mp hmarks c hmem
      simp [startsMark, hc]

theorem name_append (hcs : isIdent cs = true) (hrest : Breaks rest) :
    name (cs ++ rest) = some cs.length := by
  cases cs with
  | nil => cases hcs
  | cons c cs =>
      rw [isIdent, Bool.and_eq_true, List.all_eq_true] at hcs
      have hstop : rest.takeWhile isContinue = [] := by
        cases rest with
        | nil => rfl
        | cons r rest => rw [List.takeWhile_cons_of_neg (by simp [(hrest r rfl).1])]
      rw [List.cons_append, name, if_pos hcs.1, List.takeWhile_append_of_pos hcs.2, hstop,
        List.append_nil, List.length_cons]

theorem literalStarts_name (hcs : ∀ c ∈ cs, isNameChar c = true) (hrest : Breaks rest) :
    literalStarts.any (startsWith · (cs ++ rest)) = false := by
  rw [List.any_eq_false]
  intro start hstart
  -- Each of them is letters and then a quote or a hash.
  have hmarks : ∀ start ∈ literalStarts,
      (start.toList.dropWhile isContinue).head? ∈ [some '"', some '\'', some '#'] := by decide
  have hmark := hmarks start hstart
  have hsplit : start.toList.takeWhile isContinue ++ start.toList.dropWhile isContinue =
      start.toList := List.takeWhile_append_dropWhile
  cases hdrop : start.toList.dropWhile isContinue with
  | nil => simp [hdrop] at hmark
  | cons x post =>
      rw [startsWith, ← hsplit, hdrop, not_startsWith hcs hrest (List.all_eq_true.mp List.all_takeWhile)
          (by simpa [hdrop] using hmark)]
      simp

theorem ident_name (hcs : isIdent cs = true) (hrest : Breaks rest) :
    ident (cs ++ rest) = some cs.length := by
  have hchars := isNameChar_of_isIdent hcs
  have hraw : startsWith "r#" (cs ++ rest) = false :=
    not_startsWith hchars hrest (List.forall_mem_singleton.mpr (by decide) : ∀ c ∈ ['r'], isContinue c = true) (by decide)
  rw [ident, literalStarts_name hchars hrest, if_neg (by simp), anyName, hraw, if_neg (by simp),
    name_append hcs hrest]

/-! ## A raw name -/

/-- Words that have no raw form. -/
def isUnrawable (cs : List Char) : Bool :=
  decide (String.ofList cs ∈ ["_", "super", "self", "Self", "crate"])

theorem literal_raw (hcs : isIdent cs = true) (rest : List Char) :
    literal ('r' :: '#' :: cs ++ rest) = none := by
  cases cs with
  | nil => cases hcs
  | cons c cs =>
      have hc := isNameChar_of_isIdent hcs c (by simp)
      have hhash : c ≠ '#' := by
        rintro rfl
        exact absurd hc (by decide)
      have hquote : c ≠ '"' := by
        rintro rfl
        exact absurd hc (by decide)
      have hraw : raw .text ('#' :: c :: (cs ++ rest)) = none := by
        have hone : ('#' :: c :: (cs ++ rest)).takeWhile (· == '#') = ['#'] := by
          rw [List.takeWhile_cons_of_pos (by rfl), List.takeWhile_cons_of_neg (by simpa using hhash)]
        rw [raw, hone]
        simp only [List.length_singleton, List.drop_succ_cons, List.drop_zero]
        split
        · next heq => exact absurd (List.cons.inj heq).1 hquote
        · rfl
      simp [literal, quotedLiteral, startsWith, List.isPrefixOf, hraw, byteLiteral, charLiteral,
        number, floatDigits, intDigits, baseDigits]

theorem ident_raw (hcs : isIdent cs = true) (hrest : Breaks rest) :
    ident ('r' :: '#' :: cs ++ rest) =
      if isUnrawable cs then none else some (cs.length + 2) := by
  have hname := name_append hcs hrest
  cases cs with
  | nil => cases hcs
  | cons c cs =>
      have hc := isNameChar_of_isIdent hcs c (by simp)
      have hhash : '#' ≠ c := by
        rintro rfl
        exact absurd hc (by decide)
      have hquote : '"' ≠ c := by
        rintro rfl
        exact absurd hc (by decide)
      have hstarts : literalStarts.any (startsWith · ('r' :: '#' :: c :: cs ++ rest)) = false := by
        simp [literalStarts, startsWith, List.isPrefixOf, hhash, hquote]
      have hraw : startsWith "r#" ('r' :: '#' :: c :: cs ++ rest) = true := by
        simp [startsWith, List.isPrefixOf]
      rw [ident, hstarts, if_neg (by simp), anyName, hraw, if_pos rfl]
      simp only [List.cons_append, List.drop_succ_cons, List.drop_zero]
      rw [List.cons_append] at hname
      rw [hname]
      simp [isUnrawable]

end Names

/-! ## The token -/

theorem plainComment_of_head {cs : List Char} (h : cs.head? ≠ some '/') :
    plainComment cs = none := by
  cases cs with
  | nil => rfl
  | cons c cs =>
      have hc : '/' ≠ c := by
        rintro rfl
        exact h rfl
      simp [plainComment, startsWith, List.isPrefixOf, hc]

theorem docComment_of_head {cs : List Char} (h : cs.head? ≠ some '/') :
    docComment cs = none := by
  cases cs with
  | nil => rfl
  | cons c cs =>
      have hc : '/' ≠ c := by
        rintro rfl
        exact h rfl
      simp [docComment, startsWith, List.isPrefixOf, hc]

theorem skipSpace_eq_self {c : Cursor} (hslash : c.rest.head? ≠ some '/')
    (hspace : ∀ ch ∈ c.rest.head?, isSpace ch = false) (fuel : Nat) :
    skipSpace fuel c = c := by
  cases fuel with
  | zero => rfl
  | succ fuel =>
      rw [skipSpace, plainComment_of_head hslash]
      simp only []
      split
      · next ch tail heq =>
          rw [if_neg (by simp [hspace ch (by simp [heq])])]
      · rfl

/-- The first character of something that is neither blank, a comment nor a delimiter. -/
structure StartsLeaf (ch : Char) : Prop where
  not_slash : ch ≠ '/'
  not_space : isSpace ch = false
  not_opening : Delimiter.ofOpening? ch = none
  not_closing : Delimiter.ofClosing? ch = none

theorem scan_leaf {c : Cursor} {ch : Char} {tail : List Char} (hrest : c.rest = ch :: tail)
    (hch : StartsLeaf ch) (fuel : Nat) (stack : List Frame) (done : List Token) :
    scan (fuel + 1) c stack done =
      match leaf c with
      | some (token, n) => scan fuel (c.drop n) stack (token :: done)
      | none => .error c.place := by
  have hskip : skipSpace (fuel + 1) c = c :=
    skipSpace_eq_self (by simp [hrest, hch.not_slash]) (by simp [hrest, hch.not_space]) _
  have hdoc : docComment c.rest = none :=
    docComment_of_head (by simp [hrest, hch.not_slash])
  rw [scan.eq_def]
  simp only [hskip, hdoc, Option.filter_none]
  split
  · next heq => simp [heq] at hrest
  · next ch' tail' heq =>
      obtain rfl : ch = ch' := by
        rw [hrest] at heq
        exact (List.cons.inj heq).1
      split
      · next d hopening =>
          rw [hch.not_opening] at hopening
          cases hopening
      · next d _ hclosing =>
          rw [hch.not_closing] at hclosing
          cases hclosing
      · rfl

theorem scan_end {place : Position} (fuel : Nat) (done : List Token) :
    scan (fuel + 1) ⟨[], place⟩ [] done = .ok done.reverse := rfl

/-- The code points of blanks. -/
def spaces : List Nat :=
  [9, 10, 11, 12, 13, 32, 0x85, 0xA0, 0x1680, 0x2000, 0x2001, 0x2002, 0x2003, 0x2004, 0x2005,
    0x2006, 0x2007, 0x2008, 0x2009, 0x200A, 0x200e, 0x200f, 0x2028, 0x2029, 0x202F, 0x205F, 0x3000]

theorem mem_spaces {c : Char} (h : isSpace c = true) : c.toNat ∈ spaces := by
  simp only [isSpace, isBlank, Bool.or_eq_true, Bool.and_eq_true, decide_eq_true_eq,
    beq_iff_eq] at h
  simp only [spaces, List.mem_cons, List.not_mem_nil, or_false]
  omega

theorem isSpace_eq_false {c : Char} (h : isIdentStart c = true) : isSpace c = false := by
  have hnone : ∀ n ∈ spaces, isIdentStart (Char.ofNat n) = false := by decide +kernel
  rw [Bool.eq_false_iff]
  intro hspace
  have hfalse := hnone _ (mem_spaces hspace)
  rw [Char.ofNat_toNat, h] at hfalse
  cases hfalse

theorem startsLeaf_of_isIdentStart {c : Char} (h : isIdentStart c = true) : StartsLeaf c where
  not_slash := by
    rintro rfl
    exact absurd h (by decide)
  not_space := isSpace_eq_false h
  not_opening := by
    rw [Delimiter.ofOpening?, if_neg, if_neg, if_neg] <;> rintro rfl <;>
      exact absurd h (by decide)
  not_closing := by
    rw [Delimiter.ofClosing?, if_neg, if_neg, if_neg] <;> rintro rfl <;>
      exact absurd h (by decide)

/-! ## Words -/

/-- The text of a name as it is written, raw or not. -/
inductive IsWord : List Char → Prop
  | plain {cs : List Char} (h : isIdent cs = true) : IsWord cs
  | raw {cs : List Char} (h : isIdent cs = true) (hraw : isUnrawable cs = false) :
      IsWord ('r' :: '#' :: cs)

theorem leaf_word {w rest : List Char} (hw : IsWord w) (hrest : Breaks rest) (p : Position) :
    leaf ⟨w ++ rest, p⟩ =
      some (.ident (String.ofList w) ((⟨w ++ rest, p⟩ : Cursor).spanOf w.length), w.length) := by
  cases hw with
  | plain h =>
      rw [leaf]
      simp only [literal_name h hrest, startsMark_name h, ident_name h hrest]
      simp [Cursor.text]
  | @raw cs h hraw =>
      have hliteral := literal_raw h rest
      have hident := ident_raw h hrest
      rw [if_neg (by simp [hraw])] at hident
      have hmark : startsMark ('r' :: '#' :: cs ++ rest) = false := rfl
      rw [leaf]
      simp only [hliteral, hident, hmark]
      simp [Cursor.text]

theorem IsWord.head {w : List Char} (hw : IsWord w) :
    ∃ c tail, w = c :: tail ∧ isIdentStart c = true := by
  cases hw with
  | plain h =>
      cases w with
      | nil => cases h
      | cons c tail =>
          rw [isIdent, Bool.and_eq_true] at h
          exact ⟨c, tail, rfl, h.1⟩
  | raw h hraw => exact ⟨_, _, rfl, by decide⟩

theorem tokenizeFrom_word {w : List Char} (hw : IsWord w) (p : Position) :
    ∃ span, tokenizeFrom p w = .ok [.ident (String.ofList w) span] := by
  obtain ⟨c, tail, rfl, hc⟩ := hw.head
  have hleaf := leaf_word hw breaks_nil p
  rw [List.append_nil] at hleaf
  refine ⟨(⟨c :: tail, p⟩ : Cursor).spanOf (c :: tail).length, ?_⟩
  rw [tokenizeFrom, scan_leaf rfl (startsLeaf_of_isIdentStart hc), hleaf]
  simp only [Cursor.drop, List.drop_length]
  exact scan_end _ _

end Lexer

theorem Parser.name_ident (text : String) (span : Span) (rest : List Token) (taken : Nat)
    (ending : Position) (stray : Option Fault) :
    Parser.name ⟨.ident text span :: rest, taken, ending, stray⟩ =
      if Parser.keywords.contains text then
        .error ⟨.rule false ("expected identifier, found keyword " ++ ticked text), span.start⟩
      else .ok (text, ⟨rest, taken + 1, ending, stray⟩) := by
  change (if Parser.keywords.contains text then _ else _ : Parser String) _ = _
  cases Parser.keywords.contains text <;> rfl

theorem tokenize_eq {c : Char} {tail : List Char} (h : c ≠ byteOrderMark) :
    tokenize (c :: tail) =
      (Lexer.tokenizeFrom .start (c :: tail)).mapError fun p => ⟨.unreadable, p⟩ := by
  rw [tokenize]
  simp only [beq_iff_eq, h, if_false]

theorem ne_byteOrderMark {c : Char} (h : isIdentStart c = true) : c ≠ byteOrderMark := by
  rintro rfl
  exact absurd h (by decide +kernel)

end Overlay.Source

namespace Overlay.Generate.Section

open Source Source.Lexer

/-- A word is taken as it is exactly if it is no keyword. -/
theorem isPlainName_word {tag : String} (h : IsWord tag.toList) :
    isPlainName tag = !Parser.keywords.contains tag := by
  obtain ⟨span, htokens⟩ := tokenizeFrom_word h .start
  obtain ⟨c, tail, heq, hc⟩ := h.head
  have htext : tokenize tag.toList = .ok [.ident tag span] := by
    rw [heq] at htokens ⊢
    rw [tokenize_eq (ne_byteOrderMark hc), htokens, ← heq, String.ofList_toList]
    rfl
  have hparse : parseText (fun _ => Parser.name) tag.toList =
      parseTokens (fun _ => Parser.name) .start [.ident tag span] := by
    rw [parseText, htext]
    rfl
  rw [isPlainName, hparse, parseTokens]
  simp only [Parser.name_ident]
  cases Parser.keywords.contains tag <;> rfl

end Overlay.Generate.Section
