import Mathlib.Data.List.TakeDrop
import Mathlib.Data.Nat.Digits.Defs
import Overlay.Json.Reader
import Overlay.Json.Writer
import Overlay.Proofs.PlainValues

/-!
# Written text is read again

A tree is written as indented text with one element on a line, and read again
from the text alone. Each kind of value has its own reason to come back: what
stands for a character is read as that character (`stringRest_escapeChar`), the
digits of an integer end where the text goes on (`magnitude_toDigits`), and the
margin of a line is skipped (`elements_indentedAll`, `members_indentedEntries`).
Together they give the main result: the document of a tree whose numbers are
integers of 64 bits is read as the plain value of the tree (`read?_indented`).
-/

namespace Overlay.Json

/-! ## Strings -/

theorem hex4?_hexDigit : ∀ n < 32,
    hex4? ['0', '0', hexDigit (n / 16), hexDigit (n % 16)] = some n := by decide

/-- What stands for a character is read as that character, whatever follows. -/
theorem stringRest_escapeChar (c : Char) (cs : List Char) :
    stringRest 0 (escapeChar c ++ cs) = (stringRest 0 cs).map fun (s, r) => (c :: s, r) := by
  rw [escapeChar]
  split
  · next h => rw [eq_of_beq h]; rfl
  split
  · next h => rw [eq_of_beq h]; rfl
  split
  · next h => rw [eq_of_beq h]; rfl
  split
  · next h => rw [eq_of_beq h]; rfl
  split
  · next h => rw [eq_of_beq h]; rfl
  split
  · next h => rw [← Char.ofNat_toNat c, eq_of_beq h]; rfl
  split
  · next h => rw [← Char.ofNat_toNat c, eq_of_beq h]; rfl
  split
  · next hlow =>
    have hhex := hex4?_hexDigit c.toNat hlow
    have hescape : escape? ('u' :: '0' :: '0' :: hexDigit (c.toNat / 16) ::
        hexDigit (c.toNat % 16) :: cs) = some (c, 5) := by
      rw [escape?, hhex]
      simp only
      rw [if_pos (by simp; omega), Char.ofNat_toNat]
    simp only [List.cons_append, List.nil_append, stringRest]
    simp [hescape]
  · next hquote hslash _ _ _ _ _ hlow =>
    rw [List.singleton_append, stringRest]
    simp only [hquote, hslash, hlow, if_false, Bool.false_eq_true]

theorem stringRest_escaped (s cs : List Char) :
    stringRest 0 (s.flatMap escapeChar ++ '"' :: cs) = some (s, cs) := by
  induction s with
  | nil => rfl
  | cons c s ih => rw [List.flatMap_cons, List.append_assoc, stringRest_escapeChar, ih]; rfl

theorem toList_quote_append (s : String) (cs : List Char) :
    (quote s).toList ++ cs = '"' :: (s.toList.flatMap escapeChar ++ '"' :: cs) := by
  rw [quote, String.toList_ofList, List.append_assoc]
  rfl

/-! ## Numbers -/

/-- A number cannot go on with these characters. -/
def Closes (cs : List Char) : Prop :=
  ∀ c ∈ cs.head?, c.isDigit = false ∧ c ≠ '.' ∧ c ≠ 'e' ∧ c ≠ 'E'

theorem natOf_toDigits (n : Nat) : natOf (Nat.toDigits 10 n) = n := by
  have hfold : natOf (Nat.toDigits 10 n) = Nat.ofDigitChars 10 (Nat.toDigits 10 n) 0 := by
    rw [natOf, Nat.ofDigitChars_eq_foldl]
    simp only [Nat.mul_comm]
    rfl
  rw [hfold, Nat.ofDigitChars_ten_toDigits]

theorem head?_toDigits_ne_zero {n : Nat} (hn : 0 < n) : (Nat.toDigits 10 n).head? ≠ some '0' := by
  induction n using Nat.strongRecOn with
  | ind n ih =>
      rw [Nat.toDigits_eq_if (by decide)]
      split
      · next hlt =>
        have hdigit : ∀ m < 10, 0 < m → m.digitChar ≠ '0' := by decide
        simpa using hdigit n hlt hn
      · next hge =>
        rw [List.head?_append, Option.or_of_isSome (by simp [Nat.toDigits_ne_nil])]
        exact ih (n / 10) (by omega) (by omega)

theorem digits_append {ds rest : List Char} (hds : ∀ c ∈ ds, c.isDigit = true)
    (hrest : ∀ c ∈ rest.head?, c.isDigit = false) : digits (ds ++ rest) = (ds, rest) := by
  have htake : rest.takeWhile Char.isDigit = [] := by
    cases rest with
    | nil => rfl
    | cons c rest => rw [List.takeWhile_cons_of_neg (by simp [hrest c rfl])]
  have hdrop : rest.dropWhile Char.isDigit = rest := by
    cases rest with
    | nil => rfl
    | cons c rest => rw [List.dropWhile_cons_of_neg (by simp [hrest c rfl])]
  rw [digits, List.takeWhile_append_of_pos hds, List.dropWhile_append_of_pos hds, htake, hdrop,
    List.append_nil]

theorem wholeDigits_toDigits (n : Nat) {rest : List Char} (hrest : Closes rest) :
    wholeDigits (Nat.toDigits 10 n ++ rest) = some (Nat.toDigits 10 n, rest) := by
  have hends : ∀ c ∈ rest.head?, c.isDigit = false := fun c hc => (hrest c hc).1
  by_cases hn : n = 0
  · subst hn
    rw [Nat.toDigits_zero, List.singleton_append]
    cases rest with
    | nil => rfl
    | cons c rest =>
        have hzero : wholeDigits ('0' :: c :: rest) =
            if c.isDigit then none else some (['0'], c :: rest) := rfl
        rw [hzero, hends c rfl]
        rfl
  · have hdigits : ∀ c ∈ Nat.toDigits 10 n, c.isDigit = true :=
      fun c hc => Nat.isDigit_of_mem_toDigits (by decide) (by decide) hc
    have hsplit := digits_append hdigits hends
    have hne : Nat.toDigits 10 n ≠ [] := Nat.toDigits_ne_nil
    rw [wholeDigits.eq_def]
    split
    · next h =>
      -- A number other than zero does not start with a zero.
      have hhead := congrArg List.head? h
      rw [List.head?_append, Option.or_of_isSome (by simp [hne])] at hhead
      exact absurd hhead (head?_toDigits_ne_zero (Nat.pos_of_ne_zero hn))
    · rw [hsplit]
      simp [hne]

theorem fractionDigits_of_closes {rest : List Char} (hrest : Closes rest) :
    fractionDigits rest = some ([], rest) := by
  rw [fractionDigits.eq_def]
  split
  · next rest => exact absurd rfl (hrest '.' rfl).2.1
  · rfl

theorem exponentPart_of_closes {rest : List Char} (hrest : Closes rest) :
    exponentPart rest = some (none, rest) := by
  cases rest with
  | nil => rfl
  | cons c rest =>
      obtain ⟨-, -, hsmall, hcapital⟩ := hrest c rfl
      have hmark : (c == 'e' || c == 'E') = false := by simp [hsmall, hcapital]
      rw [exponentPart.eq_def]
      simp only [hmark, Bool.false_eq_true, if_false]

/-- The digits of an integer that fits are read as that integer. -/
theorem magnitude_toDigits {negative : Bool} {n : Nat} {k : Number}
    (hk : integer? negative n = some k) {rest : List Char} (hrest : Closes rest) :
    magnitude negative (Nat.toDigits 10 n ++ rest) = some (k, rest) := by
  have hnumeral : numeral? negative (Nat.toDigits 10 n) [] none = some k := by
    rw [numeral?, natOf_toDigits, hk]
    rfl
  rw [magnitude, wholeDigits_toDigits n hrest]
  simp only [Option.bind_eq_bind, Option.bind_some, fractionDigits_of_closes hrest,
    exponentPart_of_closes hrest, hnumeral]
  rfl

theorem number_toDigits {n : Nat} (hn : n < 2 ^ 64) {rest : List Char} (hrest : Closes rest) :
    number (Nat.toDigits 10 n ++ rest) = some (.unsigned n, rest) := by
  have hk : integer? false n = some (.unsigned n) := if_pos hn
  rw [number.eq_def]
  split
  · next cs h =>
    -- A digit stands first, and no digit is the sign.
    have hhead := congrArg List.head? h
    rw [List.head?_append, Option.or_of_isSome (by simp [Nat.toDigits_ne_nil])] at hhead
    have hdigit := Nat.isDigit_of_mem_toDigits (by decide) (by decide)
      (List.mem_of_mem_head? hhead)
    exact absurd hdigit (by decide)
  · exact magnitude_toDigits hk hrest

theorem number_minus_toDigits {n : Nat} (hpos : 0 < n) (hn : n ≤ 2 ^ 63) {rest : List Char}
    (hrest : Closes rest) :
    number ('-' :: (Nat.toDigits 10 n ++ rest)) = some (.signed (-(n : Int)), rest) := by
  have hk : integer? true n = some (.signed (-(n : Int))) := by
    have hfits : ¬ ((n = 0 || Nat.pow 2 63 < n) = true) := by
      simp only [Bool.or_eq_true, decide_eq_true_eq, not_or]
      exact ⟨Nat.ne_of_gt hpos, Nat.not_lt.mpr hn⟩
    rw [integer?, if_pos rfl, if_neg hfits]
  exact magnitude_toDigits hk hrest

/-- The numbers that keep their value when they are written: the integers of 64 bits, with or
without a sign. -/
def Whole : Number → Prop
  | .unsigned n => n < 2 ^ 64
  | .signed i => -2 ^ 63 ≤ i ∧ i < 2 ^ 64
  | .float _ => False

/-- A written integer is read as the plain value of the number. -/
theorem number_writeNumber {n : Number} (hn : Whole n) {rest : List Char} (hrest : Closes rest) :
    ∃ k, number ((writeNumber n).toList ++ rest) = some (k, rest) ∧
      Tree.number k = (Tree.number n).plainValue := by
  cases n with
  | unsigned n =>
      rw [writeNumber, Nat.toString_eq_ofList_toDigits, String.toList_ofList]
      exact ⟨_, number_toDigits hn hrest, rfl⟩
  | signed i =>
      obtain ⟨hlow, hhigh⟩ := hn
      have hwrite : writeNumber (.signed i) = i.repr := rfl
      rw [hwrite, Int.repr_eq_if, Tree.plainValue]
      split
      · next hi =>
        rw [Nat.repr_eq_ofList_toDigits, String.toList_ofList]
        exact ⟨_, number_toDigits (by omega) hrest, rfl⟩
      · next hi =>
        rw [String.toList_append, Nat.repr_eq_ofList_toDigits, String.toList_ofList,
          String.toList_ofList, List.append_assoc, List.singleton_append]
        have hread := number_minus_toDigits (n := (-i).toNat) (by omega) (by omega) hrest
        rw [show (((-i).toNat : Nat) : Int) = -i by omega, Int.neg_neg] at hread
        exact ⟨_, hread, rfl⟩
  | float d => exact hn.elim

/-! ## Values -/

attribute [local simp] elements members value

/-- No value starts with a blank or the end of a list. -/
theorem value_eq_none {c : Char} (hc : isBlank c = true ∨ c = ']') (depth : Nat)
    (cs : List Char) : value depth (c :: cs) = none := by
  cases depth with
  | zero => rfl
  | succ depth =>
      simp only [isBlank, Bool.or_eq_true, beq_iff_eq] at hc
      rcases hc with (((rfl | rfl) | rfl) | rfl) | rfl <;> rfl

theorem skipBlank_append {gap : List Char} (hgap : ∀ c ∈ gap, isBlank c = true)
    (cs : List Char) : skipBlank (gap ++ cs) = skipBlank cs :=
  List.dropWhile_append_of_pos hgap

theorem skipBlank_cons {c : Char} (hc : isBlank c = false) (cs : List Char) :
    skipBlank (c :: cs) = c :: cs :=
  List.dropWhile_cons_of_neg (by rw [hc]; exact Bool.false_ne_true)

/-- A text that holds a value starts with it. -/
theorem skipBlank_of_value {depth : Nat} {cs : List Char} {r : Tree × List Char}
    (h : value depth cs = some r) : skipBlank cs = cs := by
  cases cs with
  | nil => rfl
  | cons c cs =>
      refine skipBlank_cons (Bool.eq_false_iff.mpr fun hc => ?_) cs
      rw [value_eq_none (Or.inl hc)] at h
      nomatch h

theorem blank_margin (level : Nat) : ∀ c ∈ (margin level).toList, isBlank c = true := by
  intro c hc
  rw [margin, String.toList_ofList] at hc
  rw [List.eq_of_mem_replicate hc]
  rfl

/-- What starts a line. -/
def lineStart (level : Nat) : List Char := '\n' :: (margin level).toList

theorem blank_lineStart (level : Nat) : ∀ c ∈ lineStart level, isBlank c = true :=
  List.forall_mem_cons.mpr ⟨rfl, blank_margin level⟩

theorem closes_lineStart (level : Nat) (cs : List Char) : Closes (lineStart level ++ cs) := by
  intro c hc
  obtain rfl := Option.some.inj hc
  decide

theorem closes_cons {c : Char} (hc : c.isDigit = false ∧ c ≠ '.' ∧ c ≠ 'e' ∧ c ≠ 'E')
    (cs : List Char) : Closes (c :: cs) := by
  intro d hd
  obtain rfl := Option.some.inj hd
  exact hc

section Steps

variable {depth n : Nat} {gap cs rest : List Char} {v : Tree}
  (hgap : ∀ c ∈ gap, isBlank c = true)

include hgap

theorem skipBlank_gap_value {r : Tree × List Char} (h : value depth cs = some r) :
    skipBlank (gap ++ cs) = cs := by
  rw [skipBlank_append hgap, skipBlank_of_value h]

theorem skipBlank_gap_cons {c : Char} (hc : isBlank c = false) (cs : List Char) :
    skipBlank (gap ++ c :: cs) = c :: cs := by
  rw [skipBlank_append hgap, skipBlank_cons hc]

theorem elements_last {after : List Char} (hafter : ∀ c ∈ after, isBlank c = true)
    (h : value depth cs = some (v, after ++ ']' :: rest)) :
    elements (value depth) (n + 1) (gap ++ cs) = some ([v], rest) := by
  rw [elements, skipBlank_gap_value hgap h, h]
  simp only [Option.bind_eq_bind, Option.bind_some, skipBlank_gap_cons hafter (c := ']') rfl]
  rfl

theorem elements_next (h : value depth cs = some (v, ',' :: rest)) :
    elements (value depth) (n + 1) (gap ++ cs) =
      (elements (value depth) n rest).map fun (vs, r) => (v :: vs, r) := by
  rw [elements, skipBlank_gap_value hgap h, h]
  simp only [Option.bind_eq_bind, Option.bind_some, skipBlank_cons (c := ',') rfl]
  cases elements (value depth) n rest <;> rfl

theorem members_last {after : List Char} (hafter : ∀ c ∈ after, isBlank c = true) (key : String)
    (h : value depth cs = some (v, after ++ '\x7d' :: rest)) :
    members (value depth) (n + 1) (gap ++ ((quote key).toList ++ ':' :: ' ' :: cs)) =
      some ([(key, v)], rest) := by
  have hblank : skipBlank (' ' :: cs) = cs := skipBlank_of_value h
  rw [members, toList_quote_append, skipBlank_gap_cons hgap rfl]
  simp only [stringRest_escaped, Option.bind_eq_bind, Option.bind_some,
    skipBlank_cons (c := ':') rfl, hblank, h, skipBlank_gap_cons hafter (c := '\x7d') rfl,
    String.ofList_toList]
  rfl

theorem members_next (key : String) (h : value depth cs = some (v, ',' :: rest)) :
    members (value depth) (n + 1) (gap ++ ((quote key).toList ++ ':' :: ' ' :: cs)) =
      (members (value depth) n rest).map fun (es, r) => ((key, v) :: es, r) := by
  have hblank : skipBlank (' ' :: cs) = cs := skipBlank_of_value h
  rw [members, toList_quote_append, skipBlank_gap_cons hgap rfl]
  simp only [stringRest_escaped, Option.bind_eq_bind, Option.bind_some,
    skipBlank_cons (c := ':') rfl, hblank, h, skipBlank_cons (c := ',') rfl,
    String.ofList_toList]
  cases members (value depth) n rest <;> rfl

end Steps

/-- The text of a tree at a level is read as its plain value, whatever may follow it. -/
def ReadsBack (depth level : Nat) (t : Tree) : Prop :=
  ∀ rest, Closes rest →
    value depth ((indented level t).toList ++ rest) = some (t.plainValue, rest)

/-- The elements of a list, each on a line of its own. -/
theorem elements_indentedAll {depth level outer n : Nat} {items : List Tree} (hne : items ≠ [])
    (hitems : ∀ t ∈ items, ReadsBack depth level t) (hn : items.length ≤ n) (rest : List Char) :
    elements (value depth) n ('\n' :: ((",\n".intercalate (indentedAll level items)).toList ++
      (lineStart outer ++ ']' :: rest))) = some (Tree.plainValues items, rest) := by
  induction items generalizing n with
  | nil => exact absurd rfl hne
  | cons t items ih =>
      obtain ⟨ht, hitems⟩ := List.forall_mem_cons.mp hitems
      obtain ⟨n, rfl⟩ := Nat.exists_eq_succ_of_ne_zero (Nat.ne_of_gt (Nat.lt_of_lt_of_le
        (Nat.succ_pos _) hn))
      cases items with
      | nil =>
          have hread := ht _ (closes_lineStart outer (']' :: rest))
          have hlast := elements_last (n := n) (blank_lineStart level) (blank_lineStart outer) hread
          simp only [indentedAll, String.intercalate_singleton, String.toList_append,
            List.append_assoc]
          exact hlast
      | cons u items =>
          have hread := ht _ (closes_cons (c := ',') (by decide)
            ('\n' :: ((",\n".intercalate (indentedAll level (u :: items))).toList ++
              (lineStart outer ++ ']' :: rest))))
          have hnext := elements_next (n := n) (blank_lineStart level) hread
          rw [ih (List.cons_ne_nil _ _) hitems (Nat.le_of_succ_le_succ hn)] at hnext
          rw [indentedAll, indentedAll, String.intercalate_cons_cons, ← indentedAll]
          simp only [String.toList_append, List.append_assoc]
          exact hnext

/-- The entries of a dictionary, each on a line of its own. -/
theorem members_indentedEntries {depth level outer n : Nat} {entries : Tree.Entries}
    (hne : entries ≠ []) (hentries : ∀ e ∈ entries, ReadsBack depth level e.2)
    (hn : entries.length ≤ n) (rest : List Char) :
    members (value depth) n
      ('\n' :: ((",\n".intercalate (indentedEntries level entries)).toList ++
        (lineStart outer ++ '\x7d' :: rest))) = some (Tree.plainEntries entries, rest) := by
  induction entries generalizing n with
  | nil => exact absurd rfl hne
  | cons e entries ih =>
      obtain ⟨key, t⟩ := e
      obtain ⟨ht, hentries⟩ := List.forall_mem_cons.mp hentries
      obtain ⟨n, rfl⟩ := Nat.exists_eq_succ_of_ne_zero (Nat.ne_of_gt (Nat.lt_of_lt_of_le
        (Nat.succ_pos _) hn))
      cases entries with
      | nil =>
          have hread := ht _ (closes_lineStart outer ('\x7d' :: rest))
          have hlast := members_last (n := n) (blank_lineStart level) (blank_lineStart outer) key
            hread
          simp only [indentedEntries, String.intercalate_singleton, String.toList_append,
            List.append_assoc]
          exact hlast
      | cons e entries =>
          have hread := ht _ (closes_cons (c := ',') (by decide)
            ('\n' :: ((",\n".intercalate (indentedEntries level (e :: entries))).toList ++
              (lineStart outer ++ '\x7d' :: rest))))
          have hnext := members_next (n := n) (blank_lineStart level) key hread
          rw [ih (List.cons_ne_nil _ _) hentries (Nat.le_of_succ_le_succ hn)] at hnext
          rw [indentedEntries, indentedEntries, String.intercalate_cons_cons, ← indentedEntries]
          simp only [String.toList_append, List.append_assoc]
          exact hnext

/-! ## Documents -/

/-- A tree of fewer than `depth` levels whose numbers are integers of 64 bits. -/
def Fits : Nat → Tree → Prop
  | 0, _ => False
  | _ + 1, .number n => Whole n
  | depth + 1, .list items => 0 < depth ∧ ∀ t ∈ items, Fits depth t
  | depth + 1, .dict entries => 0 < depth ∧ ∀ e ∈ entries, Fits depth e.2
  | _ + 1, _ => True

theorem length_le_intercalate (lines : List String) :
    lines.length ≤ (",\n".intercalate lines).toList.length + 1 := by
  induction lines with
  | nil => exact Nat.zero_le _
  | cons line lines ih =>
      cases lines with
      | nil => simp
      | cons next lines =>
          rw [String.intercalate_cons_cons]
          simp only [String.toList_append, List.length_append, List.length_cons] at ih ⊢
          have hmark : ",\n".toList.length = 2 := rfl
          omega

theorem length_indentedAll (level : Nat) (items : List Tree) :
    (indentedAll level items).length = items.length := by
  induction items with
  | nil => rfl
  | cons t items ih => rw [indentedAll, List.length_cons, List.length_cons, ih]

theorem length_indentedEntries (level : Nat) (entries : Tree.Entries) :
    (indentedEntries level entries).length = entries.length := by
  induction entries with
  | nil => rfl
  | cons e entries ih => rw [indentedEntries, List.length_cons, List.length_cons, ih]

/-- No other value starts as a number does. -/
theorem value_of_number {cs rest : List Char} {n : Number} (h : number cs = some (n, rest))
    (depth : Nat) : value (depth + 1) cs = some (.number n, rest) := by
  rw [value.eq_def]
  dsimp only
  split
  · nomatch h
  · nomatch h
  · nomatch h
  · nomatch h
  · nomatch h
  · nomatch h
  · rw [h]; rfl

theorem indented_number (level : Nat) (n : Number) :
    indented level (.number n) = writeNumber n := by simp only [indented, compact]

theorem indented_text (level : Nat) (s : String) :
    indented level (.text s) = quote s := by simp only [indented, compact]

theorem indented_null (level : Nat) : indented level .null = "null" := by
  simp only [indented, compact]

theorem indented_bool (level : Nat) (b : Bool) :
    indented level (.bool b) = if b then "true" else "false" := by simp only [indented, compact]

theorem value_of_elements {depth : Nat} (hdepth : 0 < depth) {cs rest : List Char}
    {items : List Tree} (h : elements (value depth) (cs.length + 1) cs = some (items, rest)) :
    value (depth + 1) ('[' :: cs) = some (.list items, rest) := by
  rw [value, if_neg (Nat.ne_of_gt hdepth)]
  split
  · next after hcs =>
    rw [elements, hcs, value_eq_none (Or.inr rfl)] at h
    nomatch h
  · rw [h]; rfl

theorem value_of_members {depth : Nat} (hdepth : 0 < depth) {cs rest : List Char}
    {entries : Tree.Entries}
    (h : members (value depth) (cs.length + 1) cs = some (entries, rest)) :
    value (depth + 1) ('\x7b' :: cs) = some (Tree.ofEntries entries, rest) := by
  rw [value, if_neg (Nat.ne_of_gt hdepth)]
  split
  · next after hcs =>
    rw [members, hcs] at h
    nomatch h
  · rw [h]; rfl

theorem indented_list_append (level : Nat) (t : Tree) (items : List Tree) (rest : List Char) :
    (indented level (.list (t :: items))).toList ++ rest =
      '[' :: '\n' :: ((",\n".intercalate (indentedAll (level + 1) (t :: items))).toList ++
        (lineStart level ++ ']' :: rest)) := by
  simp only [indented, String.toList_append, List.append_assoc]
  rfl

theorem indented_dict_append (level : Nat) (e : String × Tree) (entries : Tree.Entries)
    (rest : List Char) :
    (indented level (.dict (e :: entries))).toList ++ rest =
      '\x7b' :: '\n' :: ((",\n".intercalate (indentedEntries (level + 1) (e :: entries))).toList ++
        (lineStart level ++ '\x7d' :: rest)) := by
  simp only [indented, String.toList_append, List.append_assoc]
  rfl

/-- Every tree that fits is read back from its indented text. -/
theorem readsBack {depth : Nat} {t : Tree} (ht : Fits depth t) (level : Nat) :
    ReadsBack depth level t := by
  induction depth generalizing t level with
  | zero => exact ht.elim
  | succ depth ih =>
      intro rest hrest
      cases t with
      | null => rw [indented_null]; rfl
      | bool b => rw [indented_bool]; cases b <;> rfl
      | number n =>
          obtain ⟨k, hread, hk⟩ := number_writeNumber ht hrest
          rw [indented_number, value_of_number hread, hk]
      | text s =>
          rw [indented_text, toList_quote_append, value, stringRest_escaped, Option.map_some]
          simp only [String.ofList_toList]
          rfl
      | list items =>
          obtain ⟨hdepth, hitems⟩ := ht
          cases items with
          | nil =>
              rw [indented, value.eq_def]
              exact if_neg (Nat.ne_of_gt hdepth)
          | cons t items =>
              rw [indented_list_append]
              refine value_of_elements hdepth (elements_indentedAll (List.cons_ne_nil t items)
                (fun t ht => ih (hitems t ht) (level + 1)) ?_ rest)
              have hlength := length_le_intercalate (indentedAll (level + 1) (t :: items))
              rw [length_indentedAll] at hlength
              simp only [List.length_cons, List.length_append] at hlength ⊢
              omega
      | dict entries =>
          obtain ⟨hdepth, hentries⟩ := ht
          cases entries with
          | nil =>
              rw [indented, value.eq_def]
              exact if_neg (Nat.ne_of_gt hdepth)
          | cons e entries =>
              rw [indented_dict_append]
              refine value_of_members hdepth (members_indentedEntries (List.cons_ne_nil e entries)
                (fun e he => ih (hentries e he) (level + 1)) ?_ rest)
              have hlength := length_le_intercalate (indentedEntries (level + 1) (e :: entries))
              rw [length_indentedEntries] at hlength
              simp only [List.length_cons, List.length_append] at hlength ⊢
              omega

/-- A document of a tree that fits is read as the plain value of the tree. -/
theorem read?_indented {t : Tree} (ht : Fits depthLimit t) :
    read? (indented 0 t ++ "\n") = some t.plainValue := by
  have hread := readsBack ht 0 ['\n'] (closes_cons (by decide) [])
  have hfeed : "\n".toList = ['\n'] := rfl
  rw [read?, String.toList_append, hfeed, skipBlank_of_value hread, hread]
  rfl

end Overlay.Json
