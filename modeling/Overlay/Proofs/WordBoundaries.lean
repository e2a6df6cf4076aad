import Mathlib.Data.List.Basic
import Overlay.Text.Case

/-!
# Where the words of a name end

Snake case is found in two passes. The first one looks for capitalised words, and
since a match takes in the character before its capital and all small letters after
it, the capital right behind a match is passed over; the second one finds that
capital again. What the two passes do together is said by one rule about neighbours
(`boundaryAt`): where a word ends depends on three characters and on nothing that
was matched before.

`splitBoundaries_cons` takes the second pass apart character by character. With it
`splitBoundaries_splitWords` follows the recursion of the first pass. It holds
inside a word and outside of one, because a character that is passed over inside a
word is a small letter, and behind a small letter every capital starts a word.
-/

namespace Overlay.Text.Case

/-- Whether a word ends between the characters at `i` and `i + 1`. -/
def boundaryAt (cs : List Char) (i : Nat) : Bool :=
  cs[i + 1]?.any isCapital &&
    (cs[i]?.any (fun c => isSmall c || isDigit c) ||
      cs[i]?.any (· != '\n') && cs[i + 2]?.any isSmall)

/-- A character, and an underscore if a word ends with it. -/
def closed (ends : Bool) (c : Char) : List Char := if ends then [c, '_'] else [c]

/-- The characters with one underscore at every end of a word. -/
def underscored (cs : List Char) : List Char :=
  cs.zipIdx.flatMap fun (c, i) => closed (boundaryAt cs i) c

theorem underscored_cons (c : Char) (cs : List Char) :
    underscored (c :: cs) = closed (boundaryAt (c :: cs) 0) c ++ underscored cs := by
  -- A position in the tail is one less than in the whole, and so are its neighbours.
  rw [underscored, List.zipIdx_cons', List.flatMap_cons, List.flatMap_map]
  rfl

theorem boundaryAt_zero (c d : Char) (tail : List Char) :
    boundaryAt (c :: d :: tail) 0 =
      (isCapital d && (isSmall c || isDigit c || c != '\n' && tail.head?.any isSmall)) := by
  rw [List.head?_eq_getElem?]
  rfl

/-! ## The second pass -/

theorem not_capital_of_small {c : Char} (h : isSmall c = true) : isCapital c = false := by
  simp only [isCapital, isSmall, Bool.and_eq_true, decide_eq_true_eq, Bool.and_eq_false_iff,
    decide_eq_false_iff_not] at h ⊢
  exact .inr fun hcapital => absurd (Char.le_trans h.1 hcapital) (by decide)

theorem not_capital_of_digit {c : Char} (h : isDigit c = true) : isCapital c = false := by
  simp only [isCapital, isDigit, Bool.and_eq_true, decide_eq_true_eq, Bool.and_eq_false_iff,
    decide_eq_false_iff_not] at h ⊢
  exact .inl fun hcapital => absurd (Char.le_trans hcapital h.2) (by decide)

theorem not_smallOrDigit_of_capital {c : Char} (h : isCapital c = true) :
    (isSmall c || isDigit c) = false := by
  rw [Bool.or_eq_false_iff]
  constructor
  · exact Bool.eq_false_iff.mpr fun hsmall => by simp [not_capital_of_small hsmall] at h
  · exact Bool.eq_false_iff.mpr fun hdigit => by simp [not_capital_of_digit hdigit] at h

/-- The second pass at one character. It takes a capital together with what stands
before it; but no word ends at a capital in this pass, so the capital may as well be
looked at on its own. -/
theorem splitBoundaries_cons (c : Char) (cs : List Char) :
    splitBoundaries (c :: cs) =
      closed ((isSmall c || isDigit c) && cs.head?.any isCapital) c ++ splitBoundaries cs := by
  match cs with
  | [] =>
      rw [List.head?_nil, Option.any_none, Bool.and_false]
      rfl
  | d :: tail =>
      rw [splitBoundaries, List.head?_cons, Option.any_some]
      by_cases h : ((isSmall c || isDigit c) && isCapital d) = true
      · have hd := not_smallOrDigit_of_capital (Bool.and_eq_true_iff.mp h).2
        have hskip : splitBoundaries (d :: tail) = d :: splitBoundaries tail := by
          match tail with
          | [] => rfl
          | e :: tail => rw [splitBoundaries, hd, Bool.false_and, if_neg Bool.false_ne_true]
        rw [if_pos h, h, hskip]
        rfl
      · rw [if_neg h, Bool.eq_false_iff.mpr h]
        rfl

theorem head?_splitWords (inWord : Bool) (cs : List Char) :
    (splitWords inWord cs).head? = cs.head? := by
  rw [splitWords.eq_def]
  split
  · split
    · rfl
    · split <;> rfl
  · rfl

/-! ## Both passes -/

/-- Behind a small letter every capital starts a word. -/
theorem boundaryAt_of_small {c : Char} (h : isSmall c = true) (cs : List Char) :
    boundaryAt (c :: cs) 0 = ((isSmall c || isDigit c) && cs.head?.any isCapital) := by
  match cs with
  | [] => rw [List.head?_nil, Option.any_none, Bool.and_false, boundaryAt]; rfl
  | d :: tail =>
      rw [boundaryAt_zero, List.head?_cons, Option.any_some, h, Bool.true_or, Bool.true_or,
        Bool.and_true, Bool.true_and]

/-- Without a third character only the second pass finds the end of a word. -/
theorem boundaryAt_pair (c d : Char) :
    boundaryAt [c, d] 0 = ((isSmall c || isDigit c) && isCapital d) := by
  rw [boundaryAt_zero, List.head?_nil, Option.any_none, Bool.and_false, Bool.or_false,
    Bool.and_comm]

theorem splitBoundaries_splitWords (inWord : Bool) (cs : List Char) :
    splitBoundaries (splitWords inWord cs) = underscored cs := by
  fun_induction splitWords inWord cs with
  | case1 inWord c d e tail h ih =>
      have hc : isSmall c = true := (Bool.and_eq_true_iff.mp h).2
      rw [splitBoundaries_cons, ih, head?_splitWords, underscored_cons c, boundaryAt_of_small hc]
  | case2 inWord c d e tail h hword ih =>
      simp only [Bool.and_eq_true] at hword
      obtain ⟨⟨hc, hd⟩, he⟩ := hword
      have hfirst : boundaryAt (c :: d :: e :: tail) 0 = true := by
        rw [boundaryAt_zero, hd, hc, List.head?_cons, Option.any_some, he, Bool.and_true,
          Bool.or_true, Bool.and_true]
      have hsecond : boundaryAt (d :: e :: tail) 0 = false := by
        rw [boundaryAt_zero, not_capital_of_small he, Bool.false_and]
      -- The second pass has nothing to do at an underscore and at a capital.
      rw [underscored_cons c, underscored_cons d, underscored_cons e, hfirst, hsecond,
        boundaryAt_of_small he, splitBoundaries_cons c, splitBoundaries_cons '_',
        splitBoundaries_cons d, splitBoundaries_cons e, ih, head?_splitWords,
        not_smallOrDigit_of_capital hd, List.head?_cons, Option.any_some,
        (by decide : isCapital '_' = false), Bool.and_false, (by decide : isSmall '_' = false),
        (by decide : isDigit '_' = false)]
      rfl
  | case3 inWord c d e tail h hword ih =>
      have hthird : (isCapital d && (c != '\n' && isSmall e)) = false := by
        rw [Bool.and_left_comm, ← Bool.and_assoc]
        exact Bool.eq_false_iff.mpr hword
      rw [splitBoundaries_cons, ih, head?_splitWords, underscored_cons c, boundaryAt_zero,
        List.head?_cons, Option.any_some, List.head?_cons, Option.any_some, Bool.and_or_distrib_left,
        hthird, Bool.or_false, Bool.and_comm]
  | case4 inWord cs hshort =>
      match cs, hshort with
      | [], _ => rfl
      | [c], _ => rw [splitBoundaries_cons, underscored_cons, List.head?_nil, Option.any_none,
          Bool.and_false]; rfl
      | [c, d], _ =>
          rw [underscored_cons, boundaryAt_pair, splitBoundaries_cons, List.head?_cons,
            Option.any_some]
          rfl
      | c :: d :: e :: tail, hshort => exact absurd rfl (hshort c d e tail)

/-- Snake case divides a name at the ends of its words, found all at once, and then
takes the lower case. -/
theorem snakeCase_eq_lowerCase_underscored (name : String) :
    snakeCase name = lowerCase (String.ofList (underscored name.toList)) := by
  rw [snakeCase, divide, splitBoundaries_splitWords]

example : underscored "HTTPHost2BaseURL".toList = "HTTP_Host2_Base_URL".toList := by decide

end Overlay.Text.Case
