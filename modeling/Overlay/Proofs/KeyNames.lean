import Overlay.Proofs.NameTokens
import Overlay.Proofs.SnakeCase

/-!
# The key of a name is a name

Keys are written into the generated module as the names of fields, so they had better
be names. Snake case adds underscores, which go on with a name and may even start one,
and takes the lower-case form, which for a letter of a name gives letters again; this
is another thing that the table of lower-case forms decides (`lowerRuns_named`). The
one character with a form of two characters gets a combining mark, which may stand in a
name but not start one, and it comes second.

A raw name keeps its mark. What stands behind the mark is a name again, with an
underscore in front if it is a capitalised word.
-/

namespace Overlay.Text

/-- The small ASCII letters. -/
def smallLetterRange : Range := (0x61, 0x7a)

/-- Whether all that a run gives lies in the range. -/
def Run.inside (r : Run) (range : Range) : Bool :=
  range.1.ble (r.image r.first) && (r.image r.last).ble range.2

/-- Whether a run moves nothing that lies in the range. -/
def Run.outside (r : Run) (range : Range) : Bool :=
  r.last.blt range.1 || range.2.blt r.first

/-- A run gives nothing but letters, or moves nothing that stands in names. -/
theorem lowerRuns_named :
    lowerRuns.all (fun r =>
      (smallLetterRange :: startRanges).any r.inside &&
        (smallLetterRange :: continueRanges).any r.inside ||
      startRanges.all r.outside && continueRanges.all r.outside) = true := by
  decide +kernel

theorem inRanges_eq_false {r : Run} {ranges : List Range} {n : Nat}
    (h : ranges.all r.outside = true) (hn : r.has n = true) : inRanges ranges n = false := by
  rw [inRanges, List.any_eq_false]
  intro range hrange
  have hout := List.all_eq_true.mp h range hrange
  simp only [Run.outside, Bool.or_eq_true, Nat.blt_eq] at hout
  simp only [Run.has, Bool.and_eq_true, decide_eq_true_eq] at hn
  simp only [Bool.and_eq_true, decide_eq_true_eq]
  omega

theorem image_bounds {r : Run} {n : Nat} (habove : 90 < (r.first : Int) + r.shift)
    (hn : r.has n = true) : r.image r.first ≤ r.image n ∧ r.image n ≤ r.image r.last := by
  simp only [Run.has, Bool.and_eq_true, decide_eq_true_eq] at hn
  have himage := Run.image_eq habove hn.1.1
  have himageFirst := Run.image_eq habove (Nat.le_refl r.first)
  have himageLast := Run.image_eq habove (Nat.le_trans hn.1.1 hn.1.2)
  omega

/-- Where a run leads inside of a table it leads to a small letter or into the table. -/
theorem isSmall_or_inRanges {r : Run} {ranges : List Range} {n : Nat}
    (h : (smallLetterRange :: ranges).any r.inside = true)
    (habove : 90 < (r.first : Int) + r.shift) (hn : r.has n = true) :
    (0x61 ≤ r.image n ∧ r.image n ≤ 0x7a) ∨ inRanges ranges (r.image n) = true := by
  obtain ⟨hfirst, hlast⟩ := image_bounds habove hn
  obtain ⟨range, hmem, hinside⟩ := List.any_eq_true.mp h
  simp only [Run.inside, Bool.and_eq_true, Nat.ble_eq] at hinside
  rcases List.mem_cons.mp hmem with rfl | hmem
  · left
    simp only [smallLetterRange] at hinside
    omega
  · right
    rw [inRanges, List.any_eq_true]
    exact ⟨range, hmem, by simp; omega⟩

/-- A character that may stand anywhere in a name. -/
structure Letter (c : Char) : Prop where
  start : isIdentStart c = true
  next : isContinue c = true

/-- The tables hold characters, none of them an ASCII one. -/
theorem ranges_valid :
    (startRanges ++ continueRanges).all (fun range =>
      Nat.ble 128 range.1 &&
        (range.2.blt 0xd800 || Nat.blt 0xdfff range.1 && range.2.blt 0x110000)) = true := by
  decide +kernel

theorem toNat_of_inRanges {ranges : List Range} {n : Nat}
    (hranges : ∀ range ∈ ranges, range ∈ startRanges ++ continueRanges)
    (h : inRanges ranges n = true) : 128 ≤ n ∧ (Char.ofNat n).toNat = n := by
  obtain ⟨range, hmem, hin⟩ := List.any_eq_true.mp h
  have hvalid := List.all_eq_true.mp ranges_valid range (hranges range hmem)
  simp only [Bool.and_eq_true, Bool.or_eq_true, Nat.ble_eq, Nat.blt_eq,
    decide_eq_true_eq] at hvalid hin
  have hchar : n.isValidChar := by
    rw [Nat.isValidChar]
    omega
  exact ⟨by omega, by rw [Char.toNat_ofNat, if_pos hchar]⟩

theorem isStart_of_inRanges {n : Nat} (h : inRanges startRanges n = true) :
    isStart (Char.ofNat n) = true := by
  obtain ⟨hle, htoNat⟩ := toNat_of_inRanges (fun range hr => List.mem_append_left _ hr) h
  rw [isStart, htoNat, if_neg (by omega), h]

theorem isContinue_of_inRanges {n : Nat} (h : inRanges continueRanges n = true) :
    isContinue (Char.ofNat n) = true := by
  obtain ⟨hle, htoNat⟩ := toNat_of_inRanges (fun range hr => List.mem_append_right _ hr) h
  rw [isContinue, htoNat, if_neg (by omega), h]

theorem letter_small {n : Nat} (hfirst : 0x61 ≤ n) (hlast : n ≤ 0x7a) :
    Letter (Char.ofNat n) := by
  have hall : ∀ k < 26, isIdentStart (Char.ofNat (0x61 + k)) = true ∧
      isContinue (Char.ofNat (0x61 + k)) = true := by decide
  obtain ⟨hstart, hnext⟩ := hall (n - 0x61) (by omega)
  rw [show 0x61 + (n - 0x61) = n by omega] at hstart hnext
  exact ⟨hstart, hnext⟩

theorem letter_image {r : Run} {c : Char} (hr : r ∈ lowerRuns) (hhas : r.has c.toNat = true)
    (hc : 128 ≤ c.toNat) (hname : isIdentStart c = true ∨ isContinue c = true) :
    Letter (Char.ofNat (r.image c.toNat)) := by
  have habove := lowerRuns_above r hr
  have hnamed := List.all_eq_true.mp lowerRuns_named r hr
  simp only [Bool.or_eq_true, Bool.and_eq_true] at hnamed
  rcases hnamed with ⟨hstart, hnext⟩ | ⟨hstart, hnext⟩
  · rcases isSmall_or_inRanges hstart habove hhas with hsmall | hstart
    · exact letter_small hsmall.1 hsmall.2
    · rcases isSmall_or_inRanges hnext habove hhas with hsmall | hnext
      · exact letter_small hsmall.1 hsmall.2
      · refine ⟨?_, isContinue_of_inRanges hnext⟩
        rw [isIdentStart, isStart_of_inRanges hstart, Bool.or_true]
  · exfalso
    have hno : isIdentStart c = false ∧ isContinue c = false := by
      have hne : (c == '_') = false := by
        rw [beq_eq_false_iff_ne]
        rintro rfl
        exact absurd hc (by decide)
      rw [isIdentStart, isStart, isContinue, if_neg (by omega), if_neg (by omega), hne,
        inRanges_eq_false hstart hhas, inRanges_eq_false hnext hhas]
      exact ⟨rfl, rfl⟩
    rw [hno.1, hno.2] at hname
    simp at hname

/-! ## Lower case -/

/-- Characters that may stand in a name after its first one. -/
def Continues (cs : List Char) : Prop := ∀ c ∈ cs, isContinue c = true

theorem isIdent_cons {c : Char} {cs : List Char} :
    isIdent (c :: cs) = true ↔ isIdentStart c = true ∧ Continues cs := by
  rw [isIdent, Bool.and_eq_true, List.all_eq_true]
  rfl

theorem isIdent_append {cs more : List Char} (h : isIdent cs = true) (hmore : Continues more) :
    isIdent (cs ++ more) = true := by
  cases cs with
  | nil => cases h
  | cons c cs =>
      obtain ⟨hc, hcs⟩ := isIdent_cons.mp h
      rw [List.cons_append, isIdent_cons]
      refine ⟨hc, fun d hd => ?_⟩
      rcases List.mem_append.mp hd with hd | hd
      · exact hcs d hd
      · exact hmore d hd

/-- ASCII characters of names stay such in lower case. -/
theorem toLower_named : ∀ n < 128,
    (isContinue (Char.ofNat n) = true → isContinue (Char.ofNat n).toLower = true) ∧
    (isIdentStart (Char.ofNat n) = true → isIdentStart (Char.ofNat n).toLower = true) := by
  decide

theorem isIdent_dotted : isIdent ['i', Char.ofNat 0x307] = true := by decide +kernel

theorem isIdent_singleton {c : Char} (h : isIdentStart c = true) : isIdent [c] = true :=
  isIdent_cons.mpr ⟨h, fun _ hd => absurd hd List.not_mem_nil⟩

theorem continues_lowerChar {c : Char} (h : isContinue c = true) : Continues (lowerChar c) := by
  intro d hd
  rw [lowerChar] at hd
  split at hd
  · next hascii =>
      have hlower := (toLower_named c.toNat hascii).1
      rw [Char.ofNat_toNat] at hlower
      rw [List.mem_singleton.mp hd]
      exact hlower h
  · split at hd
    · have hmark := (isIdent_cons.mp isIdent_dotted).2
      rcases List.mem_cons.mp hd with rfl | hd
      · decide
      · exact hmark d hd
    · split at hd
      · next r hr =>
          rw [List.mem_singleton.mp hd]
          exact (letter_image (List.mem_of_find?_eq_some hr) (by simpa using List.find?_some hr)
            (by omega) (Or.inr h)).next
      · rw [List.mem_singleton.mp hd]
        exact h

theorem isIdent_lowerChar {c : Char} (h : isIdentStart c = true) :
    isIdent (lowerChar c) = true := by
  rw [lowerChar]
  split
  · next hascii =>
      have hlower := (toLower_named c.toNat hascii).2
      rw [Char.ofNat_toNat] at hlower
      exact isIdent_singleton (hlower h)
  · split
    · exact isIdent_dotted
    · split
      · next r hr =>
          exact isIdent_singleton (letter_image (List.mem_of_find?_eq_some hr)
            (by simpa using List.find?_some hr) (by omega) (Or.inl h)).start
      · exact isIdent_singleton h

/-- A sigma becomes one of its two small forms, and every other character its own form. -/
theorem lowerFrom_cons (before : List Char) (c : Char) (cs : List Char) :
    ∃ form, lowerFrom before (c :: cs) = form ++ lowerFrom (c :: before) cs ∧
      ((∃ d, form = [d] ∧ Letter d) ∨ form = lowerChar c) := by
  rw [lowerFrom]
  refine ⟨_, rfl, ?_⟩
  split
  · left
    split
    · exact ⟨_, rfl, by decide +kernel, by decide +kernel⟩
    · exact ⟨_, rfl, by decide +kernel, by decide +kernel⟩
  · right
    rfl

theorem continues_lowerFrom {cs : List Char} (h : Continues cs) (before : List Char) :
    Continues (lowerFrom before cs) := by
  induction cs generalizing before with
  | nil => exact fun d hd => absurd hd List.not_mem_nil
  | cons c cs ih =>
      obtain ⟨form, hlower, hform⟩ := lowerFrom_cons before c cs
      rw [hlower]
      intro d hd
      rcases List.mem_append.mp hd with hd | hd
      · rcases hform with ⟨e, rfl, he⟩ | rfl
        · rw [List.mem_singleton.mp hd]
          exact he.next
        · exact continues_lowerChar (h c List.mem_cons_self) d hd
      · exact ih (fun e he => h e (List.mem_cons_of_mem _ he)) _ d hd

theorem isIdent_lowerFrom {cs : List Char} (h : isIdent cs = true) (before : List Char) :
    isIdent (lowerFrom before cs) = true := by
  cases cs with
  | nil => cases h
  | cons c cs =>
      obtain ⟨hc, hcs⟩ := isIdent_cons.mp h
      obtain ⟨form, hlower, hform⟩ := lowerFrom_cons before c cs
      rw [hlower]
      refine isIdent_append ?_ (continues_lowerFrom hcs _)
      rcases hform with ⟨e, rfl, he⟩ | rfl
      · exact isIdent_singleton he.start
      · exact isIdent_lowerChar hc

/-! ## Snake case -/

namespace Case

theorem mem_underscored {cs : List Char} {d : Char} (h : d ∈ underscored cs) :
    d ∈ cs ∨ d = '_' := by
  induction cs with
  | nil => cases h
  | cons c cs ih =>
      rw [underscored_cons, closed] at h
      rcases List.mem_append.mp h with h | h
      · split at h <;> simp at h <;> simp [h]
        tauto
      · rcases ih h with h | h
        · exact Or.inl (List.mem_cons_of_mem _ h)
        · exact Or.inr h

theorem continues_underscored {cs : List Char} (h : Continues cs) :
    Continues (underscored cs) := by
  intro d hd
  rcases mem_underscored hd with hd | rfl
  · exact h d hd
  · decide

theorem isIdent_underscored {cs : List Char} (h : isIdent cs = true) :
    isIdent (underscored cs) = true := by
  cases cs with
  | nil => cases h
  | cons c cs =>
      obtain ⟨hc, hcs⟩ := isIdent_cons.mp h
      rw [underscored_cons]
      refine isIdent_append ?_ (continues_underscored hcs)
      rw [closed]
      split
      · refine isIdent_cons.mpr ⟨hc, fun d hd => ?_⟩
        rw [List.mem_singleton.mp hd]
        decide
      · exact isIdent_singleton hc

theorem toList_snakeCase (name : String) :
    (snakeCase name).toList = lowerFrom [] (underscored name.toList) := by
  rw [snakeCase, lowerCase, String.toList_ofList, String.toList_ofList, divide,
    splitBoundaries_splitWords]

/-- The key of a name is a name. -/
theorem isIdent_snakeCase {name : String} (h : isIdent name.toList = true) :
    isIdent (snakeCase name).toList = true := by
  rw [toList_snakeCase]
  exact isIdent_lowerFrom (isIdent_underscored h) []

theorem isContinue_of_capital {c : Char} (h : isCapital c = true) : isContinue c = true := by
  have hupper : c.isUpper = true := by rw [← isCapital_eq_isUpper, h]
  have hascii : c.toNat < 128 := by
    by_contra hc
    rw [isUpper_of_lt (by omega)] at hupper
    cases hupper
  rw [isContinue, if_pos hascii, Char.isAlphanum, Char.isAlpha, hupper]
  rfl

/-- The key of a raw name is a raw name. -/
theorem snakeCase_raw {name : String} {cs : List Char} (hname : name.toList = 'r' :: '#' :: cs)
    (h : isIdent cs = true) :
    ∃ ks, (snakeCase name).toList = 'r' :: '#' :: ks ∧ isIdent ks = true := by
  have hmark : boundaryAt ('r' :: '#' :: cs) 0 = false := by
    rw [boundaryAt_zero]
    rfl
  rw [toList_snakeCase, hname, underscored_cons, underscored_cons, hmark]
  cases hword : boundaryAt ('#' :: cs) 0 with
  | true =>
      -- A word starts behind the mark, so what follows the underscore is a capital.
      refine ⟨lowerFrom ['#', 'r'] ('_' :: underscored cs), rfl, isIdent_lowerFrom ?_ _⟩
      refine isIdent_cons.mpr ⟨by decide, continues_underscored ?_⟩
      cases cs with
      | nil => cases h
      | cons c cs =>
          rw [boundaryAt_zero, Bool.and_eq_true] at hword
          intro d hd
          rcases List.mem_cons.mp hd with rfl | hd
          · exact isContinue_of_capital hword.1
          · exact (isIdent_cons.mp h).2 d hd
  | false =>
      exact ⟨lowerFrom ['#', 'r'] (underscored cs), rfl,
        isIdent_lowerFrom (isIdent_underscored h) _⟩

end Case

end Overlay.Text
