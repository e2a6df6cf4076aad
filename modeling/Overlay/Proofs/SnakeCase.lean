import Overlay.Proofs.LowerCase
import Overlay.Proofs.WordBoundaries

/-!
# Snake case is reached in one step

A name in snake case is in snake case already. Two things can go wrong when the
conversion is made a second time: a word might end where none ended before, or the
lower-case form of a lower-case form might be another one.

Words only end before capitals, and a lower-case form has none, so a second pass
over it finds nothing to divide. For the lower-case form itself the table decides:
`lowerRuns_settled` says that no run of it moves a character into a run, nor to the
one character with a form of two characters. What comes out is `Settled`, and a
text of settled characters is its own lower-case form whatever stands around them.
-/

namespace Overlay.Text

/-! ## The lower case of a lower case -/

/-- A character that lower case leaves alone wherever it stands. -/
structure Settled (c : Char) : Prop where
  form : lowerChar c = [c]
  not_sigma : c.toNat ≠ 0x3A3

/-- Where a run takes a code point. -/
def Run.image (r : Run) (n : Nat) : Nat := Int.toNat (n + r.shift)

/-- Whether everything that a run gives lies before another run, behind it, or
between its steps. -/
def Run.misses (r r' : Run) : Bool :=
  (r.image r.last).blt r'.first || r'.last.blt (r.image r.first) ||
    (r'.stride == 2 && (r.stride == 2 || r.first == r.last) &&
      (r.image r.first + r'.first) % 2 == 1)

/-- The dotted capital I, as a run. -/
def dottedCapital : Run := ⟨0x130, 0x130, 1, 0⟩

/-- The characters that have another lower-case form, the sigma among them. -/
def movedRuns : List Run := dottedCapital :: lowerRuns

theorem lowerRuns_settled :
    lowerRuns.all (fun r => movedRuns.all r.misses) = true := by
  decide +kernel

theorem Run.image_eq {r : Run} {n : Nat} (habove : 90 < (r.first : Int) + r.shift)
    (hn : r.first ≤ n) : (r.image n : Int) = n + r.shift := by
  rw [Run.image]
  omega

theorem Run.has_image {r r' : Run} {n : Nat} (hmiss : r.misses r' = true)
    (habove : 90 < (r.first : Int) + r.shift) (hn : r.has n = true) :
    r'.has (r.image n) = false := by
  simp only [Run.misses, Run.has, Bool.or_eq_true, Bool.and_eq_true, decide_eq_true_eq,
    beq_iff_eq, Nat.blt_eq] at hmiss hn
  obtain ⟨⟨hfirst, hlast⟩, hstep⟩ := hn
  have himage := Run.image_eq habove hfirst
  have himageFirst := Run.image_eq habove (Nat.le_refl r.first)
  have himageLast := Run.image_eq habove (Nat.le_trans hfirst hlast)
  rw [Run.has, Bool.eq_false_iff]
  simp only [ne_eq, Bool.and_eq_true, decide_eq_true_eq, beq_iff_eq, not_and]
  intro hinside
  rcases hmiss with (hbefore | hbehind) | ⟨⟨hstride, hsteps⟩, hparity⟩
  · omega
  · omega
  · -- An even number of steps away from the first code point, so the parity stays.
    rw [hstride]
    rcases hsteps with hsteps | hsteps
    · rw [hsteps] at hstep
      omega
    · omega

theorem toNat_toLower_lt {c : Char} (h : c.toNat < 128) : c.toLower.toNat < 128 := by
  by_cases hupper : c.isUpper
  · have hle : c.toNat ≤ 90 := by
      by_contra hgt
      rw [isUpper_of_lt (by omega)] at hupper
      cases hupper
    rw [Char.toLower_eq_of_isUpper hupper, Char.toNat_ofNat]
    split <;> omega
  · rwa [Char.toLower_eq_of_not_isUpper hupper]

theorem settled_of_small {c : Char} (h : c.toNat < 128) (hsmall : c.isUpper = false) :
    Settled c where
  form := by rw [lowerChar, if_pos h, Char.toLower_eq_of_not_isUpper (by simp [hsmall])]
  not_sigma := by omega

theorem settled_of_unmoved {c : Char} (h : 128 ≤ c.toNat)
    (hfree : ∀ r ∈ movedRuns, r.has c.toNat = false) : Settled c where
  form := by
    have hdotted : c.toNat ≠ 0x130 := by
      intro heq
      have hmissed := hfree dottedCapital List.mem_cons_self
      rw [heq] at hmissed
      exact absurd hmissed (by decide)
    have hnone : lowerRuns.find? (·.has c.toNat) = none := by
      rw [List.find?_eq_none]
      intro r hr
      simp [hfree r (List.mem_cons_of_mem _ hr)]
    rw [lowerChar, if_neg (by omega), if_neg (by simpa using hdotted), hnone]
  not_sigma := by
    intro heq
    have hcovered : ∃ r ∈ lowerRuns, r.has 0x3A3 = true := by decide +kernel
    obtain ⟨r, hr, hhas⟩ := hcovered
    have hmissed := hfree r (List.mem_cons_of_mem _ hr)
    rw [heq, hhas] at hmissed
    cases hmissed

theorem settled_ofNat {n : Nat} (habove : 90 < n)
    (hfree : ∀ r ∈ movedRuns, r.has n = false) :
    Settled (Char.ofNat n) := by
  by_cases hvalid : n.isValidChar
  · have htoNat : (Char.ofNat n).toNat = n := by rw [Char.toNat_ofNat, if_pos hvalid]
    by_cases hsmall : n < 128
    · exact settled_of_small (by rwa [htoNat]) (isUpper_ofNat habove)
    · exact settled_of_unmoved (by rw [htoNat]; omega) (by rwa [htoNat])
  · rw [Char.ofNat, dif_neg hvalid]
    exact settled_of_small (by decide) (by decide)

theorem settled_lowerChar {c d : Char} (hsigma : c.toNat ≠ 0x3A3) (h : d ∈ lowerChar c) :
    Settled d := by
  rw [lowerChar] at h
  split at h
  · next hascii =>
      rw [List.mem_singleton.mp h]
      exact settled_of_small (toNat_toLower_lt hascii) (Char.isUpper_toLower_eq_false c)
  · next hascii =>
      split at h
      · rcases List.mem_pair.mp h with rfl | rfl
        · exact settled_of_small (by decide) (by decide)
        · exact settled_ofNat (by decide) (by decide +kernel)
      · next hdotted =>
          split at h
          · next r hr =>
              have hmem : r ∈ lowerRuns := List.mem_of_find?_eq_some hr
              have habove := lowerRuns_above r hmem
              have hhas : r.has c.toNat = true := List.find?_some hr (p := fun r : Run => r.has c.toNat)
              rw [List.mem_singleton.mp h]
              refine settled_ofNat ?_ fun r' hr' => ?_
              · simp only [Run.has, Bool.and_eq_true, decide_eq_true_eq] at hhas
                omega
              · have hmiss := List.all_eq_true.mp lowerRuns_settled r hmem
                exact Run.has_image (List.all_eq_true.mp hmiss r' hr') habove hhas
          · next hnone =>
              rw [List.mem_singleton.mp h]
              refine ⟨?_, hsigma⟩
              rw [lowerChar, if_neg hascii, if_neg hdotted, hnone]

theorem settled_lowerFrom {before cs : List Char} {d : Char} (h : d ∈ lowerFrom before cs) :
    Settled d := by
  induction cs generalizing before with
  | nil => exact absurd h List.not_mem_nil
  | cons c cs ih =>
      rw [lowerFrom] at h
      rcases List.mem_append.mp h with hform | hrest
      · split at hform
        · split at hform
          · rw [List.mem_singleton.mp hform]
            exact settled_ofNat (by decide) (by decide +kernel)
          · rw [List.mem_singleton.mp hform]
            exact settled_ofNat (by decide) (by decide +kernel)
        · next hsigma => exact settled_lowerChar (by simpa using hsigma) hform
      · exact ih hrest

theorem lowerFrom_of_settled {cs : List Char} (h : ∀ c ∈ cs, Settled c)
    (before : List Char) : lowerFrom before cs = cs := by
  induction cs generalizing before with
  | nil => rfl
  | cons c cs ih =>
      obtain ⟨hform, hsigma⟩ := h c List.mem_cons_self
      rw [lowerFrom, if_neg (by simpa using hsigma), hform,
        ih (fun d hd => h d (List.mem_cons_of_mem _ hd))]
      rfl

theorem lowerCase_lowerCase (s : String) : lowerCase (lowerCase s) = lowerCase s := by
  rw [lowerCase, lowerCase, String.toList_ofList]
  rw [lowerFrom_of_settled (fun _ => settled_lowerFrom)]

/-! ## Names without capitals -/

namespace Case

theorem isCapital_eq_isUpper (c : Char) : isCapital c = c.isUpper := by
  simp [isCapital, Char.isUpper, Char.le_def]

theorem boundaryAt_of_no_capitals {cs : List Char} (h : ∀ c ∈ cs, isCapital c = false)
    (i : Nat) : boundaryAt cs i = false := by
  have hnext : cs[i + 1]?.any isCapital = false := by
    cases hc : cs[i + 1]? with
    | none => rfl
    | some c => exact h c (List.mem_of_getElem? hc)
  rw [boundaryAt, hnext, Bool.false_and]

/-- No word ends in a name without capitals. -/
theorem underscored_of_no_capitals {cs : List Char} (h : ∀ c ∈ cs, isCapital c = false) :
    underscored cs = cs := by
  induction cs with
  | nil => rfl
  | cons c cs ih =>
      rw [underscored_cons, boundaryAt_of_no_capitals h,
        ih fun d hd => h d (List.mem_cons_of_mem _ hd)]
      rfl

theorem divide_of_no_capitals {cs : List Char} (h : ∀ c ∈ cs, isCapital c = false) :
    divide cs = cs := by
  rw [divide, splitBoundaries_splitWords, underscored_of_no_capitals h]

/-- Dividing and lowering settles at once for every way to lower a text that settles
and leaves no capitals. -/
theorem lower_divide_settles {lower : String → String}
    (hsettles : ∀ s, lower (lower s) = lower s)
    (hcapitals : ∀ s, ∀ c ∈ (lower s).toList, isCapital c = false) (s : String) :
    lower (String.ofList (divide (lower s).toList)) = lower s := by
  rw [divide_of_no_capitals (hcapitals s), String.ofList_toList, hsettles]

theorem no_capitals_lowerCase (s : String) :
    ∀ c ∈ (lowerCase s).toList, isCapital c = false := by
  intro c hc
  rw [lowerCase, String.toList_ofList] at hc
  rw [isCapital_eq_isUpper]
  exact isUpper_lowerFrom hc

/-- Snake case changes nothing the second time, and nothing at all in a name that
has no capitals and is its own lower-case form. -/
theorem snakeCase_settles :
    (∀ name : String, snakeCase (snakeCase name) = snakeCase name) ∧
    ∀ name : String, (∀ c ∈ name.toList, isCapital c = false) → lowerCase name = name →
      snakeCase name = name := by
  refine ⟨?_, ?_⟩
  · intro name
    exact lower_divide_settles lowerCase_lowerCase no_capitals_lowerCase _
  · intro name hcapitals hlower
    rw [snakeCase, divide_of_no_capitals hcapitals, String.ofList_toList, hlower]

theorem snakeCase_settles_sigma :
    snakeCase "ὈδυσσεύΣ2X__" = "ὀδυσσεύς2_x__" ∧
      snakeCase "ὀδυσσεύς2_x__" = "ὀδυσσεύς2_x__" := by
  refine ⟨by decide +kernel, ?_⟩
  exact snakeCase_settles.2 _ (by simp [isCapital]) (by decide +kernel)

end Case

end Overlay.Text
