import Mathlib
import Overlay.Layer.Prefix
import Overlay.Text.Case

/-!
# Lower case has no capitals

The lower-case form of a text goes by the Unicode tables, while names of
variables only know the case of ASCII letters. What ties the two together is
that no character of a lower-case form is an ASCII capital: the ASCII letters
are lowered, and the table never moves a character down to where the capitals
are. So lowering the ASCII letters once more changes nothing, and a key in
snake case is one that the name of a variable can stand for.
-/

namespace Overlay.Text

theorem isUpper_of_lt {c : Char} (h : 90 < c.toNat) : c.isUpper = false := by
  have hle : ¬ c.val ≤ 'Z'.val := by
    rw [UInt32.le_iff_toNat_le, Char.toNat_val]
    exact Nat.not_le_of_lt h
  exact decide_eq_false fun hupper => hle hupper.2

theorem isUpper_ofNat {n : Nat} (h : 90 < n) : (Char.ofNat n).isUpper = false := by
  by_cases hn : n.isValidChar
  · exact isUpper_of_lt (by rwa [Char.toNat_ofNat, if_pos hn])
  · rw [Char.ofNat, dif_neg hn]
    rfl

/-- No run of the table ends up among the ASCII letters. -/
theorem lowerRuns_above : ∀ r ∈ lowerRuns, 90 < (r.first : Int) + r.shift := by
  decide +kernel

theorem isUpper_lowerChar {c d : Char} (h : d ∈ lowerChar c) :
    d.isUpper = false := by
  rw [lowerChar] at h
  split at h
  · rw [List.mem_singleton.mp h]
    exact Char.isUpper_toLower_eq_false c
  · next hascii =>
    split at h
    · rcases List.mem_pair.mp h with rfl | rfl
      · rfl
      · exact isUpper_ofNat (by decide)
    · split at h
      · next r hr =>
        have hmem : r ∈ lowerRuns := List.mem_of_find?_eq_some hr
        have hfound := List.find?_some hr
        simp only [Run.has, Bool.and_eq_true, decide_eq_true_eq] at hfound
        have habove := lowerRuns_above r hmem
        rw [List.mem_singleton.mp h]
        exact isUpper_ofNat (by omega)
      · rw [List.mem_singleton.mp h]
        exact isUpper_of_lt (by omega)

theorem isUpper_lowerFrom {before cs : List Char} {d : Char}
    (h : d ∈ lowerFrom before cs) : d.isUpper = false := by
  induction cs generalizing before with
  | nil => exact absurd h List.not_mem_nil
  | cons c cs ih =>
      rw [lowerFrom] at h
      rcases List.mem_append.mp h with hform | hrest
      · split at hform
        · split at hform
          · rw [List.mem_singleton.mp hform]
            exact isUpper_ofNat (by decide)
          · rw [List.mem_singleton.mp hform]
            exact isUpper_ofNat (by decide)
        · exact isUpper_lowerChar hform
      · exact ih hrest

theorem smallLetters_lowerCase (s : String) :
    Layer.smallLetters (lowerCase s) = lowerCase s := by
  rw [Layer.smallLetters, lowerCase, String.toList_ofList]
  congr 1
  refine (List.map_congr_left fun d hd => ?_).trans (List.map_id _)
  exact Char.toLower_eq_of_not_isUpper (by simp [isUpper_lowerFrom hd])

theorem Case.smallLetters_snakeCase (name : String) :
    Layer.smallLetters (snakeCase name) = snakeCase name :=
  smallLetters_lowerCase _

end Overlay.Text
