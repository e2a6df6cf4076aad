import Mathlib
import Overlay.Layer.Prefix

/-!
# Names that stand for paths

A path is spelled as the name of a variable by joining its keys, in capitals,
with two underscores; a name is read by splitting it at every two underscores
and taking small letters. This file says for which paths reading undoes
spelling, and the answer is exact: `keyPath_variableName_iff`.

Splitting goes from the left, so a piece never has two underscores in a row,
and a piece with another one after it never ends in an underscore, for its last
underscore and the next one would have been taken for the separator. These are
the only two things that can go wrong beside the case of letters. Nothing is
asked of a key's beginning or of the end of the last key.
-/

namespace Overlay.Layer

/-! ## Two underscores -/

/-- No two underscores in a row. -/
def Whole (cs : List Char) : Prop := ¬ ['_', '_'] <:+: cs

instance (cs : List Char) : Decidable (Whole cs) :=
  inferInstanceAs (Decidable (¬ ['_', '_'] <:+: cs))

theorem whole_nil : Whole [] := by
  intro h
  simpa using h.length_le

theorem whole_one (c : Char) : Whole [c] := by
  intro h
  simpa using h.length_le

theorem whole_cons_cons {c d : Char} {cs : List Char} :
    Whole (c :: d :: cs) ↔ ¬ (c = '_' ∧ d = '_') ∧ Whole (d :: cs) := by
  rw [Whole, Whole, List.infix_cons_iff, List.cons_prefix_cons,
    List.cons_prefix_cons, not_or]
  simp [eq_comm]

theorem whole_snoc {cs : List Char} {c : Char} :
    Whole (cs ++ [c]) ↔ Whole cs ∧ ¬ (cs.getLast? = some '_' ∧ c = '_') := by
  induction cs with
  | nil => simp [whole_nil, whole_one]
  | cons b cs ih =>
      cases cs with
      | nil => simp [whole_cons_cons, whole_one]
      | cons d cs =>
          simp only [List.cons_append] at ih ⊢
          rw [whole_cons_cons, ih, whole_cons_cons, List.getLast?_cons_cons,
            and_assoc]

/-- A change of letters that leaves underscores alone, and makes none. -/
def Keeps (f : Char → Char) : Prop := ∀ c, f c = '_' ↔ c = '_'

theorem whole_map {f : Char → Char} (hf : Keeps f) {cs : List Char} :
    Whole (cs.map f) ↔ Whole cs := by
  induction cs with
  | nil => simp [whole_nil]
  | cons c cs ih =>
      cases cs with
      | nil => simp [whole_one]
      | cons d cs =>
          rw [List.map_cons] at ih
          rw [List.map_cons, List.map_cons, whole_cons_cons, whole_cons_cons,
            ih, hf c, hf d]

theorem getLast?_map {f : Char → Char} (hf : Keeps f) {cs : List Char} :
    (cs.map f).getLast? = some '_' ↔ cs.getLast? = some '_' := by
  rw [List.getLast?_map, Option.map_eq_some_iff]
  constructor
  · rintro ⟨c, hc, hfc⟩
    rw [hc, (hf c).mp hfc]
  · intro h
    exact ⟨'_', h, (hf '_').mpr rfl⟩

theorem toUpper_eq_iff {c d : Char} (hd : d.isAlpha = false) :
    c.toUpper = d ↔ c = d := by
  constructor
  · rintro rfl
    rw [Char.isAlpha_toUpper_eq_isAlpha] at hd
    have hc : ¬ c.isLower := by simp_all [Char.isAlpha]
    exact (Char.toUpper_eq_of_not_isLower hc).symm
  · rintro rfl
    have hc : ¬ c.isLower := by simp_all [Char.isAlpha]
    exact Char.toUpper_eq_of_not_isLower hc

theorem toLower_eq_iff {c d : Char} (hd : d.isAlpha = false) :
    c.toLower = d ↔ c = d := by
  constructor
  · rintro rfl
    rw [Char.isAlpha_toLower_eq_isAlpha] at hd
    have hc : ¬ c.isUpper := by simp_all [Char.isAlpha]
    exact (Char.toLower_eq_of_not_isUpper hc).symm
  · rintro rfl
    have hc : ¬ c.isUpper := by simp_all [Char.isAlpha]
    exact Char.toLower_eq_of_not_isUpper hc

theorem toUpper_keeps : Keeps Char.toUpper := fun _ => toUpper_eq_iff (by decide)

theorem toLower_keeps : Keeps Char.toLower := fun _ => toLower_eq_iff (by decide)

/-! ## Letters -/

@[simp] theorem toList_capitals (s : String) :
    (capitals s).toList = s.toList.map Char.toUpper := by
  rw [capitals, String.toList_ofList]

@[simp] theorem toList_smallLetters (s : String) :
    (smallLetters s).toList = s.toList.map Char.toLower := by
  rw [smallLetters, String.toList_ofList]

theorem smallLetters_capitals (s : String) :
    smallLetters (capitals s) = smallLetters s := by
  rw [← String.toList_inj]
  simp

theorem smallLetters_smallLetters (s : String) :
    smallLetters (smallLetters s) = smallLetters s := by
  rw [← String.toList_inj]
  simp

/-! ## Splitting -/

theorem splitNesting_cons {part : List Char} {c : Char} {cs : List Char}
    (h : ¬ (c = '_' ∧ cs.head? = some '_')) :
    splitNesting part (c :: cs) = splitNesting (c :: part) cs := by
  rw [splitNesting]
  intro rest hc hcs
  exact h ⟨hc, by rw [hcs]; rfl⟩

theorem splitNesting_whole {cs : List Char} (h : Whole cs) (part : List Char) :
    splitNesting part cs = [String.ofList (part.reverse ++ cs)] := by
  induction cs generalizing part with
  | nil => rw [splitNesting, List.append_nil]
  | cons c cs ih =>
      cases cs with
      | nil =>
          rw [splitNesting_cons (by simp), splitNesting, List.reverse_cons]
      | cons d cs =>
          obtain ⟨hpair, hrest⟩ := whole_cons_cons.mp h
          rw [splitNesting_cons (by simpa using hpair), ih hrest,
            List.reverse_cons, List.append_assoc, List.singleton_append]

theorem splitNesting_append {cs : List Char} (h : Whole cs)
    (hlast : cs.getLast? ≠ some '_') (part rest : List Char) :
    splitNesting part (cs ++ '_' :: '_' :: rest) =
      String.ofList (part.reverse ++ cs) :: splitNesting [] rest := by
  induction cs generalizing part with
  | nil => rw [List.nil_append, splitNesting, List.append_nil]
  | cons c cs ih =>
      cases cs with
      | nil =>
          have hc : c ≠ '_' := by simpa using hlast
          rw [List.singleton_append, splitNesting_cons (by simp [hc]),
            splitNesting, List.reverse_cons]
      | cons d cs =>
          obtain ⟨hpair, hrest⟩ := whole_cons_cons.mp h
          rw [List.getLast?_cons_cons] at hlast
          rw [List.cons_append, splitNesting_cons (by simpa using hpair),
            ih hrest hlast, List.reverse_cons, List.append_assoc,
            List.singleton_append]

/-- A list of pieces as splitting gives them. -/
structure Pieces (pieces : List String) : Prop where
  nonempty : pieces ≠ []
  whole : ∀ s ∈ pieces, Whole s.toList
  closed : ∀ s ∈ pieces.dropLast, s.toList.getLast? ≠ some '_'

/-- The piece that is being read has no two underscores, and none together
with what follows. -/
theorem pieces_splitNesting {part cs : List Char} (hpart : Whole part.reverse)
    (hjoint : ¬ (part.head? = some '_' ∧ cs.head? = some '_')) :
    Pieces (splitNesting part cs) := by
  fun_induction splitNesting part cs with
  | case1 part => exact ⟨by simp, by simpa using hpart, by simp⟩
  | case2 part rest ih =>
      obtain ⟨hne, hwhole, hclosed⟩ := ih whole_nil (by simp)
      refine ⟨by simp, fun s hs => ?_, fun s hs => ?_⟩
      · rcases List.mem_cons.mp hs with rfl | hmem
        · simpa using hpart
        · exact hwhole s hmem
      · rw [List.dropLast_cons_of_ne_nil hne] at hs
        rcases List.mem_cons.mp hs with rfl | hmem
        · simpa using hjoint
        · exact hclosed s hmem
  | case3 part c rest hne ih =>
      refine ih ?_ ?_
      · rw [List.reverse_cons, whole_snoc, List.getLast?_reverse]
        exact ⟨hpart, by simpa using hjoint⟩
      · rintro ⟨hc, hrest⟩
        obtain ⟨tail, rfl⟩ := List.head?_eq_some_iff.mp hrest
        exact hne tail (by simpa using hc) rfl

/-! ## Spelling and reading -/

/-- A path that its name stands for: splitting could have given it, and its
letters are small. -/
structure Spellable (path : List String) : Prop extends Pieces path where
  small : ∀ s ∈ path, smallLetters s = s

theorem variableName_cons_cons (s t : String) (path : List String) :
    (variableName (s :: t :: path)).toList =
      s.toList.map Char.toUpper ++
        '_' :: '_' :: (variableName (t :: path)).toList := by
  simp [variableName, nesting]

/-- A name has no characters but underscores and those of the keys. -/
theorem mem_variableName {path : List String} {c : Char}
    (h : c ∈ (variableName path).toList) :
    c = '_' ∨ ∃ s ∈ path, ∃ d ∈ s.toList, d.toUpper = c := by
  induction path with
  | nil => simp [variableName] at h
  | cons s path ih =>
      cases path with
      | nil =>
          simp only [variableName, List.map_singleton,
            String.intercalate_singleton, toList_capitals, List.mem_map] at h
          exact Or.inr ⟨s, by simp, h⟩
      | cons t path =>
          rw [variableName_cons_cons, List.mem_append, List.mem_map] at h
          rcases h with h | h
          · exact Or.inr ⟨s, by simp, h⟩
          · rcases List.mem_cons.mp h with rfl | h
            · exact Or.inl rfl
            · rcases List.mem_cons.mp h with rfl | h
              · exact Or.inl rfl
              · refine (ih h).imp_right ?_
                rintro ⟨u, hu, hd⟩
                exact ⟨u, List.mem_cons_of_mem _ hu, hd⟩

theorem splitNesting_variableName {path : List String} (h : Pieces path) :
    splitNesting [] (variableName path).toList = path.map capitals := by
  induction path with
  | nil => exact absurd rfl h.nonempty
  | cons s path ih =>
      have hs : Whole (s.toList.map Char.toUpper) :=
        (whole_map toUpper_keeps).mpr (h.whole s List.mem_cons_self)
      cases path with
      | nil =>
          rw [variableName, List.map_singleton, String.intercalate_singleton,
            toList_capitals, splitNesting_whole hs]
          rfl
      | cons t path =>
          have hclosed : (s.toList.map Char.toUpper).getLast? ≠ some '_' := by
            rw [Ne, getLast?_map toUpper_keeps]
            exact h.closed s (by simp)
          have hrest : Pieces (t :: path) :=
            ⟨by simp, fun u hu => h.whole u (List.mem_cons_of_mem _ hu),
              fun u hu => h.closed u (by simp [hu])⟩
          rw [variableName_cons_cons, splitNesting_append hs hclosed, ih hrest]
          rfl

theorem keyPath_variableName {path : List String} (h : Spellable path) :
    keyPath (variableName path) = path := by
  rw [keyPath, splitNesting_variableName h.toPieces, List.map_map]
  refine (List.map_congr_left fun s hs => ?_).trans (List.map_id path)
  exact (smallLetters_capitals s).trans (h.small s hs)

theorem spellable_keyPath (name : String) : Spellable (keyPath name) := by
  have hpieces : Pieces (splitNesting [] name.toList) :=
    pieces_splitNesting whole_nil (by simp)
  obtain ⟨hne, hwhole, hclosed⟩ := hpieces
  refine ⟨⟨by simpa [keyPath] using hne, ?_, ?_⟩, ?_⟩
  · intro s hs
    obtain ⟨u, hu, rfl⟩ := List.mem_map.mp hs
    rw [toList_smallLetters, whole_map toLower_keeps]
    exact hwhole u hu
  · intro s hs
    rw [keyPath, ← List.map_dropLast] at hs
    obtain ⟨u, hu, rfl⟩ := List.mem_map.mp hs
    rw [toList_smallLetters, Ne, getLast?_map toLower_keeps]
    exact hclosed u hu
  · intro s hs
    obtain ⟨u, _, rfl⟩ := List.mem_map.mp hs
    exact smallLetters_smallLetters u

/-- Reading undoes spelling for these paths and no others. -/
theorem keyPath_variableName_iff {path : List String} :
    keyPath (variableName path) = path ↔ Spellable path :=
  ⟨fun h => h ▸ spellable_keyPath _, keyPath_variableName⟩

theorem keyPath_ne_nil (name : String) : keyPath name ≠ [] :=
  (spellable_keyPath name).nonempty

/-! ## Prefixes -/

/-- A prefix that was put in front of a name is found there again. -/
theorem afterPrefix?_withPrefix (envPrefix : Option String) (name : String) :
    afterPrefix? envPrefix (withPrefix envPrefix name) = some name := by
  cases envPrefix with
  | none => rfl
  | some p => simp [afterPrefix?, withPrefix]

end Overlay.Layer
