import Overlay.Proofs.RoundTrip

/-!
# The order of the assignments

The leaves of a tree are visited key by key, so their paths come in ascending
order. The lines that are written for them need not: a name has its keys in
capitals, and a capital letter comes before an underscore where the small one comes
after it. With the keys `a_b` and `ab` the line for `A_B` is written first, and the
one for `AB` should have been. A key that another one begins with is the second
case, since what follows the shorter one is a separator or an equals sign, and both
come after the digits.

Two lines part where their paths do. Prefix and common keys are the same in both, so
they decide nothing, and the lines are in order exactly if they are in order from
the fork on. If the keys can be parts of a name, then the key at the fork together
with the mark after it settles the matter, whatever follows
(`assignments_sorted_iff`).
-/

namespace Overlay.Layer

open Overlay.Tree

/-! ## Order of texts -/

theorem append_lt_append_iff {common x y : List Char} :
    common ++ x < common ++ y ↔ x < y := by
  induction common with
  | nil => exact Iff.rfl
  | cons c common ih =>
      rw [List.cons_append, List.cons_append, List.cons_lt_cons_iff, ih]
      simp

/-- Neither of two texts is the beginning of the other. -/
def Forked (x y : List Char) : Prop := ¬ x <+: y ∧ ¬ y <+: x

theorem Forked.symm {x y : List Char} (h : Forked x y) : Forked y x := ⟨h.2, h.1⟩

/-- What follows two texts that part does not change their order. -/
theorem Forked.append_lt_append_iff {x y : List Char} (h : Forked x y)
    (u v : List Char) : x ++ u < y ++ v ↔ x < y := by
  induction x generalizing y with
  | nil => exact absurd List.nil_prefix h.1
  | cons a x ih =>
      cases y with
      | nil => exact absurd List.nil_prefix h.2
      | cons b y =>
          rw [List.cons_append, List.cons_append, List.cons_lt_cons_iff,
            List.cons_lt_cons_iff]
          by_cases hab : a = b
          · subst hab
            have hrest : Forked x y := by
              simpa only [Forked, List.cons_prefix_cons, true_and] using h
            rw [ih hrest]
          · simp [hab]

theorem Forked.le_iff_lt {x y : List Char} (h : Forked x y) : x ≤ y ↔ x < y := by
  constructor
  · intro hle
    refine lt_of_le_of_ne hle ?_
    rintro rfl
    exact h.1 (List.prefix_refl x)
  · exact le_of_lt

/-! ## Order of paths -/

/-- A path comes before another one: they part at two keys in this order. -/
def Before (p q : List String) : Prop :=
  ∃ outer j p' k q', p = outer ++ j :: p' ∧ q = outer ++ k :: q' ∧ j < k

theorem Before.below {p q : List String} (h : Before p q) (outer : List String) :
    Before (outer ++ p) (outer ++ q) := by
  obtain ⟨common, j, p', k, q', rfl, rfl, hlt⟩ := h
  exact ⟨outer ++ common, j, p', k, q', by simp, by simp, hlt⟩

theorem Before.lt {p q : List String} (h : Before p q) : p < q := by
  obtain ⟨outer, j, p', k, q', rfl, rfl, hlt⟩ := h
  exact List.append_left_lt (List.cons_lt_cons_iff.mpr (Or.inl hlt))

mutual

theorem leaves_before {t : Tree} (ht : Ordered t) (outer : List String) :
    (leaves outer t).Pairwise fun a b => Before a.1 b.1 := by
  match t with
  | .dict es =>
      rw [leaves]
      exact entryLeaves_before ht outer
  | .null | .bool _ | .number _ | .text _ | .list _ =>
      rw [leaves_leaf rfl]
      split
      · exact List.Pairwise.nil
      · exact List.pairwise_singleton _ _

theorem entryLeaves_before {es : Entries} (hes : OrderedEntries es)
    (outer : List String) :
    (entryLeaves outer es).Pairwise fun a b => Before a.1 b.1 := by
  match es with
  | [] => exact List.Pairwise.nil
  | (k, t) :: rest =>
      rw [entryLeaves, List.pairwise_append]
      refine ⟨leaves_before hes.2.1 _, entryLeaves_before hes.2.2 outer, ?_⟩
      rintro ⟨p, a⟩ hp ⟨q, b⟩ hq
      obtain ⟨_, below, rfl, _⟩ := (mem_leaves hes.2.1).mp hp
      obtain ⟨path, rfl, hleaf⟩ := (mem_entryLeaves hes.2.2).mp hq
      -- A leaf of the rest is below a key of the rest, which comes after `k`.
      cases path with
      | nil => exact absurd hleaf not_leafAt_dict_nil
      | cons j path =>
          obtain ⟨u, hu, _⟩ := leafAt_dict_cons.mp hleaf
          exact ⟨outer, k, below, j, path, by simp, rfl, hes.1 _ (mem_of_find? hu)⟩

end

/-- In a list that ascends, a second relation holds from left to right exactly if it
holds wherever the first one does. -/
theorem pairwise_iff_of_ascending {α : Type} {below related : α → α → Prop} {l : List α}
    (hl : l.Pairwise below) (hasymm : ∀ a b, below a b → ¬ below b a) :
    l.Pairwise related ↔ ∀ a ∈ l, ∀ b ∈ l, below a b → related a b := by
  constructor
  · intro h a ha b hb hab
    obtain ⟨i, hi, rfl⟩ := List.getElem_of_mem ha
    obtain ⟨j, hj, rfl⟩ := List.getElem_of_mem hb
    rcases Nat.lt_trichotomy i j with hij | rfl | hji
    · exact List.pairwise_iff_getElem.mp h i j hi hj hij
    · exact absurd hab (hasymm _ _ hab)
    · exact absurd (List.pairwise_iff_getElem.mp hl j i hj hi hji) (hasymm _ _ hab)
  · intro h
    exact hl.imp_of_mem fun ha hb hab => h _ ha _ hb hab

/-! ## Lines from the fork on -/

/-- What the names of all leaves below some keys begin with. -/
def opening (envPrefix : Option String) (outer : List String) : List Char :=
  (withPrefix envPrefix "").toList ++
    outer.flatMap fun key => (capitals key ++ nesting).toList

theorem toList_variableName (outer : List String) (j : String) (p : List String) :
    (variableName (outer ++ j :: p)).toList =
      (outer.flatMap fun key => (capitals key ++ nesting).toList) ++
        (variableName (j :: p)).toList := by
  induction outer with
  | nil => rfl
  | cons key outer ih =>
      obtain ⟨next, rest, hrest⟩ :=
        List.exists_cons_of_ne_nil (l := outer ++ j :: p) (by simp)
      rw [List.cons_append, hrest, variableName_cons_cons, ← hrest, ih]
      simp [nesting]

theorem toList_assignment (envPrefix : Option String) (outer : List String) (j : String)
    (p : List String) (leaf : Tree) :
    (assignment envPrefix (outer ++ j :: p) leaf).toList =
      opening envPrefix outer ++ (assignment none (j :: p) leaf).toList := by
  rw [assignment, assignment, opening]
  cases envPrefix <;> simp [withPrefix, toList_variableName]

/-- The capitals of a key and the mark that follows them: an equals sign at the end of
a path, and else the separator. -/
def heading (key : String) (rest : List String) : String :=
  capitals key ++ if rest.isEmpty then "=" else nesting

theorem exists_heading (j : String) (p : List String) (leaf : Tree) :
    ∃ rest, (assignment none (j :: p) leaf).toList = (heading j p).toList ++ rest := by
  rw [assignment, withPrefix, heading]
  cases p with
  | nil => exact ⟨(leafText leaf).toList, by simp [variableName]⟩
  | cons next p =>
      refine ⟨(variableName (next :: p)).toList ++ '=' :: (leafText leaf).toList, ?_⟩
      simp [variableName_cons_cons, nesting]

/-- A text that no mark can run into: it has no equals sign, no two underscores in a
row, and none at its end. -/
structure Solid (cs : List Char) : Prop where
  noEquals : '=' ∉ cs
  whole : Whole cs
  closed : cs.getLast? ≠ some '_'

theorem Solid.tail {c : Char} {cs : List Char} (h : Solid (c :: cs)) : Solid cs where
  noEquals hmem := h.noEquals (List.mem_cons_of_mem _ hmem)
  whole hinside := h.whole (hinside.trans (List.suffix_cons c cs).isInfix)
  closed hlast := by
    cases cs with
    | nil => cases hlast
    | cons d cs => exact h.closed (by rw [List.getLast?_cons_cons]; exact hlast)

theorem PlainKey.solid {key : String} (h : PlainKey key) : Solid (capitals key).toList where
  noEquals hmem := by
    rw [toList_capitals, List.mem_map] at hmem
    obtain ⟨c, hc, heq⟩ := hmem
    rw [toUpper_eq_iff (by decide)] at heq
    exact h.noEquals (heq ▸ hc)
  whole := by
    rw [toList_capitals, whole_map toUpper_keeps]
    exact h.whole
  closed := by
    rw [toList_capitals, Ne, getLast?_map toUpper_keeps]
    exact h.closed

/-- The marks after a key. -/
def IsMark (m : List Char) : Prop := m = ['='] ∨ m = ['_', '_']

/-- A solid text parts from a mark at its first characters, whatever follows it. -/
theorem Solid.forked {c : Char} {cs m : List Char} (h : Solid (c :: cs)) (hm : IsMark m)
    (rest : List Char) : Forked m (c :: cs ++ rest) := by
  simp only [Forked, List.cons_append]
  rcases hm with rfl | rfl
  · have hc : c ≠ '=' := fun heq => h.noEquals (heq ▸ List.mem_cons_self)
    simp [hc, hc.symm]
  · cases cs with
    | nil =>
        have hc : c ≠ '_' := by simpa using h.closed
        simp [hc, hc.symm]
    | cons d cs =>
        have hpair : ¬ (c = '_' ∧ d = '_') := (whole_cons_cons.mp h.whole).1
        constructor
        · intro hstarts
          obtain ⟨rfl, hnext⟩ := List.cons_prefix_cons.mp hstarts
          exact hpair ⟨rfl, (List.cons_prefix_cons.mp hnext).1.symm⟩
        · intro hstarts
          obtain ⟨rfl, hnext⟩ := List.cons_prefix_cons.mp hstarts
          exact hpair ⟨rfl, (List.cons_prefix_cons.mp hnext).1⟩

theorem Solid.eq_of_prefix {x y m m' : List Char} (hx : Solid x) (hy : Solid y)
    (hm : IsMark m) (hm' : IsMark m') (h : x ++ m <+: y ++ m') : x = y := by
  induction x generalizing y with
  | nil =>
      cases y with
      | nil => rfl
      | cons d y => exact absurd h (hy.forked hm m').1
  | cons c x ih =>
      cases y with
      | nil => exact absurd h (hx.forked hm' m).2
      | cons d y =>
          obtain ⟨rfl, hrest⟩ := List.cons_prefix_cons.mp h
          rw [ih hx.tail hy.tail hrest]

theorem isMark_heading (rest : List String) :
    IsMark (if rest.isEmpty then "=" else nesting).toList := by
  split
  · exact Or.inl rfl
  · exact Or.inr rfl

theorem PlainKey.eq_of_heading {j k : String} (hj : PlainKey j) (hk : PlainKey k)
    {p q : List String} (h : (heading j p).toList <+: (heading k q).toList) : j = k := by
  rw [heading, heading, String.toList_append, String.toList_append] at h
  have hcapitals : capitals j = capitals k := String.toList_inj.mp
    (hj.solid.eq_of_prefix hk.solid (isMark_heading p) (isMark_heading q) h)
  rw [← hj.smallLetters_eq, ← smallLetters_capitals, hcapitals, smallLetters_capitals,
    hk.smallLetters_eq]

theorem forked_heading {j k : String} (hj : PlainKey j) (hk : PlainKey k) (hne : j ≠ k)
    (p q : List String) : Forked (heading j p).toList (heading k q).toList :=
  ⟨fun h => hne (hj.eq_of_heading hk h), fun h => hne (hk.eq_of_heading hj h).symm⟩

/-- For keys that can be parts of a name, the lines are in order if their headings
are. -/
theorem assignment_le_iff {j k : String} (hj : PlainKey j) (hk : PlainKey k) (hne : j ≠ k)
    (p q : List String) (a b : Tree) :
    assignment none (j :: p) a ≤ assignment none (k :: q) b ↔
      heading j p < heading k q := by
  have hfork := forked_heading hj hk hne p q
  obtain ⟨u, hu⟩ := exists_heading j p a
  obtain ⟨v, hv⟩ := exists_heading k q b
  rw [← not_lt, String.lt_iff_toList_lt, hu, hv, hfork.symm.append_lt_append_iff,
    not_lt, hfork.le_iff_lt, ← String.lt_iff_toList_lt]

/-! ## All lines -/

/-- Two leaves whose paths part at the keys `j` and `k`, the first one before the
second. -/
def Forks (t : Tree) (j : String) (p : List String) (a : Tree) (k : String)
    (q : List String) (b : Tree) : Prop :=
  ∃ outer, LeafAt t (outer ++ j :: p) a ∧ LeafAt t (outer ++ k :: q) b ∧ j < k

theorem sorted_iff_from_fork (envPrefix : Option String) {t : Tree} (ht : Ordered t) :
    (assignments envPrefix t).Pairwise (· ≤ ·) ↔
      ∀ j p a k q b, Forks t j p a k q b →
        assignment none (j :: p) a ≤ assignment none (k :: q) b := by
  have hle (outer : List String) (j : String) (p : List String) (a : Tree) (k : String)
      (q : List String) (b : Tree) :
      assignment envPrefix (outer ++ j :: p) a ≤ assignment envPrefix (outer ++ k :: q) b ↔
        assignment none (j :: p) a ≤ assignment none (k :: q) b := by
    rw [← not_lt, ← not_lt, String.lt_iff_toList_lt, String.lt_iff_toList_lt,
      toList_assignment, toList_assignment, append_lt_append_iff]
  have hmem (path : List String) (leaf : Tree) :
      (path, leaf) ∈ leaves [] t ↔ path ≠ [] ∧ LeafAt t path leaf := by
    rw [mem_leaves ht]
    simp
  rw [assignments, List.pairwise_map, pairwise_iff_of_ascending (leaves_before ht [])
    fun a b hab hba => lt_asymm hab.lt hba.lt]
  constructor
  · rintro h j p a k q b ⟨outer, ha, hb, hlt⟩
    rw [← hle outer]
    exact h (_, a) ((hmem _ _).mpr ⟨by simp, ha⟩) (_, b) ((hmem _ _).mpr ⟨by simp, hb⟩)
      ⟨outer, j, p, k, q, rfl, rfl, hlt⟩
  · rintro h ⟨path, a⟩ ha ⟨path', b⟩ hb ⟨outer, j, p, k, q, rfl, rfl, hlt⟩
    exact (hle outer j p a k q b).mpr
      (h j p a k q b ⟨outer, ((hmem _ _).mp ha).2, ((hmem _ _).mp hb).2, hlt⟩)

/-- The order of the assignments. Their paths always ascend. The lines ascend, under
every prefix, exactly if those of any two leaves do from the fork of their paths on;
and for keys that can be parts of a name, exactly if at every fork the two keys do,
in capitals and with the mark that follows. -/
theorem assignments_sorted_iff (envPrefix : Option String) {t : Tree} (ht : Ordered t) :
    (leaves [] t).Pairwise (fun a b => Before a.1 b.1) ∧
    ((assignments envPrefix t).Pairwise (· ≤ ·) ↔
      ∀ j p a k q b, Forks t j p a k q b →
        assignment none (j :: p) a ≤ assignment none (k :: q) b) ∧
    ((∀ path leaf, LeafAt t path leaf → ∀ key ∈ path, PlainKey key) →
      ((assignments envPrefix t).Pairwise (· ≤ ·) ↔
        ∀ j p a k q b, Forks t j p a k q b → heading j p < heading k q)) := by
  refine ⟨leaves_before ht [], sorted_iff_from_fork envPrefix ht, fun hplain => ?_⟩
  rw [sorted_iff_from_fork envPrefix ht]
  refine forall₄_congr fun j p a k => forall₂_congr fun q b => forall_congr' fun hfork => ?_
  obtain ⟨outer, ha, hb, hlt⟩ := hfork
  exact assignment_le_iff (hplain _ _ ha j (by simp)) (hplain _ _ hb k (by simp))
    hlt.ne p q a b

/-- Two keys of which the first comes first only as long as the letters are small. -/
def twoKeys : Tree := .dict [("a_b", .text "1"), ("ab", .text "2")]

theorem assignments_sorted_iff_twoKeys :
    Ordered twoKeys ∧
    (∀ path leaf, LeafAt twoKeys path leaf → ∀ key ∈ path, PlainKey key) ∧
    ¬ (assignments (some "APP") twoKeys).Pairwise (· ≤ ·) := by
  have hordered : Ordered twoKeys := by
    simp only [twoKeys, Ordered, OrderedEntries]
    decide
  have hplain : ∀ path leaf, LeafAt twoKeys path leaf → ∀ key ∈ path, PlainKey key := by
    intro path leaf h
    have hmem := (mem_entryLeaves hordered).mpr ⟨path, (List.nil_append path).symm, h⟩
    simp only [entryLeaves, leaves] at hmem
    simp at hmem
    rcases hmem with ⟨rfl, rfl⟩ | ⟨rfl, rfl⟩ <;> decide
  have hfork : Forks twoKeys "a_b" [] (.text "1") "ab" [] (.text "2") :=
    ⟨[], ⟨rfl, rfl⟩, ⟨rfl, rfl⟩, by decide⟩
  refine ⟨hordered, hplain, fun hsorted => ?_⟩
  have hlt := ((assignments_sorted_iff (some "APP") hordered).2.2 hplain).mp hsorted
    _ _ _ _ _ _ hfork
  exact absurd hlt (by decide)

end Overlay.Layer
