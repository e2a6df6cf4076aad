import Mathlib.Data.List.Basic
import Overlay.Files.Place

/-!
# The parts of a path

A path is a text, and what is done with it is done part by part. This file ties
the two together: slashes divide a text in one way, the parts of a joined path are
those of the two paths (`parts_join`), and taking a path apart into a directory and
a name brings in no part that was not there (`parts_parent?`, `fileName?_mem`). A
name that is joined to the directory of a path can be taken off again
(`parent?_join`).
Which parts are followed is `parts` up to dots (`mem_pathParts`), and the last of
them is what the text ends in (`suffix_of_getLast?_pathParts`).
-/

namespace Overlay.Files

namespace Path

/-! ## Dividing at slashes -/

theorem splitAt_append (part cs ds : List Char) :
    rawParts.splitAt part (cs ++ '/' :: ds) =
      rawParts.splitAt part cs ++ rawParts.splitAt [] ds := by
  induction cs generalizing part with
  | nil => rfl
  | cons c cs ih =>
      rw [List.cons_append, rawParts.splitAt, rawParts.splitAt]
      split
      · rw [ih, List.cons_append]
      · exact ih _

theorem splitAt_of_not_mem {part cs : List Char} (h : '/' ∉ cs) :
    rawParts.splitAt part cs = [String.ofList (part.reverse ++ cs)] := by
  induction cs generalizing part with
  | nil => rw [rawParts.splitAt, List.append_nil]
  | cons c cs ih =>
      obtain ⟨hc, hcs⟩ := not_or.mp (mt List.mem_cons.mpr h)
      have hne : (c == '/') = false := beq_false_of_ne (Ne.symm hc)
      rw [rawParts.splitAt, hne, if_neg Bool.false_ne_true, ih hcs, List.reverse_cons,
        List.append_assoc, List.singleton_append]

theorem not_mem_of_mem_splitAt {part cs : List Char} (hpart : '/' ∉ part) {s : String}
    (hs : s ∈ rawParts.splitAt part cs) : '/' ∉ s.toList := by
  induction cs generalizing part with
  | nil =>
      rw [rawParts.splitAt, List.mem_singleton] at hs
      rw [hs, String.toList_ofList, List.mem_reverse]
      exact hpart
  | cons c cs ih =>
      rw [rawParts.splitAt] at hs
      split at hs
      · rcases List.mem_cons.mp hs with rfl | hs
        · rw [String.toList_ofList, List.mem_reverse]
          exact hpart
        · exact ih (by simp) hs
      · next hc =>
        refine ih ?_ hs
        intro hmem
        rcases List.mem_cons.mp hmem with rfl | hmem
        · exact hc rfl
        · exact hpart hmem

theorem getLast?_splitAt (part cs : List Char) :
    ∃ l, (rawParts.splitAt part cs).getLast? = some (String.ofList l) ∧
      l <:+ part.reverse ++ cs := by
  induction cs generalizing part with
  | nil => exact ⟨part.reverse, rfl, by simp⟩
  | cons c cs ih =>
      rw [rawParts.splitAt]
      split
      · obtain ⟨l, hl, hsuffix⟩ := ih []
        have hne : rawParts.splitAt [] cs ≠ [] := by
          intro hnil
          rw [hnil] at hl
          cases hl
        rw [List.getLast?_cons_of_ne_nil hne]
        refine ⟨l, hl, hsuffix.trans ?_⟩
        exact (List.suffix_cons c cs).trans (List.suffix_append _ _)
      · obtain ⟨l, hl, hsuffix⟩ := ih (c :: part)
        rw [List.reverse_cons, List.append_assoc, List.singleton_append] at hsuffix
        exact ⟨l, hl, hsuffix⟩

theorem rawParts_append (p q : Path) : rawParts (p ++ "/" ++ q) = rawParts p ++ rawParts q := by
  have hlist : (p ++ "/" ++ q).toList = p.toList ++ '/' :: q.toList := by simp
  rw [rawParts, hlist, splitAt_append]
  rfl

theorem rawParts_of_not_mem {s : String} (h : '/' ∉ s.toList) : rawParts s = [s] := by
  rw [rawParts, splitAt_of_not_mem h]
  simp

theorem no_slash_of_mem_rawParts {p : Path} {s : String} (hs : s ∈ rawParts p) :
    '/' ∉ s.toList :=
  not_mem_of_mem_splitAt (by simp) hs

theorem rawParts_intercalate {l : List String} (hne : l ≠ []) (h : ∀ s ∈ l, '/' ∉ s.toList) :
    rawParts ("/".intercalate l) = l := by
  induction l with
  | nil => exact absurd rfl hne
  | cons s rest ih =>
      have hs := h s (List.mem_cons_self ..)
      cases rest with
      | nil => rw [String.intercalate_singleton, rawParts_of_not_mem hs]
      | cons r rest =>
          rw [String.intercalate_cons_cons, rawParts_append, rawParts_of_not_mem hs,
            ih (by simp) fun x hx => h x (List.mem_cons_of_mem s hx)]
          rfl

/-! ## Parts that say something -/

theorem parts_append (p q : Path) : parts (p ++ "/" ++ q) = parts p ++ parts q := by
  rw [parts, rawParts_append, List.filter_append]
  rfl

theorem parts_empty : parts "" = [] := by decide

theorem parts_of_not_mem {s : String} (h : '/' ∉ s.toList) (hidle : isIdle s = false) :
    parts s = [s] := by
  rw [parts, rawParts_of_not_mem h]
  simp [hidle]

/-- A slash at the end adds nothing. -/
theorem exists_of_getLast? {p : Path} (h : p.toList.getLast? = some '/') :
    ∃ q : Path, p = q ++ "/" := by
  obtain ⟨cs, hcs⟩ := List.getLast?_eq_some_iff.mp h
  exact ⟨String.ofList cs, String.toList_inj.mp (by simp [hcs])⟩

theorem parts_join (base : Path) {p : Path} (hp : p.isAbsolute = false) :
    parts (base.join p) = parts base ++ parts p := by
  rw [join, hp, if_neg Bool.false_ne_true]
  split
  · next hopen =>
    rcases Bool.or_eq_true _ _ ▸ hopen with hempty | hlast
    · have hbase : base = "" := by simpa using hempty
      rw [hbase, parts_empty, String.empty_append]
      rfl
    · obtain ⟨q, rfl⟩ := exists_of_getLast? (by simpa using hlast)
      have hq : parts (q ++ "/") = parts q := by
        have h := parts_append q ""
        rw [String.append_empty, parts_empty, List.append_nil] at h
        exact h
      rw [parts_append, hq]
  · exact parts_append base p

theorem isAbsolute_of_no_slash {s : String} (h : '/' ∉ s.toList) : isAbsolute s = false := by
  rw [isAbsolute]
  cases hs : s.toList with
  | nil => rfl
  | cons c rest =>
      rw [hs] at h
      have hc : c ≠ '/' := fun heq => h (heq ▸ List.mem_cons_self ..)
      simpa using hc

/-- What is joined stands at the end of the text. -/
theorem suffix_join (base p : Path) : p.toList <:+ (base.join p).toList := by
  rw [join]
  split
  · exact List.suffix_refl _
  · split
    · rw [String.toList_append]
      exact List.suffix_append _ _
    · rw [String.toList_append]
      exact List.suffix_append _ _

/-- A text that ends in one of two texts does not end in the other, unless one of
the two ends in the other. -/
theorem hasEnding_eq_false_of_suffix {p : Path} {m n : String} (hp : m.toList <:+ p.toList)
    (hnm : hasEnding n m = false) (hmn : hasEnding m n = false) : hasEnding n p = false := by
  rw [hasEnding, Bool.eq_false_iff] at hnm hmn ⊢
  intro h
  rcases List.suffix_or_suffix_of_suffix (List.isSuffixOf_iff_suffix.mp h) hp
    with hsuffix | hsuffix
  · exact hnm (List.isSuffixOf_iff_suffix.mpr hsuffix)
  · exact hmn (List.isSuffixOf_iff_suffix.mpr hsuffix)

/-- The last name of a path with a slash in front of it. -/
theorem suffix_of_suffix_slash {n a b : List Char} (hn : '/' ∉ n) (h : n <:+ a ++ '/' :: b) :
    n <:+ b := by
  rcases List.suffix_or_suffix_of_suffix h (List.suffix_append a ('/' :: b)) with h | h
  · rcases List.suffix_cons_iff.mp h with rfl | h
    · exact absurd (List.mem_cons_self ..) hn
    · exact h
  · exact absurd (h.subset (List.mem_cons_self ..)) hn

/-! ## A directory and a name -/

theorem mem_of_mem_dropIdle {absolute : Bool} {l : List String} {s : String}
    (hs : s ∈ dropIdle absolute l) : s ∈ l := by
  fun_induction dropIdle absolute l with
  | case1 => exact hs
  | case2 part h => cases hs
  | case3 part h => exact hs
  | case4 part rest hne h ih => exact List.mem_cons_of_mem _ (ih hs)
  | case5 part rest hne h => exact hs

theorem mem_rawParts_of_mem_reversedParts {p : Path} {s : String} (hs : s ∈ reversedParts p) :
    s ∈ rawParts p := by
  have hraw := List.mem_reverse.mp (mem_of_mem_dropIdle hs)
  split at hraw
  · exact List.mem_of_mem_drop hraw
  · exact hraw

theorem mem_parts {p : Path} {s : String} : s ∈ parts p ↔ s ∈ rawParts p ∧ isIdle s = false := by
  rw [parts, List.mem_filter]
  simp

theorem parts_ofReversed {l : List String} (absolute : Bool) (h : ∀ s ∈ l, '/' ∉ s.toList) :
    parts (ofReversed absolute l) = l.reverse.filter (!isIdle ·) := by
  have hbody : parts ("/".intercalate l.reverse) = l.reverse.filter (!isIdle ·) := by
    by_cases hnil : l.reverse = []
    · rw [hnil]
      decide
    · rw [parts, rawParts_intercalate hnil fun s hs => h s (List.mem_reverse.mp hs)]
  cases absolute with
  | false => rw [ofReversed, if_neg Bool.false_ne_true, String.empty_append, hbody]
  | true =>
      have hroot := parts_append "" ("/".intercalate l.reverse)
      rw [String.empty_append, parts_empty, List.nil_append, hbody] at hroot
      exact hroot

/-- The parts of the directory of a path are parts of the path. -/
theorem parts_parent? {p q : Path} (hq : p.parent? = some q) {s : String} (hs : s ∈ parts q) :
    s ∈ parts p := by
  rw [parent?] at hq
  split at hq
  · cases hq
  · next part rest hparts =>
    cases hq
    have hraw : ∀ x ∈ dropIdle p.isAbsolute rest, x ∈ rawParts p := fun x hx =>
      mem_rawParts_of_mem_reversedParts
        (hparts ▸ List.mem_cons_of_mem part (mem_of_mem_dropIdle hx))
    rw [parts_ofReversed _ fun x hx => no_slash_of_mem_rawParts (hraw x hx), List.mem_filter,
      List.mem_reverse] at hs
    exact mem_parts.mpr ⟨hraw s hs.1, by simpa using hs.2⟩

theorem fileName?_mem {p : Path} {s : String} (hs : p.fileName? = some s) :
    s ∈ parts p ∧ '/' ∉ s.toList := by
  rw [fileName?] at hs
  split at hs
  · cases hs
  · next part rest hparts =>
    split at hs
    · cases hs
    · next hidle =>
      obtain rfl := Option.some.inj hs
      have hraw : part ∈ rawParts p :=
        mem_rawParts_of_mem_reversedParts (hparts ▸ List.mem_cons_self ..)
      refine ⟨mem_parts.mpr ⟨hraw, ?_⟩, no_slash_of_mem_rawParts hraw⟩
      simp only [Bool.or_eq_true, not_or, Bool.not_eq_true] at hidle
      exact hidle.1

end Path

/-! ## The parts that are followed -/

theorem mem_pathParts {p : Path} {name : String} (hname : Path.isIdle name = false)
    (h : name ∈ pathParts p) : name ∈ Path.parts p := by
  rw [pathParts] at h
  split at h
  · rcases List.mem_append.mp h with h | h
    · exact h
    · rw [List.mem_singleton.mp h] at hname
      exact absurd hname (by decide)
  · exact Path.mem_parts.mpr ⟨(List.mem_filter.mp h).1, hname⟩

theorem pathParts_of_no_slash {s : String} (h : '/' ∉ s.toList) (hne : s ≠ "") :
    pathParts s = [s] := by
  rw [pathParts, Path.rawParts_of_not_mem h]
  simp [hne]

/-- The parts of a path that are not empty; dots are kept. -/
def Path.steps (p : Path) : List String := p.rawParts.filter (!·.isEmpty)

theorem pathParts_cases (p : Path) :
    pathParts p = p.steps ∨ pathParts p = p.steps.filter (!Path.isIdle ·) ++ ["."] := by
  rw [pathParts]
  split
  · right
    rw [Path.parts, Path.steps, List.filter_filter]
    congr 1
    apply List.filter_congr
    intro s hs
    cases hempty : s.isEmpty <;> simp [Path.isIdle, hempty]
  · exact Or.inl rfl

theorem pathParts_join {d : Path} {name : String} (hslash : '/' ∉ name.toList)
    (hname : name ≠ "") : pathParts (d.join name) = d.steps ++ [name] := by
  have hraw : (d.join name).rawParts.filter (!·.isEmpty) = d.steps ++ [name] ∧
      (d.join name).rawParts.getLast? = some name := by
    rw [Path.join, Path.isAbsolute_of_no_slash hslash, if_neg Bool.false_ne_true]
    split
    · next hopen =>
      rcases Bool.or_eq_true _ _ ▸ hopen with hempty | hlast
      · have hd : d = "" := by simpa using hempty
        rw [hd, String.empty_append, Path.rawParts_of_not_mem hslash]
        constructor
        · simp [hname, Path.steps, Path.rawParts, Path.rawParts.splitAt]
        · rfl
      · obtain ⟨q, rfl⟩ := Path.exists_of_getLast? (by simpa using hlast)
        have hq : Path.steps (q ++ "/") = Path.steps q := by
          have h := Path.rawParts_append q ""
          rw [String.append_empty] at h
          rw [Path.steps, h, List.filter_append]
          simp [Path.steps, Path.rawParts, Path.rawParts.splitAt]
        rw [Path.rawParts_append, Path.rawParts_of_not_mem hslash, hq, List.filter_append]
        exact ⟨by simp [hname, Path.steps], List.getLast?_concat⟩
    · rw [Path.rawParts_append, Path.rawParts_of_not_mem hslash, List.filter_append]
      exact ⟨by simp [hname, Path.steps], List.getLast?_concat⟩
  rw [pathParts, hraw.2, if_neg (by simpa using hname), hraw.1]

theorem Path.isAbsolute_join {d : Path} {name : String} (hd : d ≠ "")
    (hslash : '/' ∉ name.toList) : (d.join name).isAbsolute = d.isAbsolute := by
  have hne : d.toList ≠ [] := by simpa using hd
  rw [Path.join, Path.isAbsolute_of_no_slash hslash, if_neg Bool.false_ne_true]
  split
  · rw [Path.isAbsolute, Path.isAbsolute, String.toList_append, List.head?_append_of_ne_nil _ hne]
  · rw [Path.isAbsolute, Path.isAbsolute, String.toList_append, String.toList_append,
      List.append_assoc, List.head?_append_of_ne_nil _ hne]

theorem suffix_of_getLast?_pathParts {p : Path} {name : String}
    (hname : Path.isIdle name = false) (h : (pathParts p).getLast? = some name) :
    Path.hasEnding name p = true := by
  obtain ⟨l, hlast, hsuffix⟩ := Path.getLast?_splitAt [] p.toList
  have hraw : (Path.rawParts p).getLast? = some (String.ofList l) := hlast
  rw [pathParts] at h
  split at h
  · rw [List.getLast?_append_of_ne_nil _ (by simp)] at h
    cases h
    exact absurd hname (by decide)
  · next hempty =>
    -- The last part that is not empty is the last part.
    obtain ⟨front, hfront⟩ := List.getLast?_eq_some_iff.mp hraw
    have hl : (String.ofList l).isEmpty = false := by
      rw [Bool.eq_false_iff]
      intro hl
      apply hempty
      rw [hraw, String.isEmpty_iff.mp hl]
      rfl
    rw [hfront, List.filter_append, List.filter_cons_of_pos (by simp [hl]), List.filter_nil,
      List.getLast?_concat] at h
    rw [← Option.some.inj h, Path.hasEnding, String.toList_ofList]
    exact List.isSuffixOf_iff_suffix.mpr (by simpa using hsuffix)

/-! ## Names in the directory of a path -/

namespace Path

theorem dropIdle_suffix (absolute : Bool) (l : List String) : dropIdle absolute l <:+ l := by
  fun_induction dropIdle absolute l with
  | case1 => exact List.suffix_refl _
  | case2 part h => exact List.nil_suffix
  | case3 part h => exact List.suffix_refl _
  | case4 part rest hne h ih => exact ih.trans (List.suffix_cons part rest)
  | case5 part rest hne h => exact List.suffix_refl _

theorem dropIdle_dropIdle (absolute : Bool) (l : List String) :
    dropIdle absolute (dropIdle absolute l) = dropIdle absolute l := by
  fun_induction dropIdle absolute l with
  | case1 => rfl
  | case2 part h => rfl
  | case3 part h => rw [dropIdle, if_neg h]
  | case4 part rest hne h ih => exact ih
  | case5 part rest hne h =>
      cases rest with
      | nil => exact absurd rfl hne
      | cons next rest => rw [dropIdle, if_neg h]; simp

/-- The first of the parts that are left is not empty. -/
theorem head_dropIdle_ne {absolute : Bool} {l rest : List String} {s : String}
    (h : dropIdle absolute l = s :: rest) : s ≠ "" := by
  rintro rfl
  fun_induction dropIdle absolute l with
  | case1 => cases h
  | case2 part _ => cases h
  | case3 part hidle => cases h; exact hidle rfl
  | case4 part more hne hidle ih => exact ih h
  | case5 part more hne hidle => cases h; exact hidle rfl

theorem splitAt_cons (c : Char) (part cs : List Char) :
    ∃ pre rest, rawParts.splitAt (part ++ [c]) cs = String.ofList (c :: pre) :: rest := by
  induction cs generalizing part with
  | nil => exact ⟨part.reverse, [], by simp [rawParts.splitAt]⟩
  | cons d cs ih =>
      rw [rawParts.splitAt]
      split
      · exact ⟨part.reverse, _, by simp; rfl⟩
      · exact ih (d :: part)

/-- A path is relative if its first part is not empty, and only then, or if it is
empty itself. -/
theorem isAbsolute_eq_false_iff {p : Path} {s : String} {rest : List String}
    (hp : rawParts p = s :: rest) (hne : p ≠ "") : p.isAbsolute = false ↔ s ≠ "" := by
  obtain ⟨c, cs, hcs⟩ := List.exists_cons_of_ne_nil
    (show p.toList ≠ [] by simpa using hne)
  rw [isAbsolute, hcs, List.head?_cons]
  rw [rawParts, hcs, rawParts.splitAt] at hp
  cases hc : c == '/' with
  | true =>
      rw [hc, if_pos rfl] at hp
      have hs := (List.cons.inj hp).1
      have hslash : c = '/' := by simpa using hc
      rw [← hs, hslash]
      decide
  | false =>
      rw [hc, if_neg Bool.false_ne_true] at hp
      obtain ⟨pre, more, hsplit⟩ := splitAt_cons c [] cs
      rw [List.nil_append, hp] at hsplit
      rw [(List.cons.inj hsplit).1]
      have hother : c ≠ '/' := by simpa using hc
      constructor
      · intro _ hempty
        have hlist := congrArg String.toList hempty
        rw [String.toList_ofList] at hlist
        cases hlist
      · intro _
        simpa using hother

theorem rawParts_ne_nil (p : Path) : rawParts p ≠ [] := by
  obtain ⟨l, hlast, -⟩ := getLast?_splitAt [] p.toList
  intro hnil
  have hraw : (rawParts p).getLast? = some (String.ofList l) := hlast
  rw [hnil] at hraw
  cases hraw

theorem rawParts_ofReversed (absolute : Bool) {l : List String} (hne : l ≠ [])
    (h : ∀ s ∈ l, '/' ∉ s.toList) :
    rawParts (ofReversed absolute l) = (if absolute then [""] else []) ++ l.reverse := by
  have hbody : rawParts ("/".intercalate l.reverse) = l.reverse :=
    rawParts_intercalate (by simpa using hne) fun s hs => h s (List.mem_reverse.mp hs)
  cases absolute with
  | false => rw [ofReversed, if_neg Bool.false_ne_true, String.empty_append, hbody]; rfl
  | true =>
      have hroot := rawParts_append "" ("/".intercalate l.reverse)
      rw [String.empty_append, hbody] at hroot
      rw [ofReversed, if_pos rfl, hroot]
      rfl

/-- A path that ends in a part is not open at its end. -/
theorem join_of_getLast? {q : Path} {s name : String} (hlast : (rawParts q).getLast? = some s)
    (hs : s ≠ "") (hslash : '/' ∉ name.toList) : q.join name = q ++ "/" ++ name := by
  rw [join, isAbsolute_of_no_slash hslash, if_neg Bool.false_ne_true, if_neg]
  intro hopen
  rcases Bool.or_eq_true _ _ ▸ hopen with hempty | hend
  · have hq : q = "" := by simpa using hempty
    rw [hq] at hlast
    exact hs (Option.some.inj hlast).symm
  · obtain ⟨front, rfl⟩ := exists_of_getLast? (by simpa using hend)
    have hraw := rawParts_append front ""
    rw [String.append_empty] at hraw
    rw [hraw, List.getLast?_append_of_ne_nil _ (rawParts_ne_nil _)] at hlast
    exact hs (Option.some.inj hlast).symm

/-- What is joined to a directory of a path has that directory again. -/
theorem reversedParts_join {p q : Path} (hq : p.parent? = some q) {name : String}
    (hslash : '/' ∉ name.toList) (hidle : isIdle name = false) :
    ∃ l, (q.join name).reversedParts = name :: l ∧
      ofReversed (q.join name).isAbsolute (dropIdle (q.join name).isAbsolute l) = q := by
  have hname : name ≠ "" := by
    rintro rfl
    exact absurd hidle (by decide)
  rw [parent?] at hq
  split at hq
  · cases hq
  · next part rest hparts =>
    obtain rfl := Option.some.inj hq
    have hfree : ∀ s ∈ dropIdle p.isAbsolute rest, '/' ∉ s.toList := fun s hs =>
      no_slash_of_mem_rawParts (mem_rawParts_of_mem_reversedParts
        (hparts ▸ List.mem_cons_of_mem part (mem_of_mem_dropIdle hs)))
    have hfirst : p.isAbsolute = false → ∀ s, (dropIdle p.isAbsolute rest).getLast? = some s →
        s ≠ "" := by
      intro hrel s hs
      have hne : p ≠ "" := by
        rintro rfl
        have hnone : reversedParts "" = [] := by decide
        rw [hnone] at hparts
        cases hparts
      obtain ⟨first, more, hraw⟩ := List.exists_cons_of_ne_nil (rawParts_ne_nil p)
      have hsuffix : dropIdle p.isAbsolute rest <:+ (rawParts p).reverse := by
        have hall : part :: rest <:+ (rawParts p).reverse := by
          rw [← hparts, reversedParts, hrel, if_neg Bool.false_ne_true]
          exact dropIdle_suffix _ _
        exact ((dropIdle_suffix _ _).trans (List.suffix_cons part rest)).trans hall
      obtain ⟨front, hfront⟩ := hsuffix
      have hlast : (rawParts p).reverse.getLast? = some s := by
        rw [← hfront, List.getLast?_append, hs, Option.some_or]
      rw [hraw, List.reverse_cons, List.getLast?_concat] at hlast
      rw [← Option.some.inj hlast]
      exact (isAbsolute_eq_false_iff hraw hne).mp hrel
    have hagain := dropIdle_dropIdle p.isAbsolute rest
    have hhead : ∀ s more, dropIdle p.isAbsolute rest = s :: more → s ≠ "" := fun s more h =>
      head_dropIdle_ne h
    generalize dropIdle p.isAbsolute rest = l at hfree hfirst hagain hhead ⊢
    generalize p.isAbsolute = absolute at hfirst hagain ⊢
    have hdot : name ≠ "." := by
      rintro rfl
      exact absurd hidle (by decide)
    cases l with
    | nil =>
        refine ⟨[], ?_⟩
        cases absolute with
        | false =>
            have hjoin : (ofReversed false []).join name = name := by
              rw [join, isAbsolute_of_no_slash hslash, if_neg Bool.false_ne_true, if_pos (by decide)]
              exact String.empty_append
            rw [hjoin, isAbsolute_of_no_slash hslash, reversedParts,
              isAbsolute_of_no_slash hslash, if_neg Bool.false_ne_true, rawParts_of_not_mem hslash]
            exact ⟨by simp [dropIdle, hname], rfl⟩
        | true =>
            have hjoin : (ofReversed true []).join name = "" ++ "/" ++ name := by
              rw [join, isAbsolute_of_no_slash hslash, if_neg Bool.false_ne_true, if_pos (by decide)]
              rfl
            have habs : isAbsolute ("" ++ "/" ++ name) = true := by simp [isAbsolute]
            rw [hjoin, habs, reversedParts, habs, if_pos rfl, rawParts_append,
              rawParts_of_not_mem hslash]
            exact ⟨by simp [dropIdle, hname, hdot, rawParts, rawParts.splitAt], rfl⟩
    | cons s more =>
        have hraw := rawParts_ofReversed absolute (List.cons_ne_nil s more) hfree
        have hlast : (rawParts (ofReversed absolute (s :: more))).getLast? = some s := by
          rw [hraw, List.reverse_cons, ← List.append_assoc, List.getLast?_concat]
        have hs := hhead s more rfl
        have hne : ofReversed absolute (s :: more) ≠ "" := by
          intro hempty
          rw [hempty] at hlast
          exact hs (Option.some.inj hlast).symm
        have habs : isAbsolute (ofReversed absolute (s :: more)) = absolute := by
          cases absolute with
          | true => simp [isAbsolute, ofReversed]
          | false =>
              obtain ⟨first, rest, hrev⟩ := List.exists_cons_of_ne_nil
                (show (s :: more).reverse ≠ [] by simp)
              have hfirst' : first ≠ "" := hfirst rfl first (by
                rw [← List.head?_reverse, hrev, List.head?_cons])
              rw [hrev] at hraw
              exact (isAbsolute_eq_false_iff hraw hne).mpr hfirst'
        have habs' : ((ofReversed absolute (s :: more)).join name).isAbsolute = absolute := by
          rw [isAbsolute_join hne hslash, habs]
        refine ⟨s :: more, ?_, by rw [habs', hagain]⟩
        have hparts : (if absolute then
            ((ofReversed absolute (s :: more)).join name).rawParts.drop 1
            else ((ofReversed absolute (s :: more)).join name).rawParts) =
              (s :: more).reverse ++ [name] := by
          rw [join_of_getLast? hlast hs hslash, rawParts_append, hraw, rawParts_of_not_mem hslash]
          cases absolute <;> rfl
        rw [reversedParts, habs', hparts, List.reverse_append, List.reverse_reverse,
          List.reverse_singleton, List.singleton_append, dropIdle, if_neg (by simp [hidle])]
        simp

theorem parent?_join {p q : Path} (hq : p.parent? = some q) {name : String}
    (hslash : '/' ∉ name.toList) (hidle : isIdle name = false) :
    (q.join name).parent? = some q := by
  obtain ⟨l, hparts, hdir⟩ := reversedParts_join hq hslash hidle
  rw [parent?, hparts]
  exact congrArg some hdir

theorem fileName?_join {p q : Path} (hq : p.parent? = some q) {name : String}
    (hslash : '/' ∉ name.toList) (hidle : isIdle name = false) (hup : name ≠ "..") :
    (q.join name).fileName? = some name := by
  obtain ⟨l, hparts, -⟩ := reversedParts_join hq hslash hidle
  rw [fileName?, hparts]
  simp [hidle, hup]

end Path

end Overlay.Files
