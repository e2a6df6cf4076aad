import Overlay.Files.Access

/-!
# A tree of files before and after a file is written

Writing a file changes a tree in one place, the mark. What is put and what is
found there is said along the names that lead to a place: above the place the
tree is rebuilt, beside the way to it nothing changes, and below a file there is
nothing.

Entries are then compared without what is in them, so a directory stays what it
was when something below it changes. `sameBut_put` is the frame that all else
about a written file rests on: at all places but the mark the two trees have the
same.
-/

namespace Overlay.Files

namespace Entry

/-! ## Lists of entries -/

theorem find?_alter_self {name : String} {f : Option Entry → Option Entry}
    {es : List (String × Entry)} {e : Entry} (h : f (find? name es) = some e) :
    find? name (alter name f es) = some e := by
  induction es with
  | nil =>
      have hnew : f none = some e := h
      simp [alter, hnew, find?]
  | cons x rest ih =>
      obtain ⟨n, old⟩ := x
      by_cases hn : n = name
      · rw [find?, if_pos hn] at h
        simp [alter, hn, h, find?]
      · rw [find?, if_neg hn] at h
        rw [alter, if_neg hn, find?, if_neg hn]
        exact ih h

theorem find?_alter_of_ne {name other : String} (hne : other ≠ name)
    (f : Option Entry → Option Entry) (es : List (String × Entry)) :
    find? other (alter name f es) = find? other es := by
  induction es with
  | nil =>
      rw [alter]
      split
      · simp [find?, Ne.symm hne]
      · rfl
  | cons x rest ih =>
      obtain ⟨n, old⟩ := x
      rw [alter]
      by_cases hn : n = name
      · have hother : n ≠ other := fun h => hne (h.symm.trans hn)
        rw [if_pos hn, find?, if_neg hother]
        split
        · rw [find?, if_neg hother]
        · rfl
      · rw [if_neg hn, find?, find?, ih]

theorem mem_of_find? {name : String} {es : List (String × Entry)} {e : Entry}
    (h : find? name es = some e) : (name, e) ∈ es := by
  induction es with
  | nil => cases h
  | cons x rest ih =>
      obtain ⟨n, old⟩ := x
      rw [find?] at h
      split at h
      · next hn =>
        cases h
        rw [hn]
        exact List.mem_cons_self ..
      · exact List.mem_cons_of_mem _ (ih h)

/-- An entry that was there is replaced where it stands. -/
theorem alter_of_find? {name : String} {es : List (String × Entry)} {old new : Entry}
    (f : Option Entry → Option Entry) (h : find? name es = some old)
    (hf : f (some old) = some new) :
    ∃ a b, es = a ++ (name, old) :: b ∧ alter name f es = a ++ (name, new) :: b := by
  induction es with
  | nil => cases h
  | cons x rest ih =>
      obtain ⟨n, e⟩ := x
      by_cases hn : n = name
      · subst hn
        rw [find?, if_pos rfl] at h
        cases h
        exact ⟨[], rest, rfl, by simp [alter, hf]⟩
      · rw [find?, if_neg hn] at h
        obtain ⟨a, b, hes, halter⟩ := ih h
        exact ⟨(n, e) :: a, b, by rw [hes]; rfl, by rw [alter, if_neg hn, halter]; rfl⟩

/-- A new entry goes to the end. -/
theorem alter_of_find?_none {name : String} {es : List (String × Entry)} {new : Entry}
    {f : Option Entry → Option Entry} (h : find? name es = none)
    (hf : f none = some new) : alter name f es = es ++ [(name, new)] := by
  induction es with
  | nil => simp [alter, hf]
  | cons x rest ih =>
      obtain ⟨n, e⟩ := x
      by_cases hn : n = name
      · rw [find?, if_pos hn] at h
        cases h
      · rw [find?, if_neg hn] at h
        rw [alter, if_neg hn, ih h, List.cons_append]

/-! ## Places in a tree -/

theorem get?_append (p q : List String) (e : Entry) :
    get? (p ++ q) e = (get? p e).bind (get? q) := by
  induction p generalizing e with
  | nil => rfl
  | cons name p ih =>
      cases e with
      | file c => rfl
      | link t => rfl
      | directory es =>
          rw [List.cons_append, get?, get?, Option.bind_assoc]
          exact congrArg _ (funext fun child => ih child)

theorem get?_directory_snoc {here : Place} {t : Entry} {es : List (String × Entry)}
    (h : t.get? here = some (.directory es)) (name : String) :
    t.get? (here ++ [name]) = find? name es := by
  rw [get?_append, h, Option.bind_some, get?]
  cases find? name es <;> rfl

/-- Only a directory has something below it. -/
theorem exists_directory_of_get? {here rest : Place} {t e : Entry} (hrest : rest ≠ [])
    (h : t.get? (here ++ rest) = some e) : ∃ es, t.get? here = some (.directory es) := by
  obtain ⟨name, rest, rfl⟩ := List.exists_cons_of_ne_nil hrest
  rw [get?_append] at h
  obtain ⟨up, hup, hget⟩ := Option.bind_eq_some_iff.mp h
  cases up with
  | file c => cases hget
  | link target => cases hget
  | directory es => exact ⟨es, hup⟩

/-- On the way to a name in a directory there are directories. -/
theorem exists_directory_above {dir q rest : Place} {name : String} {t : Entry}
    {es : List (String × Entry)} (hdir : t.get? dir = some (.directory es))
    (hq : q ++ rest = dir ++ [name]) (hrest : rest ≠ []) :
    ∃ up, t.get? q = some (.directory up) := by
  rw [← List.dropLast_concat_getLast hrest, ← List.append_assoc] at hq
  obtain ⟨hinit, -⟩ := List.append_inj' hq rfl
  by_cases hnil : rest.dropLast = []
  · rw [hnil, List.append_nil] at hinit
    exact ⟨es, by rw [hinit, hdir]⟩
  · rw [← hinit] at hdir
    exact exists_directory_of_get? hnil hdir

theorem put_cons (new : Entry) (name : String) (p : List String) (es : List (String × Entry)) :
    put new (name :: p) (.directory es) =
      .directory
        (alter name (fun old => some (put new p (old.getD emptyDirectory))) es) := rfl

theorem put_of_find? {name : String} {es : List (String × Entry)} {old : Entry}
    (h : find? name es = some old) (new : Entry) (p : List String) :
    ∃ a b, es = a ++ (name, old) :: b ∧
      put new (name :: p) (.directory es) = .directory (a ++ (name, put new p old) :: b) := by
  obtain ⟨a, b, hes, halter⟩ :=
    alter_of_find? (fun o => some (put new p (o.getD emptyDirectory))) h rfl
  exact ⟨a, b, hes, by rw [put_cons, halter, Option.getD_some]⟩

theorem put_of_find?_none {name : String} {es : List (String × Entry)}
    (h : find? name es = none) (new : Entry) :
    put new [name] (.directory es) = .directory (es ++ [(name, new)]) := by
  rw [put_cons, alter_of_find?_none h rfl]
  rfl

/-- Above and at the place, the tree is the old one with the rest put below. -/
theorem get?_put_append {p : List String} {t e : Entry} (h : t.get? p = some e) (new : Entry)
    (q : List String) : get? p (put new (p ++ q) t) = some (put new q e) := by
  induction p generalizing t with
  | nil =>
      cases h
      rfl
  | cons name p ih =>
      cases t with
      | file c => cases h
      | link target => cases h
      | directory es =>
          obtain ⟨child, hfind, hget⟩ := Option.bind_eq_some_iff.mp h
          rw [List.cons_append, put_cons, get?,
            find?_alter_self (e := put new (p ++ q) child) (by rw [hfind]; rfl),
            Option.bind_some]
          exact ih hget

theorem get?_put_self (new : Entry) (p : List String) (t : Entry) :
    get? p (put new p t) = some new := by
  induction p generalizing t with
  | nil => rfl
  | cons name p ih =>
      rw [put, get?, find?_alter_self rfl, Option.bind_some]
      exact ih _

/-- Beside the way to the place nothing changes. -/
theorem get?_put_of_apart (new : Entry) {p q : List String} (hpq : ¬ p <+: q) (hqp : ¬ q <+: p)
    (t : Entry) : get? q (put new p t) = get? q t := by
  induction p generalizing q t with
  | nil => exact absurd (List.nil_prefix) hpq
  | cons name p ih =>
      cases q with
      | nil => exact absurd (List.nil_prefix) hqp
      | cons other q =>
          have hget : get? (other :: q) t = (find? other t.children).bind (get? q) := by
            cases t <;> rfl
          rw [hget, put, get?]
          by_cases hne : other = name
          · subst hne
            have hpq' : ¬ p <+: q := fun h => hpq (List.cons_prefix_cons.mpr ⟨rfl, h⟩)
            have hqp' : ¬ q <+: p := fun h => hqp (List.cons_prefix_cons.mpr ⟨rfl, h⟩)
            rw [find?_alter_self rfl, Option.bind_some, ih hpq' hqp']
            cases find? other t.children with
            | some child => rfl
            | none =>
                cases q with
                | nil => exact absurd (List.nil_prefix) hqp'
                | cons a q => rfl
          · rw [find?_alter_of_ne hne]

/-- A second file in place of the first leaves no trace of it. -/
theorem put_put (new new' : Entry) (p : List String) (t : Entry) :
    put new p (put new' p t) = put new p t := by
  induction p generalizing t with
  | nil => rfl
  | cons name p ih =>
      rw [put, put, put]
      congr 1
      generalize t.children = es
      show alter name _ (alter name _ es) = _
      induction es with
      | nil => simp [alter, ih]
      | cons x rest ihrest =>
          obtain ⟨n, e⟩ := x
          by_cases hn : n = name
          · simp [alter, hn, ih]
          · simp only [alter, if_neg hn]
            rw [ihrest]

/-! ## Trees that differ in one file -/

/-- What an entry is, whatever a directory has in it. -/
def bare : Entry → Entry
  | directory _ => emptyDirectory
  | e => e

/-- Two trees have the same at all places but the mark, where each has a file or
nothing. -/
structure SameBut (mark : Place) (t u : Entry) : Prop where
  elsewhere : ∀ q, q ≠ mark → (u.get? q).map bare = (t.get? q).map bare
  left : ∀ e, t.get? mark = some e → ∃ c, e = .file c
  right : ∀ e, u.get? mark = some e → ∃ c, e = .file c

theorem SameBut.symm {mark : Place} {t u : Entry} (h : SameBut mark t u) :
    SameBut mark u t :=
  ⟨fun q hq => (h.elsewhere q hq).symm, h.right, h.left⟩

theorem bare_eq_directory {o : Option Entry} :
    o.map bare = some emptyDirectory ↔ ∃ es, o = some (.directory es) := by
  cases o with
  | none => simp
  | some e => cases e <;> simp [bare, emptyDirectory]

theorem bare_eq_link {o : Option Entry} {target : String} :
    o.map bare = some (.link target) ↔ o = some (.link target) := by
  cases o with
  | none => simp
  | some e => cases e <;> simp [bare, emptyDirectory]

/-- The directories are the same ones, since the mark is none. -/
theorem SameBut.directory_iff {mark : Place} {t u : Entry} (h : SameBut mark t u) (q : Place) :
    (∃ es, u.get? q = some (.directory es)) ↔ ∃ es, t.get? q = some (.directory es) := by
  by_cases hq : q = mark
  · subst hq
    constructor
    · rintro ⟨es, hes⟩
      obtain ⟨c, hc⟩ := h.right _ hes
      cases hc
    · rintro ⟨es, hes⟩
      obtain ⟨c, hc⟩ := h.left _ hes
      cases hc
  · rw [← bare_eq_directory, h.elsewhere q hq, bare_eq_directory]

/-- Writing a file where a file or nothing was. -/
theorem sameBut_put {dir : Place} {name : String} {t : Entry} {es : List (String × Entry)}
    (hdir : t.get? dir = some (.directory es))
    (hfile : ∀ e, t.get? (dir ++ [name]) = some e → ∃ c, e = .file c) (c : Content) :
    SameBut (dir ++ [name]) t (put (.file c) (dir ++ [name]) t) := by
  refine ⟨?_, hfile, ?_⟩
  · intro q hq
    by_cases habove : q <+: dir ++ [name]
    · -- On the way to the mark there were directories, and there still are.
      obtain ⟨rest, hrest⟩ := habove
      have hne : rest ≠ [] := by
        rintro rfl
        exact hq (by rw [← hrest, List.append_nil])
      have hup := exists_directory_above hdir hrest hne
      obtain ⟨up, hup⟩ := hup
      obtain ⟨next, rest, rfl⟩ := List.exists_cons_of_ne_nil hne
      rw [← hrest, get?_put_append hup, hup]
      rfl
    · by_cases hbelow : dir ++ [name] <+: q
      · -- Below the mark there was nothing, and nothing can be.
        obtain ⟨rest, rfl⟩ := hbelow
        have hne : rest ≠ [] := by
          rintro rfl
          exact hq (List.append_nil _)
        obtain ⟨next, rest, rfl⟩ := List.exists_cons_of_ne_nil hne
        rw [get?_append, get?_put_self, get?_append]
        cases hmark : t.get? (dir ++ [name]) with
        | none => rfl
        | some e =>
            obtain ⟨c', rfl⟩ := hfile e hmark
            rfl
      · rw [get?_put_of_apart _ hbelow habove]
  · intro e he
    rw [get?_put_self] at he
    exact ⟨c, (Option.some.inj he).symm⟩

/-! ## Files and links -/

mutual

/-- The files and links in a tree. -/
def leaves : Entry → List Entry
  | .directory es => leavesAll es
  | .file c => [.file c]
  | .link target => [.link target]

def leavesAll : List (String × Entry) → List Entry
  | [] => []
  | (_, e) :: rest => leaves e ++ leavesAll rest

end

theorem mem_leavesAll {name : String} {e leaf : Entry} {es : List (String × Entry)}
    (he : (name, e) ∈ es) (hleaf : leaf ∈ leaves e) : leaf ∈ leavesAll es := by
  induction es with
  | nil => cases he
  | cons x es ih =>
      rw [leavesAll, List.mem_append]
      rcases List.mem_cons.mp he with rfl | he
      · exact Or.inl hleaf
      · exact Or.inr (ih he)

theorem mem_leaves {p : Place} {t e : Entry} (h : t.get? p = some e)
    (hleaf : ∀ es, e ≠ .directory es) : e ∈ leaves t := by
  induction p generalizing t with
  | nil =>
      obtain rfl := Option.some.inj h
      cases t with
      | directory es => exact absurd rfl (hleaf es)
      | file c => exact List.mem_singleton_self _
      | link target => exact List.mem_singleton_self _
  | cons name p ih =>
      cases t with
      | file c => cases h
      | link target => cases h
      | directory es =>
          obtain ⟨child, hchild, hget⟩ := Option.bind_eq_some_iff.mp h
          exact mem_leavesAll (mem_of_find? hchild) (ih hget)

end Entry

end Overlay.Files
