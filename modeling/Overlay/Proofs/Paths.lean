import Overlay.Tree

/-!
# Trees read by paths

A path of keys leads through dictionaries to at most one value, and a value
that is no dictionary is a leaf. This file says when the leaves of a tree are
all there is to know about it.

Two things can be in a dictionary beside its leaves. The entries stand in some
order, and a dictionary without entries has no leaf to show that it is there.
`Ordered` settles the first by the order of the keys, which also keeps every
key unique, and `Full` forbids the second. What comes out is `entries_eq_of_leaves`:
ordered and full dictionaries with the same leaves are equal. Whoever builds a
dictionary then has three small things to show of it instead of one large one.
-/

namespace Overlay.Tree

/-- The value at the end of a path. -/
def at? : Tree → List String → Option Tree
  | t, [] => some t
  | .dict es, key :: path =>
    match find? key es with
    | some t => at? t path
    | none => none
  | _, _ :: _ => none

def isDict : Tree → Bool
  | .dict _ => true
  | _ => false

def isText : Tree → Bool
  | .text _ => true
  | _ => false

/-- A path leads to a leaf. -/
def LeafAt (t : Tree) (path : List String) (leaf : Tree) : Prop :=
  t.at? path = some leaf ∧ leaf.isDict = false

mutual

/-- The keys of every dictionary on a path ascend strictly. -/
def Ordered : Tree → Prop
  | .dict es => OrderedEntries es
  | _ => True

def OrderedEntries : Entries → Prop
  | [] => True
  | (k, t) :: rest => (∀ e ∈ rest, k < e.1) ∧ Ordered t ∧ OrderedEntries rest

end

mutual

/-- No dictionary on a path is empty. -/
def Full : Tree → Prop
  | .dict es => es ≠ [] ∧ FullEntries es
  | _ => True

def FullEntries : Entries → Prop
  | [] => True
  | (_, t) :: rest => Full t ∧ FullEntries rest

end

/-! ## Looking up -/

@[simp] theorem at?_nil (t : Tree) : t.at? [] = some t := by
  cases t <;> rfl

theorem at?_dict_cons (es : Entries) (k : String) (path : List String) :
    at? (.dict es) (k :: path) = (find? k es).bind fun t => t.at? path := by
  rw [at?]
  cases find? k es <;> rfl

theorem at?_leaf_cons {t : Tree} (ht : t.isDict = false) (k : String)
    (path : List String) : t.at? (k :: path) = none := by
  cases t with
  | dict es => cases ht
  | null | bool _ | number _ | text _ | list _ => rfl

theorem not_leafAt_dict_nil {es : Entries} {leaf : Tree} :
    ¬ LeafAt (.dict es) [] leaf := by
  rintro ⟨h, hleaf⟩
  rw [at?_nil, Option.some.injEq] at h
  subst h
  cases hleaf

theorem leafAt_dict_cons {es : Entries} {k : String} {path : List String}
    {leaf : Tree} :
    LeafAt (.dict es) (k :: path) leaf ↔
      ∃ t, find? k es = some t ∧ LeafAt t path leaf := by
  simp only [LeafAt, at?_dict_cons, Option.bind_eq_some_iff]
  constructor
  · rintro ⟨⟨t, ht, hp⟩, hleaf⟩
    exact ⟨t, ht, hp, hleaf⟩
  · rintro ⟨t, ht, hp, hleaf⟩
    exact ⟨⟨t, ht, hp⟩, hleaf⟩

theorem not_leafAt_nothing {path : List String} {leaf : Tree} :
    ¬ LeafAt (.dict []) path leaf := by
  cases path with
  | nil => exact not_leafAt_dict_nil
  | cons k path => simp [leafAt_dict_cons, find?]

/-- A leaf has no leaf but itself. -/
theorem leafAt_leaf {t leaf : Tree} (ht : t.isDict = false)
    {path : List String} : LeafAt t path leaf ↔ path = [] ∧ leaf = t := by
  cases path with
  | nil =>
      rw [LeafAt, at?_nil, Option.some.injEq]
      constructor
      · rintro ⟨rfl, _⟩
        exact ⟨rfl, rfl⟩
      · rintro ⟨_, rfl⟩
        exact ⟨rfl, ht⟩
  | cons k path =>
      rw [LeafAt, at?_leaf_cons ht]
      simp

/-- On the way to a leaf there are only dictionaries. -/
theorem isDict_of_isPrefix {t u leaf : Tree} {outer path : List String}
    (h : LeafAt t path leaf) (houter : outer <+: path) (hne : outer ≠ path)
    (hu : t.at? outer = some u) : u.isDict = true := by
  induction outer generalizing t path with
  | nil =>
      rw [at?_nil, Option.some.injEq] at hu
      subst hu
      cases hd : t.isDict with
      | true => rfl
      | false => exact absurd ((leafAt_leaf hd).mp h).1.symm hne
  | cons k outer ih =>
      obtain ⟨rest, rfl⟩ := houter
      cases t with
      | dict es =>
          rw [at?_dict_cons, Option.bind_eq_some_iff] at hu
          obtain ⟨v, hv, hu⟩ := hu
          rw [List.cons_append, leafAt_dict_cons] at h
          obtain ⟨w, hw, h⟩ := h
          obtain rfl : v = w := Option.some.inj (hv.symm.trans hw)
          exact ih h (List.prefix_append outer rest) (by simpa using hne) hu
      | null | bool _ | number _ | text _ | list _ =>
          rw [at?_leaf_cons rfl] at hu
          cases hu

/-- No leaf is on the way to another one. -/
theorem LeafAt.eq_of_isPrefix {t a b : Tree} {p q : List String}
    (hp : LeafAt t p a) (hq : LeafAt t q b) (h : p <+: q) : p = q := by
  by_cases hne : p = q
  · exact hne
  · have := isDict_of_isPrefix hq h hne hp.1
    rw [hp.2] at this
    cases this

@[simp] theorem find?_insert_self (k : String) (t : Tree) (es : Entries) :
    find? k (insert k t es) = some t := by
  induction es with
  | nil => simp [insert, find?]
  | cons e rest ih =>
      obtain ⟨j, u⟩ := e
      rw [insert]
      split
      · simp [find?]
      · next hne =>
          split
          · simp [find?]
          · rw [find?, if_neg hne, ih]

theorem find?_insert_of_ne {k j : String} (hne : j ≠ k) (t : Tree)
    (es : Entries) : find? j (insert k t es) = find? j es := by
  induction es with
  | nil => simp [insert, find?, Ne.symm hne]
  | cons e rest ih =>
      obtain ⟨i, u⟩ := e
      rw [insert]
      split
      · next heq =>
          rw [find?, find?, heq, if_neg (Ne.symm hne), if_neg (Ne.symm hne)]
      · split
        · rw [find?, if_neg (Ne.symm hne)]
        · rw [find?, find?, ih]

theorem mem_of_find? {k : String} {t : Tree} {es : Entries}
    (h : find? k es = some t) : (k, t) ∈ es := by
  induction es with
  | nil => simp [find?] at h
  | cons e rest ih =>
      obtain ⟨j, u⟩ := e
      rw [find?] at h
      split at h
      · next heq =>
          cases h
          rw [heq]
          exact List.mem_cons_self
      · exact List.mem_cons_of_mem _ (ih h)

theorem insert_ne_nil (k : String) (t : Tree) (es : Entries) :
    insert k t es ≠ [] := by
  cases es with
  | nil => simp [insert]
  | cons d rest =>
      rw [insert]
      split
      · simp
      · split <;> simp

/-- A key that is there once is found with its value. -/
theorem find?_of_mem {es : Entries} (hes : (es.map (·.1)).Nodup) {k : String}
    {t : Tree} (h : (k, t) ∈ es) : find? k es = some t := by
  induction es with
  | nil => cases h
  | cons d rest ih =>
      obtain ⟨j, u⟩ := d
      rw [List.map_cons, List.nodup_cons] at hes
      rcases List.mem_cons.mp h with heq | hmem
      · cases heq
        rw [find?, if_pos rfl]
      · have hne : j ≠ k := by
          intro heq
          exact hes.1 (List.mem_map.mpr ⟨(k, t), hmem, heq.symm⟩)
        rw [find?, if_neg hne]
        exact ih hes.2 hmem

/-! ## Order -/

theorem ordered_of_leaf {t : Tree} (ht : t.isDict = false) : Ordered t := by
  cases t with
  | dict es => cases ht
  | null | bool _ | number _ | text _ | list _ => trivial

theorem mem_insert {k : String} {t : Tree} {es : Entries}
    {e : String × Tree} (h : e ∈ insert k t es) : e = (k, t) ∨ e ∈ es := by
  induction es with
  | nil => exact Or.inl (List.mem_singleton.mp h)
  | cons d rest ih =>
      obtain ⟨j, u⟩ := d
      rw [insert] at h
      split at h
      · rcases List.mem_cons.mp h with rfl | hmem
        · exact Or.inl rfl
        · exact Or.inr (List.mem_cons_of_mem _ hmem)
      · split at h
        · exact List.mem_cons.mp h
        · rcases List.mem_cons.mp h with rfl | hmem
          · exact Or.inr List.mem_cons_self
          · exact (ih hmem).imp_right (List.mem_cons_of_mem _)

theorem orderedEntries_insert {k : String} {t : Tree} {es : Entries}
    (hes : OrderedEntries es) (ht : Ordered t) :
    OrderedEntries (insert k t es) := by
  induction es with
  | nil =>
      exact ⟨fun _ h => absurd h List.not_mem_nil, ht, hes⟩
  | cons d rest ih =>
      obtain ⟨j, u⟩ := d
      obtain ⟨hlt, hu, hrest⟩ := hes
      rw [insert]
      split
      · next heq => exact ⟨heq ▸ hlt, ht, hrest⟩
      · next hne =>
          split
          · next hkj =>
              refine ⟨fun e he => ?_, ht, hlt, hu, hrest⟩
              rcases List.mem_cons.mp he with rfl | hmem
              · exact hkj
              · exact String.lt_trans hkj (hlt e hmem)
          · next hkj =>
              refine ⟨fun e he => ?_, hu, ih hrest⟩
              rcases mem_insert he with rfl | hmem
              · rcases Std.lt_trichotomy j k with h | h | h
                · exact h
                · exact absurd h hne
                · exact absurd h hkj
              · exact hlt e hmem

theorem ordered_of_find? {k : String} {t : Tree} {es : Entries}
    (hes : OrderedEntries es) (h : find? k es = some t) : Ordered t := by
  induction es with
  | nil => simp [find?] at h
  | cons d rest ih =>
      obtain ⟨j, u⟩ := d
      rw [find?] at h
      split at h
      · cases h
        exact hes.2.1
      · exact ih hes.2.2 h

/-- In front of the first key nothing is found. -/
theorem find?_eq_none_of_lt {k : String} {es : Entries}
    (h : ∀ e ∈ es, k < e.1) : find? k es = none := by
  cases hf : find? k es with
  | none => rfl
  | some t => exact absurd (h _ (mem_of_find? hf)) (String.lt_irrefl k)

theorem nodup_of_ordered {es : Entries} (h : OrderedEntries es) :
    (es.map (·.1)).Nodup := by
  induction es with
  | nil => exact List.nodup_nil
  | cons d rest ih =>
      rw [List.map_cons, List.nodup_cons]
      refine ⟨?_, ih h.2.2⟩
      intro hmem
      obtain ⟨e, he, heq⟩ := List.mem_map.mp hmem
      have hlt : d.1 < e.1 := h.1 e he
      rw [heq] at hlt
      exact String.lt_irrefl d.1 hlt

theorem head_le_of_find? {j k : String} {t u : Tree} {rest : Entries}
    (hes : OrderedEntries ((j, u) :: rest))
    (h : find? k ((j, u) :: rest) = some t) : ¬ k < j := by
  intro hlt
  refine Option.some_ne_none t (h.symm.trans (find?_eq_none_of_lt ?_))
  intro e he
  rcases List.mem_cons.mp he with rfl | hmem
  · exact hlt
  · exact String.lt_trans hlt (hes.1 e hmem)

/-- Ordered entries are told apart by looking up. -/
theorem entries_eq_of_find? {es fs : Entries} (hes : OrderedEntries es)
    (hfs : OrderedEntries fs) (h : ∀ k, find? k es = find? k fs) : es = fs := by
  induction es generalizing fs with
  | nil =>
      cases fs with
      | nil => rfl
      | cons d rest => simpa [find?] using h d.1
  | cons d es ih =>
      obtain ⟨j, t⟩ := d
      cases fs with
      | nil => simpa [find?] using h j
      | cons d fs =>
          obtain ⟨k, u⟩ := d
          have hj := h j
          have hk := h k
          rw [find?, if_pos rfl] at hj
          rw [find?.eq_def k ((k, u) :: fs)] at hk
          simp only [if_pos] at hk
          have hjk : j = k := by
            rcases Std.lt_trichotomy j k with hlt | heq | hlt
            · exact absurd hlt (head_le_of_find? hfs hj.symm)
            · exact heq
            · exact absurd hlt (head_le_of_find? hes hk)
          subst hjk
          rw [find?, if_pos rfl, Option.some.injEq] at hj
          subst hj
          rw [ih hes.2.2 hfs.2.2 fun i => ?_]
          by_cases hi : j = i
          · subst hi
            rw [find?_eq_none_of_lt hes.1, find?_eq_none_of_lt hfs.1]
          · have := h i
            rwa [find?, find?, if_neg hi, if_neg hi] at this

theorem ordered_ofEntries {es : Entries} (h : ∀ e ∈ es, Ordered e.2) :
    Ordered (ofEntries es) := by
  have hfold : ∀ (es acc : Entries), (∀ e ∈ es, Ordered e.2) →
      OrderedEntries acc →
      OrderedEntries (es.foldl (fun sorted e => insert e.1 e.2 sorted) acc) := by
    intro es
    induction es with
    | nil => exact fun _ _ hacc => hacc
    | cons e es ih =>
        intro acc h hacc
        exact ih _ (fun d hd => h d (List.mem_cons_of_mem _ hd))
          (orderedEntries_insert hacc (h e List.mem_cons_self))
  exact hfold es [] h trivial

/-! ## Leaves -/

theorem full_of_leaf {t : Tree} (ht : t.isDict = false) : Full t := by
  cases t with
  | dict es => cases ht
  | null | bool _ | number _ | text _ | list _ => trivial

theorem fullEntries_insert {k : String} {t : Tree} {es : Entries}
    (hes : FullEntries es) (ht : Full t) : FullEntries (insert k t es) := by
  induction es with
  | nil => exact ⟨ht, hes⟩
  | cons d rest ih =>
      rw [insert]
      split
      · exact ⟨ht, hes.2⟩
      · split
        · exact ⟨ht, hes⟩
        · exact ⟨hes.1, ih hes.2⟩

theorem full_of_find? {k : String} {t : Tree} {es : Entries}
    (hes : FullEntries es) (h : find? k es = some t) : Full t := by
  induction es with
  | nil => simp [find?] at h
  | cons d rest ih =>
      obtain ⟨j, u⟩ := d
      rw [find?] at h
      split at h
      · cases h
        exact hes.1
      · exact ih hes.2 h

/-- A tree without empty dictionaries has a leaf. -/
theorem exists_leafAt {t : Tree} (h : Full t) :
    ∃ path leaf, LeafAt t path leaf := by
  match t with
  | .dict [] => exact absurd rfl h.1
  | .dict ((k, u) :: rest) =>
      obtain ⟨path, leaf, hu⟩ := exists_leafAt h.2.1
      exact ⟨k :: path, leaf, leafAt_dict_cons.mpr ⟨u, by simp [find?], hu⟩⟩
  | .null | .bool _ | .number _ | .text _ | .list _ => exact ⟨[], _, rfl, rfl⟩
termination_by sizeOf t

/-- Ordered and full dictionaries with the same leaves are equal. A key of one
is a key of the other because there is a leaf below it, and what stands under
a common key has the same leaves again. -/
theorem entries_eq_of_leaves {es fs : Entries}
    (hes : OrderedEntries es) (hes' : FullEntries es)
    (hfs : OrderedEntries fs) (hfs' : FullEntries fs)
    (h : ∀ path leaf, LeafAt (.dict es) path leaf ↔ LeafAt (.dict fs) path leaf) :
    es = fs := by
  refine entries_eq_of_find? hes hfs fun k => ?_
  have hbelow : ∀ path leaf, (∃ t, find? k es = some t ∧ LeafAt t path leaf) ↔
      ∃ u, find? k fs = some u ∧ LeafAt u path leaf := fun path leaf => by
    rw [← leafAt_dict_cons, ← leafAt_dict_cons]
    exact h _ _
  cases ht : find? k es with
  | none =>
      cases hu : find? k fs with
      | none => rfl
      | some u =>
          obtain ⟨path, leaf, hleaf⟩ := exists_leafAt (full_of_find? hfs' hu)
          obtain ⟨t, hfound, _⟩ := (hbelow path leaf).mpr ⟨u, hu, hleaf⟩
          rw [ht] at hfound
          cases hfound
  | some t =>
      cases hu : find? k fs with
      | none =>
          obtain ⟨path, leaf, hleaf⟩ := exists_leafAt (full_of_find? hes' ht)
          obtain ⟨u, hfound, _⟩ := (hbelow path leaf).mp ⟨t, ht, hleaf⟩
          rw [hu] at hfound
          cases hfound
      | some u =>
          have hsame : ∀ path leaf, LeafAt t path leaf ↔ LeafAt u path leaf := by
            intro path leaf
            simpa [ht, hu] using hbelow path leaf
          have hsize : sizeOf t < sizeOf es := by
            have := List.sizeOf_lt_of_mem (mem_of_find? ht)
            simp only [Prod.mk.sizeOf_spec] at this
            omega
          match t, u with
          | .dict es', .dict fs' =>
              have : sizeOf es' < sizeOf es := by
                simp only [dict.sizeOf_spec] at hsize
                omega
              rw [entries_eq_of_leaves (ordered_of_find? hes ht)
                (full_of_find? hes' ht).2 (ordered_of_find? hfs hu)
                (full_of_find? hfs' hu).2 hsame]
          | .dict es', .null | .dict es', .bool _ | .dict es', .number _
          | .dict es', .text _ | .dict es', .list _ =>
              exact absurd ((hsame [] _).mpr ⟨rfl, rfl⟩) not_leafAt_dict_nil
          | .null, u | .bool _, u | .number _, u | .text _, u | .list _, u =>
              have := ((hsame [] _).mp ⟨rfl, rfl⟩).1
              rw [at?_nil] at this
              rw [this]
termination_by sizeOf es

end Overlay.Tree
