import Overlay.Layer.Environment
import Overlay.Proofs.Paths
import Overlay.Proofs.Spelling

/-!
# What the environment binds

A variable puts one leaf into the tree, and on its way it overwrites whatever
does not fit: a leaf where a dictionary is needed, and a whole dictionary where
the leaf goes. So each variable can undo any number of earlier ones, and the
tree at the end looks like the sum of many accidents.

It is not. What one insertion does to the leaves is a single rule,
`leafAt_insertPath`: the new leaf is there, and of the old ones exactly those
stay whose path does not clash with the new one. Clashing is a relation between
two paths alone, so the rule composes along the list of variables without
looking at the tree in between, and a leaf of the result is a variable that
clashes with none after it. Order and fullness are kept by every insertion, and
with `entries_eq_of_leaves` the tree is then settled.
-/

namespace Overlay.Layer

open Overlay.Tree

/-- Two paths clash if one of them leads to or through the end of the other. -/
def Clash (p q : List String) : Prop := p <+: q ∨ q <+: p

instance (p q : List String) : Decidable (Clash p q) :=
  inferInstanceAs (Decidable (p <+: q ∨ q <+: p))

theorem Clash.symm {p q : List String} (h : Clash p q) : Clash q p := Or.symm h

@[simp] theorem clash_nil (p : List String) : Clash [] p := Or.inl List.nil_prefix

@[simp] theorem clash_cons {j k : String} {p q : List String} :
    Clash (j :: p) (k :: q) ↔ j = k ∧ Clash p q := by
  simp only [Clash, List.cons_prefix_cons]
  constructor
  · rintro (⟨rfl, h⟩ | ⟨rfl, h⟩)
    · exact ⟨rfl, Or.inl h⟩
    · exact ⟨rfl, Or.inr h⟩
  · rintro ⟨rfl, h | h⟩
    · exact Or.inl ⟨rfl, h⟩
    · exact Or.inr ⟨rfl, h⟩

/-! ## One insertion -/

/-- The dictionary that an insertion goes on in, below a key. -/
def inner (key : String) (es : Entries) : Entries :=
  match find? key es with
  | some (.dict inner) => inner
  | _ => []

theorem insertPath_one (value : Tree) (key : String) (es : Entries) :
    insertPath value [key] es = Tree.insert key value es := by
  rw [insertPath]

theorem insertPath_more (value : Tree) (key next : String)
    (path : List String) (es : Entries) :
    insertPath value (key :: next :: path) es =
      Tree.insert key
        (.dict (insertPath value (next :: path) (inner key es))) es := by
  rw [insertPath]
  · rfl
  · simp

/-- Leaves below a key are those of the inner dictionary, a leaf at the key
itself apart. -/
theorem leafAt_inner {key : String} {es : Entries} {path : List String}
    {leaf : Tree} (hpath : path ≠ []) :
    LeafAt (.dict (inner key es)) path leaf ↔
      LeafAt (.dict es) (key :: path) leaf := by
  rw [leafAt_dict_cons, inner]
  cases hfound : find? key es with
  | none =>
      cases path with
      | nil => exact absurd rfl hpath
      | cons k path => simp [leafAt_dict_cons, find?]
  | some t =>
      simp only [Option.some.injEq, exists_eq_left']
      cases t with
      | dict inner => rfl
      | null | bool _ | number _ | text _ | list _ =>
          cases path with
          | nil => exact absurd rfl hpath
          | cons k path =>
              constructor
              · intro h
                obtain ⟨_, hnone, _⟩ := leafAt_dict_cons.mp h
                cases hnone
              · intro h
                cases ((leafAt_leaf rfl).mp h).1

/-- The step: an insertion adds its leaf and removes those that clash with
it. -/
theorem leafAt_insertPath {value : Tree} (hvalue : value.isDict = false)
    {target : List String} (htarget : target ≠ []) (es : Entries)
    {path : List String} {leaf : Tree} :
    LeafAt (.dict (insertPath value target es)) path leaf ↔
      (path = target ∧ leaf = value) ∨
        (LeafAt (.dict es) path leaf ∧ ¬ Clash path target) := by
  induction target generalizing es path with
  | nil => exact absurd rfl htarget
  | cons key target ih =>
      cases path with
      | nil => simp [not_leafAt_dict_nil]
      | cons k path =>
          by_cases hk : k = key
          · subst hk
            cases target with
            | nil =>
                -- The path goes through the new leaf, so nothing old is left.
                rw [insertPath_one, leafAt_dict_cons, find?_insert_self]
                simp [leafAt_leaf hvalue, Clash.symm (clash_nil path)]
            | cons next target =>
                rw [insertPath_more, leafAt_dict_cons, find?_insert_self]
                simp only [Option.some.injEq, exists_eq_left', clash_cons,
                  true_and, List.cons.injEq]
                rw [ih (by simp)]
                refine or_congr Iff.rfl (and_congr_left fun hclash => ?_)
                refine leafAt_inner ?_
                rintro rfl
                exact hclash (clash_nil _)
          · have hother :
                find? k (insertPath value (key :: target) es) = find? k es := by
              cases target with
              | nil => rw [insertPath_one, find?_insert_of_ne hk]
              | cons next target => rw [insertPath_more, find?_insert_of_ne hk]
            rw [leafAt_dict_cons, hother, ← leafAt_dict_cons]
            simp [hk]

theorem orderedEntries_inner {key : String} {es : Entries}
    (hes : OrderedEntries es) : OrderedEntries (inner key es) := by
  rw [inner]
  split
  · next h => exact ordered_of_find? hes h
  · trivial

theorem fullEntries_inner {key : String} {es : Entries}
    (hes : FullEntries es) : FullEntries (inner key es) := by
  rw [inner]
  split
  · next h => exact (full_of_find? hes h).2
  · trivial

theorem insertPath_ordered {value : Tree} (hvalue : value.isDict = false)
    (target : List String) {es : Entries} (hes : OrderedEntries es) :
    OrderedEntries (insertPath value target es) := by
  match target with
  | [] => exact hes
  | [key] =>
      rw [insertPath_one]
      exact orderedEntries_insert hes (ordered_of_leaf hvalue)
  | key :: next :: target =>
      rw [insertPath_more]
      exact orderedEntries_insert hes
        (insertPath_ordered hvalue (next :: target) (orderedEntries_inner hes))

theorem insertPath_ne_nil (value : Tree) (key : String) (target : List String)
    (es : Entries) : insertPath value (key :: target) es ≠ [] := by
  cases target with
  | nil => rw [insertPath_one]; exact insert_ne_nil _ _ _
  | cons next target => rw [insertPath_more]; exact insert_ne_nil _ _ _

theorem insertPath_full {value : Tree} (hvalue : value.isDict = false)
    (target : List String) {es : Entries} (hes : FullEntries es) :
    FullEntries (insertPath value target es) := by
  match target with
  | [] => exact hes
  | [key] =>
      rw [insertPath_one]
      exact fullEntries_insert hes (full_of_leaf hvalue)
  | key :: next :: target =>
      rw [insertPath_more]
      exact fullEntries_insert hes ⟨insertPath_ne_nil _ _ _ _,
        insertPath_full hvalue (next :: target) (fullEntries_inner hes)⟩

/-! ## All insertions -/

/-- The entries after some leaves have been put in, one after another. -/
def insertAll (bs : List (List String × Tree)) (es : Entries) : Entries :=
  bs.foldl (fun es b => insertPath b.2 b.1 es) es

/-- What can be put in: a leaf, below at least one key. -/
def Insertable (b : List String × Tree) : Prop := b.1 ≠ [] ∧ b.2.isDict = false

/-- The run: the leaves at the end are those that clash with nothing that was
put in after them. -/
theorem leafAt_insertAll {bs : List (List String × Tree)}
    (hbs : ∀ b ∈ bs, Insertable b) (es : Entries) {path : List String}
    {leaf : Tree} :
    LeafAt (.dict (insertAll bs es)) path leaf ↔
      (∃ before after, bs = before ++ (path, leaf) :: after ∧
        ∀ b ∈ after, ¬ Clash path b.1) ∨
      (LeafAt (.dict es) path leaf ∧ ∀ b ∈ bs, ¬ Clash path b.1) := by
  induction bs generalizing es with
  | nil => simp [insertAll]
  | cons b bs ih =>
      obtain ⟨target, value⟩ := b
      obtain ⟨htarget, hvalue⟩ := hbs _ List.mem_cons_self
      have hrun := ih (fun b hb => hbs b (List.mem_cons_of_mem _ hb))
        (insertPath value target es)
      rw [leafAt_insertPath hvalue htarget] at hrun
      rw [show insertAll ((target, value) :: bs) es
        = insertAll bs (insertPath value target es) from rfl, hrun]
      constructor
      · rintro
          (⟨before, after, rfl, hafter⟩ | ⟨⟨rfl, rfl⟩ | ⟨hold, hclash⟩, hlater⟩)
        · exact Or.inl ⟨(target, value) :: before, after, rfl, hafter⟩
        · exact Or.inl ⟨[], bs, rfl, hlater⟩
        · refine Or.inr ⟨hold, fun b hb => ?_⟩
          rcases List.mem_cons.mp hb with rfl | hmem
          · exact hclash
          · exact hlater b hmem
      · rintro (⟨before, after, hsplit, hafter⟩ | ⟨hold, hclash⟩)
        · cases before with
          | nil =>
              cases hsplit
              exact Or.inr ⟨Or.inl ⟨rfl, rfl⟩, hafter⟩
          | cons b before =>
              cases hsplit
              exact Or.inl ⟨before, after, rfl, hafter⟩
        · exact Or.inr ⟨Or.inr ⟨hold, hclash _ List.mem_cons_self⟩,
            fun b hb => hclash b (List.mem_cons_of_mem _ hb)⟩

theorem insertAll_ordered {bs : List (List String × Tree)}
    (hbs : ∀ b ∈ bs, Insertable b) {es : Entries} (hes : OrderedEntries es) :
    OrderedEntries (insertAll bs es) := by
  induction bs generalizing es with
  | nil => exact hes
  | cons b bs ih =>
      exact ih (fun b hb => hbs b (List.mem_cons_of_mem _ hb))
        (insertPath_ordered (hbs b List.mem_cons_self).2 b.1 hes)

theorem insertAll_full {bs : List (List String × Tree)}
    (hbs : ∀ b ∈ bs, Insertable b) {es : Entries} (hes : FullEntries es) :
    FullEntries (insertAll bs es) := by
  induction bs generalizing es with
  | nil => exact hes
  | cons b bs ih =>
      exact ih (fun b hb => hbs b (List.mem_cons_of_mem _ hb))
        (insertPath_full (hbs b List.mem_cons_self).2 b.1 hes)

/-! ## The variables that are bound

`Bound` says in terms of paths what `binding?` finds out by walking down the
defaults, and `valueFor` what it makes of the raw text there. -/

/-- A variable is bound to a path: its name stands for it, no key of it is
empty, the defaults know the first one, and no leaf of them is in the way. -/
structure Bound (envPrefix : Option String) (defaults : Tree) (name : String)
    (path : List String) : Prop where
  named : ∃ key, afterPrefix? envPrefix name = some key ∧ keyPath key = path
  filled : ∀ key ∈ path, key ≠ ""
  known : ∃ first rest t, path = first :: rest ∧ defaults.at? [first] = some t
  reached : ∀ outer, outer <+: path → outer ≠ [] → outer ≠ path →
    ∀ t, defaults.at? outer = some t → t.isDict = true

/-- A raw text as a value for a path: text where the defaults hold text. -/
def valueFor (defaults : Tree) (path : List String) (raw : String) : Tree :=
  match defaults.at? path with
  | some (.text _) => .text raw
  | _ => untypedValue raw

theorem untypedValue_leaf (raw : String) : (untypedValue raw).isDict = false := by
  rw [untypedValue]
  split <;> rfl

theorem valueFor_leaf (defaults : Tree) (path : List String) (raw : String) :
    (valueFor defaults path raw).isDict = false := by
  rw [valueFor]
  split
  · rfl
  · exact untypedValue_leaf raw

theorem valueFor_dict_cons (es : Entries) (key : String) (path : List String)
    (raw : String) :
    valueFor (.dict es) (key :: path) raw =
      match find? key es with
      | some t => valueFor t path raw
      | none => untypedValue raw := by
  rw [valueFor, at?_dict_cons]
  cases find? key es <;> rfl

/-- No leaf is in the way of a path, its end apart. -/
def Open (t : Tree) (path : List String) : Prop :=
  ∀ outer, outer <+: path → outer ≠ path →
    ∀ u, t.at? outer = some u → u.isDict = true

theorem open_nil (t : Tree) : Open t [] := by
  intro outer houter hne
  exact absurd (List.prefix_nil.mp houter) hne

theorem not_open_leaf {t : Tree} (ht : t.isDict = false) (key : String)
    (path : List String) : ¬ Open t (key :: path) := by
  intro h
  have := h [] List.nil_prefix (by simp) t (at?_nil t)
  rw [ht] at this
  cases this

theorem open_dict_cons {es : Entries} {key : String} {path : List String} :
    Open (.dict es) (key :: path) ↔ ∀ t, find? key es = some t → Open t path := by
  constructor
  · intro h t ht outer houter hne u hu
    refine h (key :: outer) (List.cons_prefix_cons.mpr ⟨rfl, houter⟩) ?_ u ?_
    · simpa using hne
    · rw [at?_dict_cons, ht]
      exact hu
  · intro h outer houter hne u hu
    cases outer with
    | nil =>
        cases hu
        rfl
    | cons k outer =>
        obtain ⟨rfl, hbelow⟩ := List.cons_prefix_cons.mp houter
        rw [at?_dict_cons, Option.bind_eq_some_iff] at hu
        obtain ⟨t, ht, hu⟩ := hu
        exact h t ht outer hbelow (by simpa using hne) u hu

theorem typedValue_slotBelow {raw : String} {t v : Tree} {path : List String} :
    typedValue raw (slotBelow t path) = some v ↔
      Open t path ∧ valueFor t path raw = v := by
  induction path generalizing t with
  | nil =>
      rw [slotBelow, valueFor, at?_nil]
      cases t <;> simp [typedValue, open_nil]
  | cons key path ih =>
      cases t with
      | dict es =>
          rw [slotBelow, open_dict_cons, valueFor_dict_cons]
          cases find? key es with
          | none => simp [typedValue]
          | some u => simpa using ih
      | null | bool _ | number _ | text _ | list _ =>
          simp only [slotBelow, typedValue, reduceCtorEq, false_iff, not_and]
          exact fun h => absurd h (not_open_leaf rfl key path)

theorem typedValue_slot {raw : String} {defaults v : Tree} {key : String}
    {path : List String} :
    typedValue raw (slot defaults (key :: path)) = some v ↔
      (∃ t, defaults.at? [key] = some t) ∧
        (∀ outer, outer <+: key :: path → outer ≠ [] → outer ≠ key :: path →
          ∀ t, defaults.at? outer = some t → t.isDict = true) ∧
        valueFor defaults (key :: path) raw = v := by
  cases defaults with
  | dict es =>
      -- At the top there is a dictionary, so the empty path is never in the way.
      have hopen : (∀ outer, outer <+: key :: path → outer ≠ [] →
          outer ≠ key :: path → ∀ t, at? (.dict es) outer = some t →
          t.isDict = true) ↔ Open (.dict es) (key :: path) := by
        constructor
        · intro h outer houter hne u hu
          by_cases hnil : outer = []
          · subst hnil
            cases hu
            rfl
          · exact h outer houter hnil hne u hu
        · intro h outer houter _ hne u hu
          exact h outer houter hne u hu
      rw [hopen, slot, at?_dict_cons, open_dict_cons, valueFor_dict_cons]
      cases find? key es with
      | none => simp [typedValue]
      | some t => simpa using typedValue_slotBelow
  | null | bool _ | number _ | text _ | list _ =>
      simp only [slot, typedValue, reduceCtorEq, false_iff, not_and]
      rintro ⟨t, ht⟩
      rw [at?_leaf_cons rfl] at ht
      cases ht

theorem binding?_eq_some {envPrefix : Option String} {defaults v : Tree}
    {name raw : String} {path : List String} :
    binding? envPrefix defaults (name, raw) = some (path, v) ↔
      Bound envPrefix defaults name path ∧ valueFor defaults path raw = v := by
  rw [binding?]
  cases hname : afterPrefix? envPrefix name with
  | none =>
      simp only [reduceCtorEq, false_iff, not_and]
      intro hbound
      obtain ⟨key, hkey, _⟩ := hbound.named
      rw [hname] at hkey
      cases hkey
  | some text =>
      obtain ⟨first, rest, hsplit⟩ :=
        List.exists_cons_of_ne_nil (keyPath_ne_nil text)
      simp only [List.any_eq_true, String.isEmpty_iff]
      constructor
      · intro h
        split at h
        · cases h
        · next hfilled =>
            simp only [Option.map_eq_some_iff, Prod.mk.injEq] at h
            obtain ⟨_, htyped, rfl, rfl⟩ := h
            rw [hsplit, typedValue_slot, ← hsplit] at htyped
            obtain ⟨⟨t, ht⟩, hreached, hvalue⟩ := htyped
            refine ⟨⟨⟨text, hname, rfl⟩, ?_, ⟨first, rest, t, hsplit, ht⟩,
              hreached⟩, hvalue⟩
            intro key hkey hempty
            exact hfilled ⟨key, hkey, hempty⟩
      · rintro ⟨⟨⟨text', htext, rfl⟩, hfilled, ⟨key, path, t, hcons, ht⟩,
          hreached⟩, rfl⟩
        obtain rfl : text = text' := Option.some.inj (hname.symm.trans htext)
        rw [if_neg, Option.map_eq_some_iff]
        · refine ⟨_, ?_, rfl⟩
          rw [hcons] at hreached ⊢
          exact typedValue_slot.mpr ⟨⟨t, ht⟩, hreached, rfl⟩
        · rintro ⟨key, hkey, hempty⟩
          exact hfilled key hkey hempty

/-- A variable that gives a leaf, and that clashes with none after it. -/
def Lasting (envPrefix : Option String) (defaults : Tree) (vars : Environment)
    (path : List String) (leaf : Tree) : Prop :=
  ∃ before name raw after, vars = before ++ (name, raw) :: after ∧
    Bound envPrefix defaults name path ∧ valueFor defaults path raw = leaf ∧
    ∀ later ∈ after, ∀ other, Bound envPrefix defaults later.1 other →
      ¬ Clash path other

theorem bind_eq_insertAll (envPrefix : Option String) (defaults : Tree)
    (vars : Environment) :
    bind envPrefix defaults vars =
      insertAll (vars.filterMap (binding? envPrefix defaults)) [] := rfl

theorem insertable_of_binding? {envPrefix : Option String} {defaults : Tree}
    {vars : Environment} {b : List String × Tree}
    (h : b ∈ vars.filterMap (binding? envPrefix defaults)) : Insertable b := by
  obtain ⟨var, _, hb⟩ := List.mem_filterMap.mp h
  obtain ⟨hbound, hvalue⟩ := binding?_eq_some.mp hb
  obtain ⟨first, rest, _, hpath, _⟩ := hbound.known
  exact ⟨by simp [hpath], hvalue ▸ valueFor_leaf _ _ _⟩

theorem bind_ordered (envPrefix : Option String) (defaults : Tree)
    (vars : Environment) : OrderedEntries (bind envPrefix defaults vars) :=
  insertAll_ordered (fun _ => insertable_of_binding?) trivial

theorem bind_full (envPrefix : Option String) (defaults : Tree)
    (vars : Environment) : FullEntries (bind envPrefix defaults vars) :=
  insertAll_full (fun _ => insertable_of_binding?) trivial

theorem leafAt_bind {envPrefix : Option String} {defaults : Tree}
    {vars : Environment} {path : List String} {leaf : Tree} :
    LeafAt (.dict (bind envPrefix defaults vars)) path leaf ↔
      Lasting envPrefix defaults vars path leaf := by
  rw [bind_eq_insertAll, leafAt_insertAll fun _ => insertable_of_binding?]
  constructor
  · rintro (⟨before, after, hsplit, hafter⟩ | ⟨h, _⟩)
    · obtain ⟨vars₁, vars₂, rfl, _, hvars⟩ := List.filterMap_eq_append_iff.mp hsplit
      obtain ⟨skipped, ⟨name, raw⟩, vars₃, rfl, hskipped, hb, rfl⟩ :=
        List.filterMap_eq_cons_iff.mp hvars
      obtain ⟨hbound, hvalue⟩ := binding?_eq_some.mp hb
      refine ⟨vars₁ ++ skipped, name, raw, vars₃, by simp, hbound, hvalue, ?_⟩
      intro later hlater other hother
      exact hafter _ (List.mem_filterMap.mpr
        ⟨later, hlater, binding?_eq_some.mpr ⟨hother, rfl⟩⟩)
    · exact absurd h not_leafAt_nothing
  · rintro ⟨before, name, raw, after, rfl, hbound, hvalue, hlater⟩
    refine Or.inl ⟨before.filterMap (binding? envPrefix defaults),
      after.filterMap (binding? envPrefix defaults), ?_, ?_⟩
    · rw [List.filterMap_append, List.filterMap_cons,
        binding?_eq_some.mpr ⟨hbound, hvalue⟩]
    · intro b hb
      obtain ⟨later, hmem, hbind⟩ := List.mem_filterMap.mp hb
      exact hlater later hmem _ (binding?_eq_some.mp hbind).1

/-- What decides about the tree: it is the only one that is ordered, has no
empty dictionary and has the lasting variables for its leaves. -/
theorem eq_bind {envPrefix : Option String} {defaults : Tree}
    {vars : Environment} {es : Entries} (hordered : OrderedEntries es)
    (hfull : FullEntries es)
    (hleaves : ∀ path leaf, LeafAt (.dict es) path leaf ↔
      Lasting envPrefix defaults vars path leaf) :
    es = bind envPrefix defaults vars :=
  entries_eq_of_leaves hordered hfull (bind_ordered _ _ _) (bind_full _ _ _)
    fun path leaf => (hleaves path leaf).trans leafAt_bind.symm

/-! ## Order of the variables -/

/-- No two of the variables are bound to paths that clash. -/
def Apart (envPrefix : Option String) (defaults : Tree) (vars : Environment) :
    Prop :=
  vars.Pairwise fun a b => ∀ p q, Bound envPrefix defaults a.1 p →
    Bound envPrefix defaults b.1 q → ¬ Clash p q

theorem Apart.perm {envPrefix : Option String} {defaults : Tree}
    {vars vars' : Environment} (h : Apart envPrefix defaults vars)
    (hperm : vars.Perm vars') : Apart envPrefix defaults vars' :=
  hperm.pairwise h fun hab p q hp hq hclash => hab q p hq hp hclash.symm

/-- Of variables that are apart, every bound one lasts. -/
theorem Apart.lasting_iff {envPrefix : Option String} {defaults : Tree}
    {vars : Environment} (h : Apart envPrefix defaults vars)
    {path : List String} {leaf : Tree} :
    Lasting envPrefix defaults vars path leaf ↔
      ∃ var ∈ vars, Bound envPrefix defaults var.1 path ∧
        valueFor defaults path var.2 = leaf := by
  constructor
  · rintro ⟨before, name, raw, after, rfl, hbound, hvalue, _⟩
    exact ⟨(name, raw), by simp, hbound, hvalue⟩
  · rintro ⟨⟨name, raw⟩, hmem, hbound, hvalue⟩
    obtain ⟨before, after, rfl⟩ := List.append_of_mem hmem
    refine ⟨before, name, raw, after, rfl, hbound, hvalue, ?_⟩
    intro later hlater other hother
    have hafter := (List.pairwise_append.mp h).2.1
    exact (List.pairwise_cons.mp hafter).1 later hlater path other hbound hother

/-- The tree that the environment gives is settled by its variables: it is the
one that is ordered, has no empty dictionary, and has for its leaves the bound
variables that clash with no bound variable after them. Variables that do not
clash may come in any order. -/
theorem bind_settled (envPrefix : Option String) (defaults : Tree)
    (vars : Environment) :
    (∀ es, es = bind envPrefix defaults vars ↔
      OrderedEntries es ∧ FullEntries es ∧
        ∀ path leaf, LeafAt (.dict es) path leaf ↔
          Lasting envPrefix defaults vars path leaf) ∧
    (Apart envPrefix defaults vars → ∀ vars', vars.Perm vars' →
      bind envPrefix defaults vars' = bind envPrefix defaults vars) := by
  refine ⟨fun es => ⟨?_, ?_⟩, ?_⟩
  · rintro rfl
    exact ⟨bind_ordered _ _ _, bind_full _ _ _, fun _ _ => leafAt_bind⟩
  · rintro ⟨hordered, hfull, hleaves⟩
    exact eq_bind hordered hfull hleaves
  · intro hapart vars' hperm
    refine eq_bind (bind_ordered _ _ _) (bind_full _ _ _) fun path leaf => ?_
    rw [leafAt_bind, hapart.lasting_iff, (hapart.perm hperm).lasting_iff]
    exact exists_congr fun var => and_congr_left' hperm.symm.mem_iff

/-- Two variables for different fields of one section, in either order. -/
theorem bind_settled_swapped :
    bind none (.dict [("a", .dict [("b", .text "x"), ("c", .null)])])
        [("a__C", "1"), ("A__B", "2")] =
      bind none (.dict [("a", .dict [("b", .text "x"), ("c", .null)])])
        [("A__B", "2"), ("a__C", "1")] := by
  refine (bind_settled _ _ _).2 ?_ _ (List.Perm.swap _ _ _)
  refine List.Pairwise.cons ?_ (List.pairwise_singleton _ _)
  intro b hb p q hp hq
  cases List.mem_singleton.mp hb
  obtain ⟨_, hname, rfl⟩ := hp.named
  cases hname
  obtain ⟨_, hname, rfl⟩ := hq.named
  cases hname
  decide

end Overlay.Layer
