import Overlay.Proofs.Binding

/-!
# Assignments are bound back

Writing a tree as assignments and binding the assignments again are two walks
over different things: the one goes down the tree and spells the path it is on,
the other reads each name by itself, asks the defaults what the text stands
for, and builds dictionaries as it needs them. They meet in the leaves. Every
assignment is bound to the leaf that it was written for, `binding?_divided`, so
the second walk inserts exactly the leaves of the first tree. No leaf clashes
with another one, so all of them last, and a tree without empty dictionaries
has nothing else.
-/

namespace Overlay.Layer

open Overlay.Tree

/-! ## The leaves of a tree -/

theorem leafAt_entries_cons {k : String} {t leaf : Tree} {rest : Entries}
    (hes : OrderedEntries ((k, t) :: rest)) {path : List String} :
    LeafAt (.dict ((k, t) :: rest)) path leaf ↔
      (∃ below, path = k :: below ∧ LeafAt t below leaf) ∨
        LeafAt (.dict rest) path leaf := by
  cases path with
  | nil => simp [not_leafAt_dict_nil]
  | cons j path =>
      rw [leafAt_dict_cons, leafAt_dict_cons, find?]
      by_cases hj : k = j
      · subst hj
        simp [find?_eq_none_of_lt hes.1]
      · simp [hj, Ne.symm hj]

theorem leaves_leaf {t : Tree} (ht : t.isDict = false) (outer : List String) :
    leaves outer t = if outer.isEmpty then [] else [(outer, t)] := by
  cases t with
  | dict es => cases ht
  | null | bool _ | number _ | text _ | list _ => rfl

theorem mem_leaves_leaf {t leaf : Tree} (ht : t.isDict = false)
    {outer path : List String} :
    (path, leaf) ∈ leaves outer t ↔
      path ≠ [] ∧ ∃ below, path = outer ++ below ∧ LeafAt t below leaf := by
  rw [leaves_leaf ht]
  constructor
  · intro h
    split at h
    · cases h
    · next houter =>
        cases List.mem_singleton.mp h
        exact ⟨by simpa using houter, [], by simp, rfl, ht⟩
  · rintro ⟨hne, below, rfl, h⟩
    obtain ⟨rfl, rfl⟩ := (leafAt_leaf ht).mp h
    rw [List.append_nil] at hne ⊢
    rw [if_neg (by simpa using hne)]
    exact List.mem_singleton_self _

mutual

theorem mem_leaves {t : Tree} (ht : Ordered t) {outer path : List String}
    {leaf : Tree} :
    (path, leaf) ∈ leaves outer t ↔
      path ≠ [] ∧ ∃ below, path = outer ++ below ∧ LeafAt t below leaf := by
  match t with
  | .dict es =>
      rw [leaves, mem_entryLeaves ht]
      constructor
      · rintro ⟨below, rfl, h⟩
        refine ⟨fun hnil => ?_, below, rfl, h⟩
        rw [(List.append_eq_nil_iff.mp hnil).2] at h
        exact not_leafAt_dict_nil h
      · rintro ⟨_, h⟩
        exact h
  | .null | .bool _ | .number _ | .text _ | .list _ => exact mem_leaves_leaf rfl

theorem mem_entryLeaves {es : Entries} (hes : OrderedEntries es)
    {outer path : List String} {leaf : Tree} :
    (path, leaf) ∈ entryLeaves outer es ↔
      ∃ below, path = outer ++ below ∧ LeafAt (.dict es) below leaf := by
  match es with
  | [] =>
      rw [entryLeaves]
      constructor
      · intro h
        cases h
      · rintro ⟨below, _, h⟩
        exact absurd h not_leafAt_nothing
  | (k, t) :: rest =>
      rw [entryLeaves, List.mem_append, mem_leaves hes.2.1,
        mem_entryLeaves hes.2.2]
      simp only [leafAt_entries_cons hes]
      constructor
      · rintro (⟨_, below, rfl, h⟩ | ⟨below, rfl, h⟩)
        · exact ⟨k :: below, by simp, Or.inl ⟨below, rfl, h⟩⟩
        · exact ⟨below, rfl, Or.inr h⟩
      · rintro ⟨_, rfl, ⟨below, rfl, h⟩ | h⟩
        · exact Or.inl ⟨by simp, below, by simp, h⟩
        · exact Or.inr ⟨_, rfl, h⟩

end

/-! ## One assignment -/

/-- The name and the value of an assignment, divided at the first equals
sign. -/
def divided (line : String) : String × String :=
  (String.ofList (line.toList.takeWhile (· != '=')),
    String.ofList ((line.toList.dropWhile (· != '=')).drop 1))

theorem divided_append {name : String} (h : '=' ∉ name.toList) (value : String) :
    divided (name ++ "=" ++ value) = (name, value) := by
  have hname : ∀ c ∈ name.toList, (c != '=') = true := by
    intro c hc
    rw [bne_iff_ne]
    rintro rfl
    exact h hc
  rw [divided]
  simp [List.takeWhile_append_of_pos hname, List.dropWhile_append_of_pos hname]

/-- A key that can be a part of a name. -/
structure PlainKey (key : String) : Prop where
  filled : key ≠ ""
  small : ∀ c ∈ key.toList, c.isUpper = false
  noEquals : '=' ∉ key.toList
  whole : Whole key.toList
  closed : key.toList.getLast? ≠ some '_'

instance (key : String) : Decidable (PlainKey key) :=
  decidable_of_iff (key ≠ "" ∧ key.toList.all (fun c => !c.isUpper) = true ∧
      '=' ∉ key.toList ∧ Whole key.toList ∧ key.toList.getLast? ≠ some '_')
    ⟨fun ⟨h₁, h₂, h₃, h₄, h₅⟩ => ⟨h₁, by simpa using h₂, h₃, h₄, h₅⟩,
      fun ⟨h₁, h₂, h₃, h₄, h₅⟩ => ⟨h₁, by simpa using h₂, h₃, h₄, h₅⟩⟩

theorem PlainKey.smallLetters_eq {key : String} (h : PlainKey key) :
    smallLetters key = key := by
  rw [← String.toList_inj, toList_smallLetters]
  refine (List.map_congr_left fun c hc => ?_).trans (List.map_id _)
  exact Char.toLower_eq_of_not_isUpper (by simp [h.small c hc])

theorem spellable_of_plain {path : List String} (hne : path ≠ [])
    (h : ∀ key ∈ path, PlainKey key) : Spellable path where
  nonempty := hne
  whole key hkey := (h key hkey).whole
  closed key hkey := (h key (List.mem_of_mem_dropLast hkey)).closed
  small key hkey := (h key hkey).smallLetters_eq

theorem noEquals_variableName {path : List String}
    (h : ∀ key ∈ path, PlainKey key) : '=' ∉ (variableName path).toList := by
  intro hmem
  rcases mem_variableName hmem with heq | ⟨key, hkey, c, hc, heq⟩
  · exact absurd heq (by decide)
  · rw [toUpper_eq_iff (by decide)] at heq
    exact (h key hkey).noEquals (heq ▸ hc)

theorem noEquals_withPrefix {envPrefix : Option String} {name : String}
    (hp : ∀ p, envPrefix = some p → '=' ∉ p.toList)
    (hname : '=' ∉ name.toList) : '=' ∉ (withPrefix envPrefix name).toList := by
  cases envPrefix with
  | none => exact hname
  | some p => simp [withPrefix, hp p rfl, hname]

/-- A leaf that its assignment brings back. Its keys can be parts of a name,
the defaults hold a leaf at the same place and text only where it is text, and
what is no text is read from its own text. -/
structure Restorable (defaults : Tree) (path : List String) (leaf : Tree) :
    Prop where
  plain : ∀ key ∈ path, PlainKey key
  notNull : leaf ≠ .null
  held : ∃ d, LeafAt defaults path d ∧ d.isText = leaf.isText
  readBack : leaf.isText = false → Json.read? (Json.compact leaf) = some leaf

theorem Restorable.bound {envPrefix : Option String} {defaults leaf : Tree}
    {path : List String} (h : Restorable defaults path leaf) (hne : path ≠ []) :
    Bound envPrefix defaults (withPrefix envPrefix (variableName path)) path where
  named := ⟨variableName path, afterPrefix?_withPrefix _ _,
    keyPath_variableName (spellable_of_plain hne h.plain)⟩
  filled key hkey := (h.plain key hkey).filled
  known := by
    obtain ⟨first, rest, rfl⟩ := List.exists_cons_of_ne_nil hne
    obtain ⟨d, hd, _⟩ := h.held
    cases defaults with
    | dict es =>
        obtain ⟨t, ht, _⟩ := leafAt_dict_cons.mp hd
        exact ⟨first, rest, t, rfl, by rw [at?_dict_cons, ht]; simp⟩
    | null | bool _ | number _ | text _ | list _ =>
        cases ((leafAt_leaf rfl).mp hd).1
  reached := by
    obtain ⟨d, hd, _⟩ := h.held
    intro outer houter _ hproper t ht
    exact isDict_of_isPrefix hd houter hproper ht

theorem untypedValue_compact {leaf : Tree} (hleaf : leaf.isDict = false)
    (hnull : leaf ≠ .null) (htext : leaf.isText = false)
    (hread : Json.read? (Json.compact leaf) = some leaf) :
    untypedValue (leafText leaf) = leaf := by
  cases leaf with
  | null => exact absurd rfl hnull
  | text s => cases htext
  | dict es => cases hleaf
  | bool b => rw [leafText, untypedValue, hread] <;> simp
  | number n => rw [leafText, untypedValue, hread] <;> simp
  | list items => rw [leafText, untypedValue, hread] <;> simp

theorem exists_text {t : Tree} (h : t.isText = true) : ∃ s, t = .text s := by
  cases t with
  | text s => exact ⟨s, rfl⟩
  | null | bool _ | number _ | list _ | dict _ => cases h

theorem Restorable.valueFor_eq {defaults leaf : Tree} {path : List String}
    (h : Restorable defaults path leaf) (hleaf : leaf.isDict = false) :
    valueFor defaults path (leafText leaf) = leaf := by
  obtain ⟨d, hd, hsame⟩ := h.held
  rw [valueFor, hd.1]
  cases htext : leaf.isText with
  | true =>
      rw [htext] at hsame
      obtain ⟨s, rfl⟩ := exists_text htext
      obtain ⟨u, rfl⟩ := exists_text hsame
      rfl
  | false =>
      rw [htext] at hsame
      split
      · next heq =>
          cases heq
          cases hsame
      · exact untypedValue_compact hleaf h.notNull htext (h.readBack htext)

/-- An assignment is bound to the leaf that it was written for. -/
theorem binding?_divided {envPrefix : Option String} {defaults leaf : Tree}
    {path : List String} (hp : ∀ p, envPrefix = some p → '=' ∉ p.toList)
    (h : Restorable defaults path leaf) (hne : path ≠ [])
    (hleaf : leaf.isDict = false) :
    binding? envPrefix defaults (divided (assignment envPrefix path leaf)) =
      some (path, leaf) := by
  rw [assignment, divided_append
    (noEquals_withPrefix hp (noEquals_variableName h.plain))]
  exact binding?_eq_some.mpr ⟨h.bound hne, h.valueFor_eq hleaf⟩

/-! ## All assignments -/

/-- A member of a list has a last place in it. -/
theorem exists_last_of_mem {α : Type} {a : α} {l : List α} (h : a ∈ l) :
    ∃ before after, l = before ++ a :: after ∧ a ∉ after := by
  obtain ⟨after, before, hl, hnot⟩ :=
    List.eq_append_cons_of_mem (List.mem_reverse.mpr h)
  refine ⟨before.reverse, after.reverse, ?_, by simpa using hnot⟩
  rw [← List.reverse_reverse l, hl]
  simp

/-- The leaves of a tree rebuild it, in any order and however often. -/
theorem insertAll_leaves {es : Entries} (hordered : OrderedEntries es)
    (hfull : FullEntries es) {bs : List (List String × Tree)}
    (hbs : ∀ path leaf, (path, leaf) ∈ bs ↔ LeafAt (.dict es) path leaf) :
    insertAll bs [] = es := by
  have hinsertable : ∀ b ∈ bs, Insertable b := by
    rintro ⟨path, leaf⟩ hb
    have hleaf := (hbs path leaf).mp hb
    refine ⟨?_, hleaf.2⟩
    rintro rfl
    exact not_leafAt_dict_nil hleaf
  refine entries_eq_of_leaves (insertAll_ordered hinsertable trivial)
    (insertAll_full hinsertable trivial) hordered hfull fun path leaf => ?_
  rw [leafAt_insertAll hinsertable, ← hbs]
  constructor
  · rintro (⟨before, after, rfl, _⟩ | ⟨h, _⟩)
    · simp
    · exact absurd h not_leafAt_nothing
  · intro hmem
    obtain ⟨before, after, rfl, hnot⟩ := exists_last_of_mem hmem
    refine Or.inl ⟨before, after, rfl, ?_⟩
    -- Leaves of one tree that clash are the same leaf.
    rintro ⟨other, leaf'⟩ hother hclash
    have hp := (hbs path leaf).mp hmem
    have hq := (hbs other leaf').mp (by simp [hother])
    obtain rfl : path = other := by
      rcases hclash with h | h
      · exact hp.eq_of_isPrefix hq h
      · exact (hq.eq_of_isPrefix hp h).symm
    obtain rfl : leaf = leaf' := Option.some.inj (hp.1.symm.trans hq.1)
    exact hnot hother

/-- Binding the assignments of a tree gives the tree back. -/
theorem bind_assignments {envPrefix : Option String} {defaults : Tree}
    {es : Entries} (hp : ∀ p, envPrefix = some p → '=' ∉ p.toList)
    (hordered : OrderedEntries es) (hfull : FullEntries es)
    (hleaves : ∀ path leaf, LeafAt (.dict es) path leaf →
      Restorable defaults path leaf) :
    bind envPrefix defaults
      ((assignments envPrefix (.dict es)).map divided) = es := by
  have hmem : ∀ path leaf, (path, leaf) ∈ leaves [] (.dict es) ↔
      LeafAt (.dict es) path leaf := by
    intro path leaf
    rw [leaves, mem_entryLeaves hordered]
    simp
  have hbound : ((assignments envPrefix (.dict es)).map divided).filterMap
      (binding? envPrefix defaults) = leaves [] (.dict es) := by
    rw [assignments, List.map_map, List.filterMap_map]
    refine (List.filterMap_congr fun b hb => ?_).trans List.filterMap_some
    obtain ⟨path, leaf⟩ := b
    have hleaf := (hmem path leaf).mp hb
    refine binding?_divided hp (hleaves path leaf hleaf) ?_ hleaf.2
    rintro rfl
    exact not_leafAt_dict_nil hleaf
  rw [bind_eq_insertAll, hbound]
  exact insertAll_leaves hordered hfull hmem

/-- Text with an equals sign in it, a number, a truth value and a list, below
keys that begin with an underscore or have one inside. -/
theorem bind_assignments_nested :
    bind (some "APP")
      (.dict [("a", .dict [("_b", .text ""), ("c_d", .number (.unsigned 0))]),
        ("on", .null), ("tags", .list [])])
      ((assignments (some "APP")
        (.dict [("a", .dict [("_b", .text "x=1"), ("c_d", .number (.unsigned 30))]),
          ("on", .bool true), ("tags", .list [.text "u"])])).map divided) =
      [("a", .dict [("_b", .text "x=1"), ("c_d", .number (.unsigned 30))]),
        ("on", .bool true), ("tags", .list [.text "u"])] := by
  have hordered : OrderedEntries
      [("a", .dict [("_b", .text "x=1"), ("c_d", .number (.unsigned 30))]),
        ("on", .bool true), ("tags", .list [.text "u"])] := by
    simp only [OrderedEntries, Ordered]
    decide
  refine bind_assignments ?_ hordered (by simp [FullEntries, Full]) ?_
  · rintro p hp
    cases hp
    decide
  · intro path leaf h
    have hmem :=
      (mem_entryLeaves hordered).mpr ⟨path, (List.nil_append path).symm, h⟩
    simp only [entryLeaves, leaves] at hmem
    simp at hmem
    rcases hmem with ⟨rfl, rfl⟩ | ⟨rfl, rfl⟩ | ⟨rfl, rfl⟩ | ⟨rfl, rfl⟩
    · exact ⟨by decide, by simp, ⟨_, ⟨rfl, rfl⟩, rfl⟩, by simp [isText]⟩
    · exact ⟨by decide, by simp, ⟨_, ⟨rfl, rfl⟩, rfl⟩, fun _ => rfl⟩
    · exact ⟨by decide, by simp, ⟨_, ⟨rfl, rfl⟩, rfl⟩, fun _ => rfl⟩
    · exact ⟨by decide, by simp, ⟨_, ⟨rfl, rfl⟩, rfl⟩, fun _ => rfl⟩

end Overlay.Layer
