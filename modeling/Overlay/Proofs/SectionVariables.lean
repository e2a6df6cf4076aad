import Overlay.Proofs.Binding
import Overlay.Proofs.Merging

/-!
# Variables that name a section

A variable is meant for a field, but nothing stops one from naming the section
around it. Where the defaults hold a dictionary the text is read like that of any
other value that is no text, and the result stands in the place of the section.
Without a prefix the variables of the whole process are looked at, so a section
called `home` is enough for that.

This file says which sections are hit. It depends on the variables alone and on
their order: a section is gone if the last variable that has to do with it names
it as a whole, or does so with a section around it. A later variable for one of
its fields opens the section again. What is merged over the defaults keeps a
section exactly if no variable on the way to it has the last word
(`section_kept_iff`).
-/

namespace Overlay.Tree

/-- A path leads to a dictionary. -/
def SectionAt (t : Tree) (path : List String) : Prop :=
  ∃ es, t.at? path = some (.dict es)

theorem sectionAt_nil {t : Tree} : SectionAt t [] ↔ t.isDict = true := by
  rw [SectionAt, at?_nil]
  cases t <;> simp [isDict]

theorem sectionAt_dict_cons {es : Entries} {k : String} {path : List String} :
    SectionAt (.dict es) (k :: path) ↔ ∃ t, find? k es = some t ∧ SectionAt t path := by
  simp only [SectionAt, at?_dict_cons, Option.bind_eq_some_iff]
  exact ⟨fun ⟨es, t, ht, hes⟩ => ⟨t, ht, es, hes⟩, fun ⟨t, ht, es, hes⟩ => ⟨es, t, ht, hes⟩⟩

theorem not_sectionAt_leaf {t : Tree} (ht : t.isDict = false) (path : List String) :
    ¬ SectionAt t path := by
  cases path with
  | nil => simp [sectionAt_nil, ht]
  | cons k path => simp [SectionAt, at?_leaf_cons ht]

/-- No leaf is at a path or on the way to it. -/
def Unblocked (t : Tree) (path : List String) : Prop :=
  ∀ outer, outer <+: path → ∀ leaf, ¬ LeafAt t outer leaf

theorem unblocked_dict_cons {es : Entries} {k : String} {path : List String} :
    Unblocked (.dict es) (k :: path) ↔ ∀ t, find? k es = some t → Unblocked t path := by
  constructor
  · intro h t ht outer houter leaf hleaf
    exact h (k :: outer) (List.cons_prefix_cons.mpr ⟨rfl, houter⟩) leaf
      (leafAt_dict_cons.mpr ⟨t, ht, hleaf⟩)
  · intro h outer houter leaf hleaf
    cases outer with
    | nil => exact not_leafAt_dict_nil hleaf
    | cons j outer =>
        obtain ⟨rfl, hbelow⟩ := List.cons_prefix_cons.mp houter
        obtain ⟨t, ht, hleaf⟩ := leafAt_dict_cons.mp hleaf
        exact h t ht outer hbelow leaf hleaf

theorem not_unblocked_leaf {t : Tree} (ht : t.isDict = false) (path : List String) :
    ¬ Unblocked t path := by
  intro h
  exact h [] List.nil_prefix t ((leafAt_leaf ht).mpr ⟨rfl, rfl⟩)

/-- A section stays one under a later layer exactly if no leaf of that layer is in
the way. -/
theorem sectionAt_merge {t : Tree} {new : Entries} (hnew : OrderedEntries new)
    {path : List String} (h : SectionAt t path) :
    SectionAt (merge t (.dict new)) path ↔ Unblocked (.dict new) path := by
  induction path generalizing t new with
  | nil =>
      have hmerged : (merge t (.dict new)).isDict = true := by
        cases t <;> simp [merge, isDict]
      simp only [sectionAt_nil, hmerged, true_iff]
      intro outer houter leaf hleaf
      rw [List.prefix_nil.mp houter] at hleaf
      exact not_leafAt_dict_nil hleaf
  | cons k path ih =>
      cases t with
      | dict old =>
          obtain ⟨u, hu, hbelow⟩ := sectionAt_dict_cons.mp h
          rw [merge, sectionAt_dict_cons, unblocked_dict_cons, find?_mergeEntries hnew, hu]
          cases hv : find? k new with
          | none => simpa using hbelow
          | some v =>
              simp only [overlaid, Option.some.injEq, exists_eq_left', forall_eq']
              cases hdict : v.isDict with
              | true =>
                  cases v with
                  | dict inner => exact ih (ordered_of_find? hnew hv) hbelow
                  | null | bool _ | number _ | text _ | list _ => cases hdict
              | false =>
                  rw [merge_leaf u hdict]
                  exact iff_of_false (not_sectionAt_leaf hdict path)
                    (not_unblocked_leaf hdict path)
      | null | bool _ | number _ | text _ | list _ => exact absurd h (not_sectionAt_leaf rfl _)

end Overlay.Tree

namespace Overlay.Layer

open Overlay.Tree

/-- A variable with this text is bound to a path, and none that is bound after it has
to do with that path. -/
def LastNamed (envPrefix : Option String) (defaults : Tree) (vars : Environment)
    (path : List String) (raw : String) : Prop :=
  ∃ before name after, vars = before ++ (name, raw) :: after ∧
    Bound envPrefix defaults name path ∧
    ∀ later ∈ after, ∀ other, Bound envPrefix defaults later.1 other → ¬ Clash path other

theorem lasting_iff_lastNamed {envPrefix : Option String} {defaults : Tree}
    {vars : Environment} {path : List String} {leaf : Tree} :
    Lasting envPrefix defaults vars path leaf ↔
      ∃ raw, LastNamed envPrefix defaults vars path raw ∧
        leaf = valueFor defaults path raw := by
  constructor
  · rintro ⟨before, name, raw, after, hvars, hbound, hvalue, hlater⟩
    exact ⟨raw, ⟨before, name, after, hvars, hbound, hlater⟩, hvalue.symm⟩
  · rintro ⟨raw, ⟨before, name, after, hvars, hbound, hlater⟩, hvalue⟩
    exact ⟨before, name, raw, after, hvars, hbound, hvalue.symm, hlater⟩

/-- For a section there is no text in the defaults that would keep a raw text as it
is. -/
theorem valueFor_section {defaults : Tree} {path : List String}
    (h : SectionAt defaults path) (raw : String) :
    valueFor defaults path raw = untypedValue raw := by
  obtain ⟨es, hes⟩ := h
  rw [valueFor, hes]

/-- The sections of the defaults that the environment leaves alone. In the place of a
section there is a value that is none exactly if a variable names the section and has
the last word about it; and a section survives the merge exactly if that happens
neither to it nor to a section around it. -/
theorem section_kept_iff (envPrefix : Option String) {defaults : Tree}
    (vars : Environment) {path : List String} (h : SectionAt defaults path) :
    (∀ leaf, LeafAt (.dict (bind envPrefix defaults vars)) path leaf ↔
      ∃ raw, LastNamed envPrefix defaults vars path raw ∧ leaf = untypedValue raw) ∧
    (SectionAt (merge defaults (.dict (bind envPrefix defaults vars))) path ↔
      ∀ outer, outer <+: path → ∀ raw, ¬ LastNamed envPrefix defaults vars outer raw) := by
  constructor
  · intro leaf
    rw [leafAt_bind, lasting_iff_lastNamed]
    simp only [valueFor_section h]
  · rw [sectionAt_merge (bind_ordered _ _ _) h]
    constructor
    · intro hfree outer houter raw hnamed
      exact hfree outer houter _
        (leafAt_bind.mpr (lasting_iff_lastNamed.mpr ⟨raw, hnamed, rfl⟩))
    · intro hfree outer houter leaf hleaf
      obtain ⟨raw, hnamed, _⟩ := lasting_iff_lastNamed.mp (leafAt_bind.mp hleaf)
      exact hfree outer houter raw hnamed

/-- Defaults with a section that a variable of most processes happens to name. -/
def homes : Tree := .dict [("home", .dict [("city", .text "")])]

theorem section_kept_iff_home :
    SectionAt homes ["home"] ∧
    LeafAt (.dict (bind none homes [("HOME", "/root")])) ["home"] (.text "/root") ∧
    ¬ SectionAt (merge homes (.dict (bind none homes [("HOME", "/root")]))) ["home"] := by
  have hsection : SectionAt homes ["home"] := ⟨_, rfl⟩
  have hbinding : binding? none homes ("HOME", "/root") = some (["home"], .text "/root") := rfl
  have hbound : Bound none homes "HOME" ["home"] := (binding?_eq_some.mp hbinding).1
  have hnamed : LastNamed none homes [("HOME", "/root")] ["home"] "/root" :=
    ⟨[], "HOME", [], rfl, hbound, by simp⟩
  obtain ⟨hleaf, hmerged⟩ := section_kept_iff none [("HOME", "/root")] hsection
  refine ⟨hsection, (hleaf _).mpr ⟨"/root", hnamed, rfl⟩, fun hkept => ?_⟩
  exact hmerged.mp hkept ["home"] (List.prefix_refl _) "/root" hnamed

end Overlay.Layer
