import Overlay.Proofs.LowerCase
import Overlay.Proofs.SectionLayout
import Overlay.Proofs.Spelling

/-!
# Keys that variables can stand for

The generator gives every section and every field of it a key, and the loader
reads a variable by splitting its name into keys. The two are written apart,
and they do not always agree: snake case keeps the underscores of a name, and
the loader takes two in a row, or one at the end of a section's key and the one
after it, for the end of a key.

`variable_of_field` says how far they agree. The keys of a field are read back
from the name of its variable if and only if neither key has two underscores in
a row and the section's key does not end in one. Fields with different keys have
one name if and only if what divides the keys of one runs into a key of the
other, and then one of the two is not read back.
-/

namespace Overlay.Generate

open Layer Text.Case

namespace Section

/-! ## What laying out gives -/

/-- What the sections look like once all of them have been laid out. -/
structure LaidOut (claimed : List (String × String)) (ds tagged : List Declaration)
    (fields : List AggregateField) : Prop where
  tagged_eq : tagged = ds.map tagFields
  sections_eq : sectionFields fields = ds.map sectionOf
  distinct : (ds.map fun d => snakeCase d.name).Nodup
  free : ∀ d ∈ ds, claimed.lookup (snakeCase d.name) = none

theorem synthesize_ok {ds tagged : List Declaration} {fields : List AggregateField}
    (h : synthesize ds = (tagged, .ok fields)) : LaidOut [] ds tagged fields := by
  obtain ⟨hrun, hfields, hdistinct⟩ := synthesize_eq_of_ok (congrArg Prod.snd h)
  refine ⟨congrArg Prod.fst (h.symm.trans hrun), ?_, hdistinct, fun d hd => rfl⟩
  rw [hfields, sectionFields_laidOut]

/-! ## The keys of a field -/

/-- The keys of the `i`-th section and of its `j`-th field. -/
structure KeysAt (tagged : List Declaration) (fields : List AggregateField)
    (i j : Nat) (outer inner : String) : Prop where
  outer_eq : ((sectionFields fields)[i]?).map (·.tag) = some outer
  inner_eq : ((tagged[i]?).bind (·.fields[j]?)).bind (·.tag) = some inner

/-- Keys that are not taken apart anywhere but between them. -/
structure Separable (outer inner : String) : Prop where
  outer_whole : Whole outer.toList
  outer_closed : outer.toList.getLast? ≠ some '_'
  inner_whole : Whole inner.toList

/-- The name of the variable for a field. -/
def fieldVariable (envPrefix : Option String) (outer inner : String) : String :=
  withPrefix envPrefix (variableName [outer, inner])

/-- The path that a variable is read as. -/
def variablePath? (envPrefix : Option String) (name : String) :
    Option (List String) :=
  (afterPrefix? envPrefix name).map keyPath

section Keys

variable {claimed : List (String × String)} {ds tagged : List Declaration}
  {fields : List AggregateField} {i j i' j' : Nat}
  {outer inner outer' inner' : String}

/-- The keys of a field are the snake case of what was declared. -/
theorem LaidOut.keysAt_iff (h : LaidOut claimed ds tagged fields) :
    KeysAt tagged fields i j outer inner ↔
      ∃ d f, ds[i]? = some d ∧ d.fields[j]? = some f ∧
        snakeCase d.name = outer ∧ snakeCase f.name = inner := by
  have hiff : KeysAt tagged fields i j outer inner ↔
      ((sectionFields fields)[i]?).map (·.tag) = some outer ∧
        ((tagged[i]?).bind (·.fields[j]?)).bind (·.tag) = some inner :=
    ⟨fun hkeys => ⟨hkeys.outer_eq, hkeys.inner_eq⟩, fun hkeys => ⟨hkeys.1, hkeys.2⟩⟩
  rw [hiff, h.sections_eq, h.tagged_eq, List.getElem?_map, List.getElem?_map]
  cases ds[i]? with
  | none => simp
  | some d =>
      simp only [Option.map_some, Option.bind_some, tagFields, List.getElem?_map]
      cases hf : d.fields[j]? with
      | none => simp [hf]
      | some f => simp [hf, sectionOf]

theorem LaidOut.outer_eq (h : LaidOut claimed ds tagged fields)
    (hkeys : KeysAt tagged fields i j outer inner) :
    (ds.map fun d => snakeCase d.name)[i]? = some outer := by
  obtain ⟨d, f, hd, -, rfl, -⟩ := h.keysAt_iff.mp hkeys
  rw [List.getElem?_map, hd, Option.map_some]

/-- No two sections have one key. -/
theorem LaidOut.outer_inj (h : LaidOut claimed ds tagged fields)
    (hkeys : KeysAt tagged fields i j outer inner)
    (hkeys' : KeysAt tagged fields i' j' outer' inner') :
    outer = outer' ↔ i = i' := by
  have houter := h.outer_eq hkeys
  have houter' := h.outer_eq hkeys'
  have hlt : i < (ds.map fun d => snakeCase d.name).length :=
    (List.getElem?_eq_some_iff.mp houter).1
  rw [← List.getElem?_inj hlt h.distinct, houter, houter', Option.some.injEq]

theorem LaidOut.small (h : LaidOut claimed ds tagged fields)
    (hkeys : KeysAt tagged fields i j outer inner) :
    smallLetters outer = outer ∧ smallLetters inner = inner := by
  obtain ⟨d, f, -, -, rfl, rfl⟩ := h.keysAt_iff.mp hkeys
  exact ⟨smallLetters_snakeCase _, smallLetters_snakeCase _⟩

theorem spellable_pair_iff
    (hsmall : smallLetters outer = outer ∧ smallLetters inner = inner) :
    Spellable [outer, inner] ↔ Separable outer inner := by
  constructor
  · intro h
    exact ⟨h.whole outer (by simp), h.closed outer (by simp),
      h.whole inner (by simp)⟩
  · intro h
    refine ⟨⟨by simp, ?_, ?_⟩, ?_⟩
    · simpa using ⟨h.outer_whole, h.inner_whole⟩
    · simpa using h.outer_closed
    · simpa using hsmall

end Keys

theorem variablePath?_fieldVariable (envPrefix : Option String)
    (outer inner : String) :
    variablePath? envPrefix (fieldVariable envPrefix outer inner) =
      some (keyPath (variableName [outer, inner])) := by
  rw [variablePath?, fieldVariable, afterPrefix?_withPrefix, Option.map_some]

/-! ## Fields with one name -/

/-- The second section's key has taken in underscores, or even a key, of what
stands behind the first section's key. -/
def RunsInto (outer inner outer' inner' : String) : Prop :=
  (outer' = outer ++ "_" ∧ inner = "_" ++ inner') ∨
    ∃ key, outer' = outer ++ "__" ++ key ∧ inner = key ++ "__" ++ inner'

theorem variableName_pair (outer inner : String) :
    variableName [outer, inner] = capitals (outer ++ "__" ++ inner) := by
  rw [← String.toList_inj, variableName_cons_cons]
  simp [variableName]

theorem smallLetters_append (s t : String) :
    smallLetters (s ++ t) = smallLetters s ++ smallLetters t := by
  rw [← String.toList_inj]
  simp

/-- Keys in small letters are known from the name, but for where they are
divided. -/
theorem fieldVariable_eq_iff {envPrefix : Option String}
    {outer inner outer' inner' : String}
    (hsmall : smallLetters outer = outer ∧ smallLetters inner = inner)
    (hsmall' : smallLetters outer' = outer' ∧ smallLetters inner' = inner') :
    fieldVariable envPrefix outer inner = fieldVariable envPrefix outer' inner' ↔
      outer ++ "__" ++ inner = outer' ++ "__" ++ inner' := by
  have hjoined : ∀ {s t : String}, smallLetters s = s ∧ smallLetters t = t →
      smallLetters (s ++ "__" ++ t) = s ++ "__" ++ t := by
    intro s t h
    have hunderscores : smallLetters "__" = "__" := by decide
    rw [smallLetters_append, smallLetters_append, h.1, h.2, hunderscores]
  constructor
  · intro h
    have hname := congrArg (afterPrefix? envPrefix) h
    simp only [fieldVariable, afterPrefix?_withPrefix, Option.some.injEq,
      variableName_pair] at hname
    have hletters := congrArg smallLetters hname
    rwa [smallLetters_capitals, smallLetters_capitals, hjoined hsmall,
      hjoined hsmall'] at hletters
  · intro h
    rw [fieldVariable, fieldVariable, variableName_pair, variableName_pair, h]

theorem runsInto_of_gap {outer inner outer' inner' : String} {gap : List Char}
    (houter : outer'.toList = outer.toList ++ gap)
    (hinner : '_' :: '_' :: inner.toList = gap ++ '_' :: '_' :: inner'.toList) :
    (outer = outer' ∧ inner = inner') ∨ RunsInto outer inner outer' inner' := by
  match gap with
  | [] =>
      rw [List.append_nil, String.toList_inj] at houter
      rw [List.nil_append, List.cons.injEq, List.cons.injEq,
        String.toList_inj] at hinner
      exact Or.inl ⟨houter.symm, hinner.2.2⟩
  | [c] =>
      rw [List.singleton_append, List.cons.injEq, List.cons.injEq] at hinner
      obtain ⟨rfl, -, hinner⟩ := hinner
      refine Or.inr (Or.inl ⟨?_, ?_⟩)
      · rw [← String.toList_inj, houter, String.toList_append]
        rfl
      · rw [← String.toList_inj, hinner, String.toList_append]
        rfl
  | c :: d :: key =>
      rw [List.cons_append, List.cons_append, List.cons.injEq,
        List.cons.injEq] at hinner
      obtain ⟨rfl, rfl, hinner⟩ := hinner
      refine Or.inr (Or.inr ⟨String.ofList key, ?_, ?_⟩)
      · rw [← String.toList_inj, houter]
        simp
      · rw [← String.toList_inj, hinner]
        simp

theorem joined_of_runsInto {outer inner outer' inner' : String}
    (h : RunsInto outer inner outer' inner') :
    outer ++ "__" ++ inner = outer' ++ "__" ++ inner' := by
  rw [← String.toList_inj]
  rcases h with ⟨rfl, rfl⟩ | ⟨key, rfl, rfl⟩
  · simp
  · simp

/-- The ways to divide one text at two underscores. -/
theorem joined_eq_iff {outer inner outer' inner' : String} :
    outer ++ "__" ++ inner = outer' ++ "__" ++ inner' ↔
      (outer = outer' ∧ inner = inner') ∨ RunsInto outer inner outer' inner' ∨
        RunsInto outer' inner' outer inner := by
  constructor
  · intro h
    have hlist : outer.toList ++ ('_' :: '_' :: inner.toList) =
        outer'.toList ++ ('_' :: '_' :: inner'.toList) := by
      simpa using congrArg String.toList h
    rcases List.append_eq_append_iff.mp hlist with
      ⟨gap, houter, hinner⟩ | ⟨gap, houter, hinner⟩
    · exact (runsInto_of_gap houter hinner).imp_right Or.inl
    · rcases runsInto_of_gap houter hinner with ⟨hsame, hsame'⟩ | hinto
      · exact Or.inl ⟨hsame.symm, hsame'.symm⟩
      · exact Or.inr (Or.inr hinto)
  · intro h
    rcases h with ⟨rfl, rfl⟩ | hinto | hinto
    · rfl
    · exact joined_of_runsInto hinto
    · exact (joined_of_runsInto hinto).symm

/-- Where underscores run into another key, that one is not read back. -/
theorem not_runsInto {outer inner outer' inner' : String}
    (h : Separable outer' inner') : ¬ RunsInto outer inner outer' inner' := by
  intro hinto
  rcases hinto with ⟨rfl, -⟩ | ⟨key, rfl, -⟩
  · exact h.outer_closed (by simp)
  · refine h.outer_whole ⟨outer.toList, key.toList, ?_⟩
    simp

/-- The keys of a field are read back exactly if they are separable, and two
fields have one name exactly if they have the same keys or one runs into the
other. -/
theorem variable_of_field {ds tagged : List Declaration}
    {fields : List AggregateField}
    (h : synthesize ds = (tagged, .ok fields)) (envPrefix : Option String) :
    (∀ i j outer inner, KeysAt tagged fields i j outer inner →
      (variablePath? envPrefix (fieldVariable envPrefix outer inner) =
        some [outer, inner] ↔ Separable outer inner)) ∧
    ∀ i j outer inner i' j' outer' inner',
      KeysAt tagged fields i j outer inner →
      KeysAt tagged fields i' j' outer' inner' →
      (fieldVariable envPrefix outer inner = fieldVariable envPrefix outer' inner' ↔
        (i = i' ∧ inner = inner') ∨ RunsInto outer inner outer' inner' ∨
          RunsInto outer' inner' outer inner) ∧
      (Separable outer inner → Separable outer' inner' →
        fieldVariable envPrefix outer inner =
          fieldVariable envPrefix outer' inner' →
        i = i' ∧ inner = inner') := by
  have hlaid := synthesize_ok h
  refine ⟨?_, ?_⟩
  · intro i j outer inner hkeys
    rw [variablePath?_fieldVariable, Option.some.injEq, keyPath_variableName_iff,
      spellable_pair_iff (hlaid.small hkeys)]
  · intro i j outer inner i' j' outer' inner' hkeys hkeys'
    have hexact : fieldVariable envPrefix outer inner =
        fieldVariable envPrefix outer' inner' ↔
        (i = i' ∧ inner = inner') ∨ RunsInto outer inner outer' inner' ∨
          RunsInto outer' inner' outer inner := by
      rw [fieldVariable_eq_iff (hlaid.small hkeys) (hlaid.small hkeys'),
        joined_eq_iff, hlaid.outer_inj hkeys hkeys']
    refine ⟨hexact, ?_⟩
    intro hsep hsep' hname
    rcases hexact.mp hname with hsame | hinto | hinto
    · exact hsame
    · exact absurd hinto (not_runsInto hsep')
    · exact absurd hinto (not_runsInto hsep)

/-- Underscores that meet: the first field of the first section and the field of
the second section have one name, and it stands for the first of them. -/
def meeting : List Declaration :=
  [bareDeclaration "A" ["_b", "b"], bareDeclaration "A_" ["b"]]

theorem synthesize_meeting :
    synthesize meeting = (meeting.map tagFields,
      .ok [.marker, .spacer, .sectionField ⟨"a", "a", "A"⟩,
        .spacer, .sectionField ⟨"a_", "a_", "A_"⟩]) := rfl

theorem variable_of_field_meeting :
    fieldVariable (some "APP") "a" "_b" = "APP_A___B" ∧
    fieldVariable (some "APP") "a" "_b" = fieldVariable (some "APP") "a_" "b" ∧
    fieldVariable (some "APP") "a" "_b" ≠ fieldVariable (some "APP") "a" "b" ∧
    variablePath? (some "APP") "APP_A___B" = some ["a", "_b"] ∧
    variablePath? (some "APP") "APP_A___B" ≠ some ["a_", "b"] := by
  have hall := variable_of_field synthesize_meeting (some "APP")
  have hname : fieldVariable (some "APP") "a" "_b" = "APP_A___B" := by decide
  have hsep : Separable "a" "_b" := ⟨by decide, by decide, by decide⟩
  have hmeet : fieldVariable (some "APP") "a" "_b" =
      fieldVariable (some "APP") "a_" "b" :=
    (hall.2 0 0 "a" "_b" 1 0 "a_" "b" ⟨rfl, rfl⟩ ⟨rfl, rfl⟩).1.mpr
      (Or.inr (Or.inl (Or.inl ⟨by decide, by decide⟩)))
  refine ⟨hname, hmeet, ?_, ?_, ?_⟩
  · intro hsame
    have hkeys := (hall.2 0 0 "a" "_b" 0 1 "a" "b" ⟨rfl, rfl⟩ ⟨rfl, rfl⟩).2 hsep
      ⟨by decide, by decide, by decide⟩ hsame
    exact absurd hkeys.2 (by decide)
  · rw [← hname]
    exact (hall.1 0 0 "a" "_b" ⟨rfl, rfl⟩).mpr hsep
  · rw [← hname, hmeet, Ne, hall.1 1 0 "a_" "b" ⟨rfl, rfl⟩]
    intro hsep'
    exact hsep'.outer_closed (by decide)

end Section

end Overlay.Generate
