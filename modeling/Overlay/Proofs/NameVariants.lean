import Mathlib.Data.List.Forall2
import Overlay.Layer.Preset
import Overlay.Proofs.Spelling

/-!
# Names in other letters

Whoever sets a variable need not know in which letters its name is kept. This file
compares two initializations of one configuration whose variables have the same
values under names in other letters, and whose prefixes may have more or fewer
underscores at their ends.

A name is never used as it is. What follows the prefix is found by comparing
capitals, and its keys are taken in small letters, so both steps may be done on the
name in small letters as well (`afterPrefix?_smallLetters`, `keyPath_smallLetters`).
That underscores are no letters matters in both: they stay where they are, so the
prefix ends and the keys are divided at the same places. A prefix is kept in capitals
and without its last underscores, and what is kept is all that is compared.
-/

namespace Overlay.Layer

/-- The texts differ at most in the case of ASCII letters. -/
def SameLetters (s t : String) : Prop := smallLetters s = smallLetters t

instance (s t : String) : Decidable (SameLetters s t) :=
  inferInstanceAs (Decidable (smallLetters s = smallLetters t))

/-- A row of underscores. -/
def underscores (n : Nat) : String := String.ofList (List.replicate n '_')

/-- The texts differ at most in the case of ASCII letters and in the number of
underscores at their ends. -/
def SamePrefix (p q : String) : Prop :=
  ∃ stem other m n, SameLetters stem other ∧ p = stem ++ underscores m ∧
    q = other ++ underscores n

/-- The variables have the same values under the same names in other letters. -/
def SameVariables (vars others : Environment) : Prop :=
  List.Forall₂ (fun v w => SameLetters v.1 w.1 ∧ v.2 = w.2) vars others

/-- The options are the same but for the spelling of a prefix. -/
inductive SameOption : ConfigOption → ConfigOption → Prop
  | configFile (path : Files.Path) : SameOption (.configFile path) (.configFile path)
  | envPrefix {p q : String} (h : SamePrefix p q) : SameOption (.envPrefix p) (.envPrefix q)

/-! ## Names -/

theorem SameLetters.capitals_eq {s t : String} (h : SameLetters s t) :
    s.toList.map Char.toUpper = t.toList.map Char.toUpper := by
  have hupper : ∀ u : String,
      u.toList.map Char.toUpper = (smallLetters u).toList.map Char.toUpper := by
    intro u
    simp
  rw [hupper s, hupper t, h]

theorem splitNesting_map_toLower (part cs : List Char) :
    splitNesting (part.map Char.toLower) (cs.map Char.toLower) =
      (splitNesting part cs).map smallLetters := by
  have hpart : ∀ part : List Char,
      String.ofList (part.map Char.toLower).reverse =
        smallLetters (String.ofList part.reverse) := by
    intro part
    rw [smallLetters, String.toList_ofList, List.map_reverse]
  fun_induction splitNesting part cs with
  | case1 part => rw [List.map_nil, splitNesting, hpart]; rfl
  | case2 part rest ih =>
      rw [List.map_cons, List.map_cons, (toLower_keeps '_').mpr rfl, splitNesting, hpart,
        List.map_cons, ← ih, List.map_nil]
  | case3 part c rest hne ih =>
      have hpair : ¬ (c.toLower = '_' ∧ (rest.map Char.toLower).head? = some '_') := by
        rintro ⟨hc, hhead⟩
        cases rest with
        | nil => cases hhead
        | cons d rest =>
            have hd : d.toLower = '_' := Option.some.inj hhead
            exact hne rest ((toLower_keeps c).mp hc) (by rw [(toLower_keeps d).mp hd])
      rw [List.map_cons, splitNesting_cons hpair, ← ih, List.map_cons]

/-- The path of a name is the same in small letters. -/
theorem keyPath_smallLetters (name : String) : keyPath (smallLetters name) = keyPath name := by
  rw [keyPath, toList_smallLetters, ← List.map_nil (f := Char.toLower), splitNesting_map_toLower,
    List.map_map]
  exact List.map_congr_left fun s _ => smallLetters_smallLetters s

theorem afterPrefix?_smallLetters (envPrefix : Option String) (name : String) :
    afterPrefix? envPrefix (smallLetters name) =
      (afterPrefix? envPrefix name).map smallLetters := by
  cases envPrefix with
  | none => rfl
  | some expected =>
      have hupper : (name.toList.map Char.toLower).map Char.toUpper =
          name.toList.map Char.toUpper := by simp
      simp only [afterPrefix?, toList_smallLetters, List.map_take, hupper, ← List.map_drop]
      split
      · -- Behind the prefix stands an underscore in both or in neither.
        cases name.toList.drop expected.toList.length with
        | nil => rfl
        | cons c rest =>
            by_cases hc : c = '_'
            · subst hc
              simp [smallLetters]
            · have hlow : c.toLower ≠ '_' := mt (toLower_keeps c).mp hc
              simp [hc, hlow]
      · rfl

theorem binding?_smallLetters (envPrefix : Option String) (defaults : Tree)
    (name value : String) :
    binding? envPrefix defaults (smallLetters name, value) =
      binding? envPrefix defaults (name, value) := by
  rw [binding?, binding?, afterPrefix?_smallLetters]
  cases afterPrefix? envPrefix name with
  | none => rfl
  | some rest => simp only [Option.map_some, keyPath_smallLetters]

theorem SameVariables.bind_eq {vars others : Environment} (h : SameVariables vars others)
    (envPrefix : Option String) (defaults : Tree) :
    bind envPrefix defaults others = bind envPrefix defaults vars := by
  have hbound : others.filterMap (binding? envPrefix defaults) =
      vars.filterMap (binding? envPrefix defaults) := by
    induction h with
    | nil => rfl
    | @cons v w vars others hvar _ ih =>
        obtain ⟨name, value⟩ := v
        obtain ⟨other, value'⟩ := w
        obtain ⟨hname, rfl⟩ : smallLetters name = smallLetters other ∧ value = value' := hvar
        have hsame : binding? envPrefix defaults (other, value) =
            binding? envPrefix defaults (name, value) := by
          rw [← binding?_smallLetters, ← hname, binding?_smallLetters]
        rw [List.filterMap_cons, List.filterMap_cons, hsame, ih]
  rw [bind, bind, hbound]

/-! ## Prefixes -/

theorem dropWhile_map_toUpper (cs : List Char) :
    (cs.dropWhile (· == '_')).map Char.toUpper =
      (cs.map Char.toUpper).dropWhile (· == '_') := by
  rw [List.dropWhile_map]
  congr 2
  funext c
  rw [Bool.eq_iff_iff, Function.comp, beq_iff_eq, beq_iff_eq]
  exact (toUpper_keeps c).symm

/-- A prefix is kept the same in other letters and with other underscores at its end. -/
theorem SamePrefix.normalizePrefix_eq {p q : String} (h : SamePrefix p q) :
    normalizePrefix q = normalizePrefix p := by
  obtain ⟨stem, other, m, n, hletters, rfl, rfl⟩ := h
  have hnormal : ∀ (s : String) (k : Nat), (normalizePrefix (s ++ underscores k)).toList =
      ((s.toList.map Char.toUpper).reverse.dropWhile (· == '_')).reverse := by
    intro s k
    have hmark : ∀ c ∈ List.replicate k '_', (c == '_') = true := by
      intro c hc
      rw [List.eq_of_mem_replicate hc]
      rfl
    rw [normalizePrefix, toList_capitals, String.toList_ofList, String.toList_append, underscores,
      String.toList_ofList, List.reverse_append, List.reverse_replicate,
      List.dropWhile_append_of_pos hmark, List.map_reverse, dropWhile_map_toUpper,
      List.map_reverse]
  rw [← String.toList_inj, hnormal, hnormal, hletters.capitals_eq]

theorem SameOption.apply_eq {o o' : ConfigOption} (h : SameOption o o') (m : Marker) :
    m.apply o' = m.apply o := by
  cases h with
  | configFile path => rfl
  | envPrefix hprefix => rw [Marker.apply, Marker.apply, hprefix.normalizePrefix_eq]

theorem applyAll_eq {options others : List ConfigOption}
    (h : List.Forall₂ SameOption options others) (m : Marker) :
    m.applyAll others = m.applyAll options := by
  induction h generalizing m with
  | nil => rfl
  | cons hoption _ ih =>
      rw [Marker.applyAll, Marker.applyAll, List.foldl_cons, List.foldl_cons, hoption.apply_eq]
      exact ih _

/-! ## Initializations -/

namespace Configuration

/-- An initialization does the same when its variables and prefixes are spelled in
other letters, and the prefixes with other underscores at their ends: it reports the
same, fails alike or gives the same value, and records the same sources. -/
theorem init_in_other_letters (c : Configuration) (fs : Files.FileSystem)
    {vars others : Environment} (hvars : SameVariables vars others)
    {options otherOptions : List ConfigOption}
    (hoptions : List.Forall₂ SameOption options otherOptions) :
    c.init fs others otherOptions = c.init fs vars options := by
  rw [init, init, applyAll_eq hoptions]
  simp only [load, hvars.bind_eq]

theorem init_in_other_letters_service :
    SameVariables [("APP_REDIS_CONFIG__DB", "3"), ("app_http_SERVER_config__host", "h")]
      [("app_redis_config__db", "3"), ("App_Http_Server_Config__Host", "h")] ∧
    SamePrefix "APP" "app__" ∧
    ∀ fs, Service.configuration.init fs
        [("app_redis_config__db", "3"), ("App_Http_Server_Config__Host", "h")]
        [.envPrefix "app__"] =
      Service.configuration.init fs
        [("APP_REDIS_CONFIG__DB", "3"), ("app_http_SERVER_config__host", "h")]
        [.envPrefix "APP"] := by
  have hvars : SameVariables [("APP_REDIS_CONFIG__DB", "3"), ("app_http_SERVER_config__host", "h")]
      [("app_redis_config__db", "3"), ("App_Http_Server_Config__Host", "h")] :=
    .cons ⟨by decide, rfl⟩ (.cons ⟨by decide, rfl⟩ .nil)
  have hprefix : SamePrefix "APP" "app__" := ⟨"APP", "app", 0, 2, by decide, by decide, by decide⟩
  exact ⟨hvars, hprefix, fun fs =>
    init_in_other_letters _ fs hvars (.cons (.envPrefix hprefix) .nil)⟩

end Configuration

end Overlay.Layer
