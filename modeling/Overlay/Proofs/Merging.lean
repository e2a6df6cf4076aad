import Overlay.Proofs.Paths

/-!
# What a merged layer holds

Merging takes the entries of the later layer one after the other, and each of
them changes what the next one finds. Looked at by keys, nothing of that is
left: under a key there is what the two layers hold there, the later over the
earlier (`find?_mergeEntries`). The keys of the later layer have to be in order,
since a key that came twice would be merged twice.

Dictionaries are only merged with dictionaries, so a leaf that is found after
merging is the leaf of the last layer that has anything there. That is
`eq_of_overlaid`, and it is all that is needed to say which layer wins.
-/

namespace Overlay.Tree

/-- What two layers hold together at one place. -/
def overlaid : (earlier later : Option Tree) → Option Tree
  | earlier, none => earlier
  | none, some v => some v
  | some u, some v => some (merge u v)

@[simp] theorem overlaid_none (earlier : Option Tree) :
    overlaid earlier none = earlier := by
  cases earlier <;> rfl

@[simp] theorem none_overlaid (later : Option Tree) :
    overlaid none later = later := by
  cases later <;> rfl

theorem find?_mergeEntries {new : Entries} (hnew : OrderedEntries new)
    (old : Entries) (k : String) :
    find? k (mergeEntries old new) = overlaid (find? k old) (find? k new) := by
  induction new generalizing old with
  | nil => rw [mergeEntries, find?, overlaid_none]
  | cons d rest ih =>
      obtain ⟨j, v⟩ := d
      rw [mergeEntries, ih hnew.2.2]
      by_cases hk : j = k
      · subst hk
        rw [find?_eq_none_of_lt hnew.1, find?_insert_self, find?, if_pos rfl,
          overlaid_none]
        cases find? j old <;> rfl
      · rw [find?_insert_of_ne (Ne.symm hk), find?, if_neg hk]

/-- A leaf takes the place of whatever was there. -/
theorem merge_leaf (u : Tree) {v : Tree} (hv : v.isDict = false) :
    merge u v = v := by
  cases v with
  | dict new => cases hv
  | null | bool _ | number _ | text _ | list _ => cases u <;> simp [merge]

theorem merge_of_leaf {u v : Tree} (h : (merge u v).isDict = false) :
    merge u v = v := by
  cases u with
  | dict old =>
      cases v with
      | dict new => rw [merge] at h; cases h
      | null | bool _ | number _ | text _ | list _ => exact merge_leaf _ rfl
  | null | bool _ | number _ | text _ | list _ => simp [merge]

theorem overlaid_leaf (earlier : Option Tree) {v : Tree} (hv : v.isDict = false) :
    overlaid earlier (some v) = some v := by
  cases earlier with
  | none => rfl
  | some u => rw [overlaid, merge_leaf u hv]

/-- A leaf comes from the later layer, if that one has anything there. -/
theorem eq_of_overlaid {earlier later : Option Tree} {t : Tree}
    (h : overlaid earlier later = some t) (ht : t.isDict = false) :
    later.or earlier = some t := by
  cases later with
  | none => simpa using h
  | some v =>
      cases earlier with
      | none => simpa using h
      | some u =>
          obtain rfl : merge u v = t := Option.some.inj h
          rw [merge_of_leaf ht]
          rfl

theorem eq_of_overlaid_overlaid {first second third : Option Tree} {t : Tree}
    (h : overlaid (overlaid first second) third = some t) (ht : t.isDict = false) :
    third.or (second.or first) = some t := by
  cases third with
  | none =>
      rw [overlaid_none] at h
      rw [Option.none_or]
      exact eq_of_overlaid h ht
  | some v =>
      have hv := eq_of_overlaid h ht
      rw [Option.some_or] at hv ⊢
      exact hv

theorem overlaid_isSome {earlier : Option Tree} (h : earlier.isSome = true)
    (later : Option Tree) : (overlaid earlier later).isSome = true := by
  cases later with
  | none => simpa using h
  | some v => cases earlier <;> rfl

/-! ## Two levels -/

/-- There is nothing or a dictionary under a key. -/
def Sectioned (es : Entries) (k : String) : Prop :=
  (find? k es).all isDict = true

instance (es : Entries) (k : String) : Decidable (Sectioned es k) :=
  inferInstanceAs (Decidable (_ = true))

theorem not_sectioned {es : Entries} {k : String} (h : ¬ Sectioned es k) :
    ∃ t, find? k es = some t ∧ t.isDict = false := by
  rw [Sectioned] at h
  cases hk : find? k es with
  | none => simp [hk] at h
  | some t => exact ⟨t, rfl, by simpa [hk] using h⟩

theorem sectioned_iff {es : Entries} {k : String} :
    Sectioned es k ↔
      find? k es = none ∨ ∃ inner, find? k es = some (.dict inner) := by
  rw [Sectioned]
  cases find? k es with
  | none => simp
  | some t => cases t <;> simp [isDict]

theorem overlaid_all_isDict {u v : Option Tree} (hu : u.all isDict = true)
    (hv : v.all isDict = true) : (overlaid u v).all isDict = true := by
  cases u with
  | none => simpa using hv
  | some u =>
      cases v with
      | none => simpa using hu
      | some v =>
          cases u with
          | dict old =>
              cases v with
              | dict new => rw [overlaid, merge]; rfl
              | null | bool _ | number _ | text _ | list _ => cases hv
          | null | bool _ | number _ | text _ | list _ => cases hu

theorem sectioned_mergeEntries {old new : Entries} {k : String}
    (hordered : OrderedEntries new) (hold : Sectioned old k)
    (hnew : Sectioned new k) : Sectioned (mergeEntries old new) k := by
  rw [Sectioned, find?_mergeEntries hordered]
  exact overlaid_all_isDict hold hnew

theorem at?_mergeEntries {old new : Entries} {s : String}
    (hordered : OrderedEntries new) (hold : Sectioned old s)
    (hnew : Sectioned new s) (f : String) :
    at? (.dict (mergeEntries old new)) [s, f] =
      overlaid (at? (.dict old) [s, f]) (at? (.dict new) [s, f]) := by
  rw [at?_dict_cons, at?_dict_cons, at?_dict_cons, find?_mergeEntries hordered]
  rcases sectioned_iff.mp hold with hs | ⟨o, ho⟩
  · rw [hs, none_overlaid, Option.bind_none, none_overlaid]
  · rcases sectioned_iff.mp hnew with hs | ⟨n, hn⟩
    · rw [hs, overlaid_none, Option.bind_none, overlaid_none]
    · have hordered' : OrderedEntries n := ordered_of_find? hordered hn
      rw [ho, hn, overlaid, merge]
      simp only [Option.bind_some, at?_dict_cons, at?_nil, Option.bind_fun_some]
      exact find?_mergeEntries hordered' o f

end Overlay.Tree
