import Overlay.Tree.Plain
import Overlay.Proofs.Paths

/-!
# Plain values

Taking the plain value of a tree puts its dictionaries in order and settles the
forms of its numbers. It does both at once, so doing it again changes nothing
(`plainValue_plainValue`). And as long as no key of a dictionary is there twice,
a path leads to the plain value of what it led to before (`at?_plainValue`).
-/

namespace Overlay.Tree

/-! ## Entries put in order -/

theorem find?_eq_none_of_not_mem {k : String} {es : Entries}
    (h : k ∉ es.map (·.1)) : find? k es = none := by
  cases hf : find? k es with
  | none => rfl
  | some t => exact absurd (List.mem_map.mpr ⟨_, mem_of_find? hf, rfl⟩) h

/-- The entries of a dictionary in the order of their keys. -/
def inOrder (es : Entries) : Entries :=
  es.foldl (fun sorted e => insert e.1 e.2 sorted) []

theorem ofEntries_eq (es : Entries) : ofEntries es = .dict (inOrder es) := rfl

theorem find?_inOrder {es : Entries} (h : (es.map (·.1)).Nodup) (k : String) :
    find? k (inOrder es) = find? k es := by
  -- What has been inserted so far is still there, unless a key comes again.
  have hfold : ∀ (es acc : Entries), (es.map (·.1)).Nodup →
      find? k (es.foldl (fun sorted e => insert e.1 e.2 sorted) acc) =
        (find? k es).or (find? k acc) := by
    intro es
    induction es with
    | nil => intro acc _; rfl
    | cons d rest ih =>
        intro acc hnodup
        obtain ⟨j, t⟩ := d
        rw [List.map_cons, List.nodup_cons] at hnodup
        rw [List.foldl_cons, ih _ hnodup.2]
        by_cases hk : j = k
        · subst hk
          rw [find?_eq_none_of_not_mem hnodup.1, find?_insert_self, find?,
            if_pos rfl]
          rfl
        · rw [find?_insert_of_ne (Ne.symm hk), find?, if_neg hk]
  rw [inOrder, hfold es [] h, find?, Option.or_none]

theorem mem_inOrder {es : Entries} {e : String × Tree} (h : e ∈ inOrder es) :
    e ∈ es := by
  have hfold : ∀ (es acc : Entries),
      e ∈ es.foldl (fun sorted e => insert e.1 e.2 sorted) acc →
        e ∈ es ∨ e ∈ acc := by
    intro es
    induction es with
    | nil => intro acc h; exact Or.inr h
    | cons d rest ih =>
        intro acc h
        rcases ih _ h with hrest | hacc
        · exact Or.inl (List.mem_cons_of_mem d hrest)
        · rcases mem_insert hacc with rfl | hacc
          · exact Or.inl List.mem_cons_self
          · exact Or.inr hacc
  exact (hfold es [] h).resolve_right List.not_mem_nil

theorem inOrder_of_ordered {es : Entries} (h : OrderedEntries es) :
    inOrder es = es := by
  have hvalues : ∀ e ∈ es, Ordered e.2 := by
    intro e he
    exact ordered_of_find? h (find?_of_mem (nodup_of_ordered h) he)
  have hordered : OrderedEntries (inOrder es) := ordered_ofEntries hvalues
  exact entries_eq_of_find? hordered h (find?_inOrder (nodup_of_ordered h))

/-! ## Plain values are ordered, and their own plain values -/

mutual

theorem plainValue_ordered (t : Tree) : t.plainValue.Ordered := by
  match t with
  | .dict es =>
      rw [plainValue]
      exact ordered_ofEntries (plainEntries_ordered es)
  | .null | .bool _ | .text _ | .list _ => trivial
  | .number n =>
      refine ordered_of_leaf ?_
      cases n with
      | unsigned n => rfl
      | signed i => rw [plainValue]; split <;> rfl
      | float d => rw [plainValue]; split <;> rfl

theorem plainEntries_ordered (es : Entries) :
    ∀ e ∈ plainEntries es, e.2.Ordered := by
  match es with
  | [] => exact fun _ h => absurd h List.not_mem_nil
  | (k, t) :: rest =>
      rw [plainEntries]
      exact List.forall_mem_cons.mpr
        ⟨plainValue_ordered t, plainEntries_ordered rest⟩

end

theorem plainEntries_eq_self {es : Entries} (h : ∀ e ∈ es, e.2.plainValue = e.2) :
    plainEntries es = es := by
  induction es with
  | nil => rfl
  | cons d rest ih =>
      obtain ⟨hd, hrest⟩ := List.forall_mem_cons.mp h
      rw [plainEntries, hd, ih hrest]

mutual

theorem plainValue_plainValue (t : Tree) :
    t.plainValue.plainValue = t.plainValue := by
  match t with
  | .null | .bool _ | .text _ | .number (.unsigned _) => rfl
  | .number (.signed i) =>
      rw [plainValue]
      split
      · rfl
      · next hneg => rw [plainValue, if_neg hneg]
  | .number (.float d) =>
      rw [plainValue]
      split
      · next hfinite => rw [plainValue, if_pos hfinite]
      · rfl
  | .list ts => rw [plainValue, plainValue, plainValues_plainValues ts]
  | .dict es =>
      have hordered : OrderedEntries (inOrder (plainEntries es)) :=
        ordered_ofEntries (plainEntries_ordered es)
      have hfixed : plainEntries (inOrder (plainEntries es)) =
          inOrder (plainEntries es) :=
        plainEntries_eq_self fun e he => plainEntries_fixed es e (mem_inOrder he)
      rw [plainValue, ofEntries_eq, plainValue, hfixed, ofEntries_eq,
        inOrder_of_ordered hordered]

theorem plainValues_plainValues (ts : List Tree) :
    plainValues (plainValues ts) = plainValues ts := by
  match ts with
  | [] => rfl
  | t :: rest =>
      rw [plainValues, plainValues, plainValue_plainValue t,
        plainValues_plainValues rest]

theorem plainEntries_fixed (es : Entries) :
    ∀ e ∈ plainEntries es, e.2.plainValue = e.2 := by
  match es with
  | [] => exact fun _ h => absurd h List.not_mem_nil
  | (k, t) :: rest =>
      rw [plainEntries]
      exact List.forall_mem_cons.mpr
        ⟨plainValue_plainValue t, plainEntries_fixed rest⟩

end

/-! ## Paths through plain values -/

mutual

/-- No key of a dictionary on a path is there twice. -/
def Distinct : Tree → Prop
  | .dict es => (es.map (·.1)).Nodup ∧ DistinctEntries es
  | _ => True

def DistinctEntries : Entries → Prop
  | [] => True
  | (_, t) :: rest => Distinct t ∧ DistinctEntries rest

end

theorem distinct_of_find? {k : String} {t : Tree} {es : Entries}
    (hes : DistinctEntries es) (h : find? k es = some t) : Distinct t := by
  induction es with
  | nil => cases h
  | cons d rest ih =>
      obtain ⟨j, u⟩ := d
      rw [find?] at h
      split at h
      · cases h
        exact hes.1
      · exact ih hes.2 h

theorem find?_plainEntries (k : String) (es : Entries) :
    find? k (plainEntries es) = (find? k es).map plainValue := by
  induction es with
  | nil => rfl
  | cons d rest ih =>
      obtain ⟨j, t⟩ := d
      rw [plainEntries, find?, find?]
      split
      · rfl
      · exact ih

theorem keys_plainEntries (es : Entries) :
    (plainEntries es).map (·.1) = es.map (·.1) := by
  induction es with
  | nil => rfl
  | cons d rest ih => rw [plainEntries, List.map_cons, List.map_cons, ih]

theorem isDict_plainValue (t : Tree) : t.plainValue.isDict = t.isDict := by
  cases t with
  | null | bool _ | text _ | list _ | dict _ => rfl
  | number n =>
      cases n with
      | unsigned n => rfl
      | signed i => rw [plainValue]; split <;> rfl
      | float d => rw [plainValue]; split <;> rfl

theorem at?_plainValue {t : Tree} (h : Distinct t) (path : List String) :
    t.plainValue.at? path = (t.at? path).map plainValue := by
  induction path generalizing t with
  | nil => rw [at?_nil, at?_nil, Option.map_some]
  | cons k path ih =>
      cases hd : t.isDict with
      | false =>
          rw [at?_leaf_cons hd, at?_leaf_cons ((isDict_plainValue t).trans hd)]
          rfl
      | true =>
          cases t with
          | dict es =>
              have hnodup : ((plainEntries es).map (·.1)).Nodup := by
                rw [keys_plainEntries]
                exact h.1
              rw [plainValue, ofEntries_eq, at?_dict_cons, at?_dict_cons,
                find?_inOrder hnodup, find?_plainEntries]
              cases hk : find? k es with
              | none => rfl
              | some u => exact ih (distinct_of_find? h.2 hk)
          | null | bool _ | number _ | text _ | list _ => cases hd

end Overlay.Tree
