import Overlay.Proofs.PlainValues
import Overlay.Proofs.Settings

/-!
# Values that are read back

A value that a schema has read is a tree again, and its plain form can be laid under
or over other layers and be read once more. This file says when that gives the value
back.

For a leaf it always does (`read_plainValue`). A record is read from a dictionary
field by field, and from what each field gives the whole reading can be put together
(`read_record_of_fieldRead`): it does not matter what else is in the dictionary, and
there is no complaint if no field has one.
-/

namespace Overlay.Layer.Schema

open Overlay.Tree

/-! ## Leaves -/

theorem readItems_map_text (n : Nat) (ss : List String) :
    readItems (read .text) n (ss.map .text) = .ok (ss.map .text) := by
  induction ss generalizing n with
  | nil => rfl
  | cons s ss ih =>
      rw [List.map_cons, readItems, read, ih]
      rfl

theorem plainValue_text (s : String) : plainValue (.text s) = .text s := rfl

theorem plainValues_map_text (ss : List String) :
    plainValues (ss.map .text) = ss.map .text := by
  induction ss with
  | nil => rfl
  | cons s ss ih => rw [List.map_cons, plainValues, ih, plainValue_text]

theorem boundedInt_eq_ok {i lowest limit : Int} (hlow : lowest ≤ i) (hhigh : i < limit)
    (found : Tree) (expected : String) (result : Number) :
    boundedInt i lowest limit found expected result = .ok (.number result) := by
  rw [boundedInt, if_pos]
  simp [hlow, hhigh]

/-- The plain form of a leaf that was read gives the leaf again. -/
theorem read_plainValue {schema : Schema} (hleaf : schema.isLeaf = true) {t v : Tree}
    (h : read schema t = .ok v) : read schema v.plainValue = .ok v := by
  match schema with
  | .text =>
      obtain ⟨s, -, rfl⟩ := read_text h
      rw [plainValue_text, read]
  | .list .text =>
      obtain ⟨rfl, ss, rfl⟩ := read_texts h
      rw [plainValue, plainValues_map_text, read, readItems_map_text]
      rfl
  | .signed bits =>
      obtain ⟨i, rfl, -, hlow, hhigh⟩ := read_signed h
      rw [plainValue]
      split
      · next hnonneg =>
        -- A number that is not negative has become an unsigned one.
        have hi : ((i.toNat : Nat) : Int) = i := Int.toNat_of_nonneg hnonneg
        rw [read, readSigned]
        simp only [hi]
        exact boundedInt_eq_ok hlow hhigh _ _ _
      · rw [read, readSigned]
        exact boundedInt_eq_ok hlow hhigh _ _ _

/-! ## Records -/

theorem firstComplaint_eq_none {results : List (String × Option (Reading Tree))}
    (h : ∀ r ∈ results, ∀ c, r.2 ≠ some (.error c)) (es : Entries) :
    firstComplaint results es = none := by
  induction es with
  | nil => rfl
  | cons e es ih =>
      obtain ⟨k, t⟩ := e
      rw [firstComplaint]
      split
      · next name c hfound =>
        exact absurd rfl (h _ (List.mem_of_find?_eq_some hfound) c)
      · exact ih

/-- The result of a field that was read is no complaint. -/
theorem FieldRead.result {es : Entries} {field : String × Schema × Option Tree}
    {entry : String × Tree} (h : FieldRead es field entry) :
    (find? field.1 es).map (read field.2.1) = some (.ok entry.2) ∨
      (find? field.1 es).map (read field.2.1) = none ∧
        omitted field.2.1 field.2.2 = some entry.2 := by
  obtain ⟨-, hvalue⟩ := h
  cases hfound : find? field.1 es with
  | none =>
      simp only [hfound] at hvalue
      exact Or.inr ⟨rfl, hvalue⟩
  | some t =>
      simp only [hfound] at hvalue
      exact Or.inl (by rw [Option.map_some, hvalue])

theorem collect_of_fieldRead {fields : Fields} {es out : Entries}
    (h : List.Forall₂ (FieldRead es) fields out) :
    collect (readFields fields es) = .ok out := by
  induction h with
  | nil => rw [readFields, collect]
  | @cons field entry rest others hfield _ ih =>
      obtain ⟨k, schema, default⟩ := field
      obtain ⟨j, v⟩ := entry
      obtain rfl : j = k := hfield.1
      rw [readFields_cons]
      rcases hfield.result with hok | ⟨hmissing, homitted⟩
      · rw [hok, collect, ih]
        rfl
      · rw [hmissing, homitted, collect, ih]
        rfl

theorem no_complaint_of_fieldRead {fields : Fields} {es out : Entries}
    (h : List.Forall₂ (FieldRead es) fields out) :
    ∀ r ∈ (readFields fields es).map fun r => (r.1, r.2.1), ∀ c, r.2 ≠ some (.error c) := by
  induction h with
  | nil => simp [readFields]
  | @cons field entry rest others hfield _ ih =>
      obtain ⟨k, schema, default⟩ := field
      rw [readFields_cons, List.map_cons]
      refine List.forall_mem_cons.mpr ⟨fun c => ?_, ih⟩
      rcases hfield.result with hok | ⟨hmissing, -⟩
      · simp [hok]
      · simp [hmissing]

/-- A record is read from a dictionary once all its fields are. -/
theorem read_record_of_fieldRead {name : String} {fields : Fields} {es out : Entries}
    (h : List.Forall₂ (FieldRead es) fields out) :
    read (.record name fields) (.dict es) = .ok (.dict out) := by
  rw [read]
  simp only [firstComplaint_eq_none (no_complaint_of_fieldRead h), collect_of_fieldRead h]
  rfl

end Overlay.Layer.Schema
