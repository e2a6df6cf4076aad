import Overlay.Proofs.WrittenFile

/-!
# Trees as a file system has them

A directory of a file system holds one entry for each name, and only names that
an entry can have. A tree in which every directory is like that is `Tidy`. In it
the entries of a directory are what is found under their names, and in the order
of names they stand in strictly ascending order.
-/

namespace Overlay.Files

namespace FileSystem

theorem isName_iff {name : String} : IsName name ↔ '/' ∉ name.toList ∧
    Path.isIdle name = false ∧ name ≠ ".." ∧ name.utf8ByteSize ≤ nameLimit :=
  ⟨fun h => ⟨h.noSlash, h.notIdle, h.notUp, h.short⟩, fun h => ⟨h.1, h.2.1, h.2.2.1, h.2.2.2⟩⟩

instance (name : String) : Decidable (IsName name) := decidable_of_iff' _ isName_iff

end FileSystem

/-- A list of entries with one entry for each name, and with proper names. -/
structure Listed (es : List (String × Entry)) : Prop where
  distinct : (es.map Prod.fst).Nodup
  named : ∀ x ∈ es, FileSystem.IsName x.1

theorem listed_iff {es : List (String × Entry)} :
    Listed es ↔ (es.map Prod.fst).Nodup ∧ ∀ x ∈ es, FileSystem.IsName x.1 :=
  ⟨fun h => ⟨h.distinct, h.named⟩, fun h => ⟨h.1, h.2⟩⟩

instance (es : List (String × Entry)) : Decidable (Listed es) := decidable_of_iff' _ listed_iff

namespace Entry

/-- All directories of the tree are properly listed. -/
def Tidy (t : Entry) : Prop :=
  ∀ place es, t.get? place = some (.directory es) → Listed es

section Tidy

variable {es : List (String × Entry)} {t e : Entry} {name : String} {p q : Place}

theorem find?_of_mem (hes : (es.map Prod.fst).Nodup) (h : (name, e) ∈ es) :
    find? name es = some e := by
  induction es with
  | nil => cases h
  | cons x rest ih =>
      obtain ⟨n, old⟩ := x
      obtain ⟨hnew, hrest⟩ := List.nodup_cons.mp hes
      rw [find?]
      rcases List.mem_cons.mp h with heq | hmem
      · obtain ⟨rfl, rfl⟩ := Prod.mk.inj heq
        exact if_pos rfl
      · rw [if_neg, ih hrest hmem]
        rintro rfl
        exact hnew (List.mem_map.mpr ⟨_, hmem, rfl⟩)

theorem find?_eq_some_iff (hes : (es.map Prod.fst).Nodup) :
    find? name es = some e ↔ (name, e) ∈ es :=
  ⟨mem_of_find?, find?_of_mem hes⟩

theorem Tidy.listed (h : (Entry.directory es).Tidy) : Listed es := h [] es rfl

theorem Tidy.below (h : t.Tidy) (he : t.get? p = some e) : e.Tidy := by
  intro place es hes
  refine h (p ++ place) es ?_
  rw [get?_append, he]
  exact hes

theorem Tidy.child (h : (Entry.directory es).Tidy) (he : (name, e) ∈ es) : e.Tidy := by
  refine h.below (p := [name]) ?_
  rw [get?, find?_of_mem h.listed.distinct he]
  rfl

theorem tidy_of_no_children (h : t.children = []) : t.Tidy := by
  intro place es hes
  cases place with
  | nil =>
      obtain rfl := Option.some.inj hes
      obtain rfl : es = [] := h
      exact ⟨List.nodup_nil, by simp⟩
  | cons n place =>
      cases t with
      | file c => cases hes
      | link target => cases hes
      | directory ds =>
          obtain rfl : ds = [] := h
          cases hes

theorem tidy_directory (hes : Listed es) (h : ∀ x ∈ es, x.2.Tidy) : (Entry.directory es).Tidy := by
  intro place ds hds
  cases place with
  | nil =>
      obtain rfl : es = ds := Entry.directory.inj (Option.some.inj hds)
      exact hes
  | cons n place =>
      obtain ⟨child, hchild, hget⟩ := Option.bind_eq_some_iff.mp hds
      exact h _ (mem_of_find? hchild) place ds hget

/-- All names on the way to something are proper ones. -/
theorem Tidy.isName (h : t.Tidy) (he : t.get? p = some e) {n : String} (hn : n ∈ p) :
    FileSystem.IsName n := by
  induction p generalizing t with
  | nil => cases hn
  | cons m p ih =>
      cases t with
      | file c => cases he
      | link target => cases he
      | directory es =>
          obtain ⟨child, hchild, hget⟩ := Option.bind_eq_some_iff.mp he
          have hmem := mem_of_find? hchild
          rcases List.mem_cons.mp hn with rfl | hn
          · exact h.listed.named _ hmem
          · exact ih (h.child hmem) hget hn

end Tidy

mutual

/-- Looks through a whole tree. -/
def isTidy : Entry → Bool
  | .directory es => decide (Listed es) && areTidy es
  | _ => true

def areTidy : List (String × Entry) → Bool
  | [] => true
  | (_, e) :: rest => isTidy e && areTidy rest

end

mutual

theorem tidy_of_isTidy : (t : Entry) → t.isTidy = true → t.Tidy
  | .file _, _ => tidy_of_no_children rfl
  | .link _, _ => tidy_of_no_children rfl
  | .directory es, h => by
      rw [isTidy, Bool.and_eq_true, decide_eq_true_eq] at h
      exact tidy_directory h.1 (tidy_of_areTidy es h.2)

theorem tidy_of_areTidy : (es : List (String × Entry)) → areTidy es = true →
    ∀ x ∈ es, x.2.Tidy
  | [], _, _, hx => nomatch hx
  | (_, e) :: rest, h, x, hx => by
      rw [areTidy, Bool.and_eq_true] at h
      rcases List.mem_cons.mp hx with rfl | hx
      · exact tidy_of_isTidy e h.1
      · exact tidy_of_areTidy rest h.2 x hx

end

end Entry

namespace FileSystem

section Order

variable {α β : Type} {l : List (String × α)}

theorem pairwise_insertByName {x : String × α} (hl : l.Pairwise fun y z => y.1 < z.1)
    (hx : ∀ y ∈ l, y.1 ≠ x.1) : (insertByName x l).Pairwise fun y z => y.1 < z.1 := by
  induction l with
  | nil => exact List.pairwise_singleton _ x
  | cons y l ih =>
      obtain ⟨hy, hrest⟩ := List.pairwise_cons.mp hl
      rw [insertByName]
      split
      · next hlt =>
        refine List.pairwise_cons.mpr ⟨?_, ih hrest fun z hz => hx z (List.mem_cons_of_mem y hz)⟩
        intro z hz
        rcases mem_insertByName.mp hz with rfl | hz
        · exact hlt
        · exact hy z hz
      · next hge =>
        have hxy : x.1 < y.1 :=
          lt_of_le_of_ne (not_lt.mp hge) (hx y (List.mem_cons_self ..)).symm
        refine List.pairwise_cons.mpr ⟨?_, hl⟩
        intro z hz
        rcases List.mem_cons.mp hz with rfl | hz
        · exact hxy
        · exact hxy.trans (hy z hz)

/-- With distinct names the order is strict. -/
theorem pairwise_sortByName (hl : (l.map Prod.fst).Nodup) :
    (sortByName l).Pairwise fun y z => y.1 < z.1 := by
  induction l with
  | nil => exact List.Pairwise.nil
  | cons x l ih =>
      obtain ⟨hnew, hrest⟩ := List.nodup_cons.mp hl
      refine pairwise_insertByName (ih hrest) ?_
      intro y hy heq
      exact hnew (List.mem_map.mpr ⟨y, mem_sortByName.mp hy, heq⟩)

/-- Only the names count for the order. -/
theorem sortByName_map (f : String × α → β) (l : List (String × α)) :
    sortByName (l.map fun x => (x.1, f x)) = (sortByName l).map fun x => (x.1, f x) := by
  have hlists : List.Forall₂ (fun (y : String × β) x => y = (x.1, f x))
      (sortByName (l.map fun x => (x.1, f x))) (sortByName l) := by
    refine forall₂_sortByName (fun y x h => by rw [h]) ?_
    rw [List.forall₂_map_left_iff]
    exact List.forall₂_same.mpr fun x _ => rfl
  rw [← List.forall₂_eq_eq_eq, List.forall₂_map_right_iff]
  exact hlists

end Order

end FileSystem

end Overlay.Files
