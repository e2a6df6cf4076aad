import Mathlib.Data.List.Forall2
import Overlay.Generate.Import

/-!
# Imports without groups

A group in an import stands for its members one after another, each of them behind
what is written before the group. Putting the members there, group by group, turns
one import into several that have no group (`expansion`), and there is one of these for
every leaf of the import, made of the names on the way to it (`expansion_eq_map_tree`).

Flattening comes to the same as flattening these imports from left to right, reports
included. That is shown below any path (`flattenBelow_expansion`), since a group is
met below one. An import without groups has one leaf only, and gives an entry if that
leaf binds a name (`flatten_tree_of_binding`) and none otherwise.
-/

namespace Overlay.Source.UseTree

/-! ## Taking groups apart -/

mutual

/-- The imports without groups that an import stands for. -/
def expansion : UseTree → List UseTree
  | .path x rest => (expansion rest).map (.path x)
  | .group trees => expansionAll trees
  | .name x => [.name x]
  | .rename x bound => [.rename x bound]
  | .glob => [.glob]

/-- The imports without groups that several imports stand for. -/
def expansionAll : List UseTree → List UseTree
  | [] => []
  | t :: rest => expansion t ++ expansionAll rest

end

/-- Whether there is no group in an import. -/
def isGroupFree : UseTree → Bool
  | .path _ rest => isGroupFree rest
  | .group _ => false
  | _ => true

-- `a::{b, c::{d, self as e}}` stands for `a::b`, `a::c::d` and `a::c::self as e`.
example :
    expansion (.path "a" (.group [.name "b", .path "c" (.group [.name "d", .rename "self" "e"])])) =
      [.path "a" (.name "b"), .path "a" (.path "c" (.name "d")),
        .path "a" (.path "c" (.rename "self" "e"))] := rfl

/-! ## Leaves -/

/-- How an import ends. -/
inductive Ending where
  | name (x : String)
  | rename (x bound : String)
  | glob

/-- A leaf of an import: the names on the way to it, and what is there. -/
structure Leaf where
  way : List String
  ending : Ending

namespace Leaf

/-- The leaf with one more name before it. -/
def below (x : String) (l : Leaf) : Leaf := ⟨x :: l.way, l.ending⟩

/-- The names from the root to the leaf. -/
def names (l : Leaf) : List String :=
  match l.ending with
  | .name x => l.way ++ [x]
  | .rename x _ => l.way ++ [x]
  | .glob => l.way

/-- The names from the root to the leaf; a `self` at their end is dropped. -/
def segments (l : Leaf) : List String :=
  if l.names.getLast? = some "self" then l.names.dropLast else l.names

/-- The other name that the leaf gives. -/
def rename? (l : Leaf) : Option String :=
  match l.ending with
  | .rename _ bound => some bound
  | _ => none

/-- Whether the leaf binds a name: a glob binds none, and neither does `as _` or a
`self` that nothing stands before. -/
def isBinding (l : Leaf) : Bool :=
  match l.ending with
  | .name x => !(x == "self" && l.way.isEmpty)
  | .rename _ bound => bound != "_"
  | .glob => false

/-- The import of nothing but the leaf. -/
def tree (l : Leaf) : UseTree :=
  l.way.foldr .path
    (match l.ending with
      | .name x => .name x
      | .rename x bound => .rename x bound
      | .glob => .glob)

theorem tree_below (x : String) (l : Leaf) : (l.below x).tree = .path x l.tree := rfl

theorem isGroupFree_tree (l : Leaf) : l.tree.isGroupFree = true := by
  obtain ⟨way, ending⟩ := l
  induction way with
  | nil => cases ending <;> rfl
  | cons x way ih => exact ih

end Leaf

mutual

/-- The leaves of an import from left to right. -/
def leaves : UseTree → List Leaf
  | .path x rest => (leaves rest).map (Leaf.below x)
  | .group trees => leavesAll trees
  | .name x => [⟨[], .name x⟩]
  | .rename x bound => [⟨[], .rename x bound⟩]
  | .glob => [⟨[], .glob⟩]

/-- The leaves of several imports from left to right. -/
def leavesAll : List UseTree → List Leaf
  | [] => []
  | t :: rest => leaves t ++ leavesAll rest

end

mutual

/-- An import stands for its leaves. -/
theorem expansion_eq_map_tree : ∀ t : UseTree, t.expansion = t.leaves.map Leaf.tree
  | .path x rest => by
      rw [expansion, leaves, expansion_eq_map_tree rest, List.map_map, List.map_map]
      exact List.map_congr_left fun l _ => (Leaf.tree_below x l).symm
  | .group trees => by rw [expansion, leaves, expansionAll_eq_map_tree trees]
  | .name _ | .rename .. | .glob => rfl

theorem expansionAll_eq_map_tree :
    ∀ trees : List UseTree, expansionAll trees = (leavesAll trees).map Leaf.tree
  | [] => rfl
  | t :: rest => by
      rw [expansionAll, leavesAll, expansion_eq_map_tree t, expansionAll_eq_map_tree rest,
        List.map_append]

end

theorem isGroupFree_of_mem_expansion {t u : UseTree} (h : u ∈ t.expansion) :
    u.isGroupFree = true := by
  rw [expansion_eq_map_tree, List.mem_map] at h
  obtain ⟨l, -, rfl⟩ := h
  exact l.isGroupFree_tree

end Overlay.Source.UseTree

namespace Overlay.Generate.FlatImport

open Source Source.UseTree

/-! ## Flattening without groups -/

/-- What several trees give below a path, from left to right. -/
def flattenEach (base : List String) (trees : List UseTree) : List FlatImport × List Event :=
  (trees.flatMap fun t => (flattenBelow base t).1, trees.flatMap fun t => (flattenBelow base t).2)

theorem flattenEach_append (base : List String) (trees more : List UseTree) :
    flattenEach base (trees ++ more) =
      ((flattenEach base trees).1 ++ (flattenEach base more).1,
        (flattenEach base trees).2 ++ (flattenEach base more).2) := by
  simp only [flattenEach, List.flatMap_append]

theorem flattenEach_map_path (base : List String) (x : String) (trees : List UseTree) :
    flattenEach base (trees.map (.path x)) = flattenEach (base ++ [x]) trees := by
  simp only [flattenEach, List.flatMap_map, flattenBelow]

theorem flattenEach_singleton (base : List String) (t : UseTree) :
    flattenEach base [t] = flattenBelow base t := by
  simp only [flattenEach, List.flatMap_singleton]

mutual

theorem flattenBelow_expansion (base : List String) :
    ∀ t : UseTree, flattenBelow base t = flattenEach base t.expansion
  | .path x rest => by
      rw [flattenBelow, expansion, flattenEach_map_path, flattenBelow_expansion _ rest]
  | .group trees => by rw [flattenBelow, expansion, flattenAllBelow_expansionAll base trees]
  | .name _ | .rename .. | .glob => by rw [expansion, flattenEach_singleton]

theorem flattenAllBelow_expansionAll (base : List String) :
    ∀ trees : List UseTree, flattenAllBelow base trees = flattenEach base (expansionAll trees)
  | [] => rfl
  | t :: rest => by
      rw [flattenAllBelow, expansionAll, flattenEach_append, flattenBelow_expansion base t,
        flattenAllBelow_expansionAll base rest]

end

/-! ## The entry of a leaf -/

/-- The entry of a leaf: the names on the way to it, bound to the name that it is
given, or else to the last of them. -/
structure Enters (l : Leaf) (i : FlatImport) : Prop where
  segments : i.segments = l.segments
  bound : l.rename? = some i.bound ∨ l.rename? = none ∧ l.segments.getLast? = some i.bound

/-- What stands before a tree is the path that it is flattened below. -/
theorem flattenBelow_foldr (base way : List String) (t : UseTree) :
    flattenBelow base (way.foldr .path t) = flattenBelow (base ++ way) t := by
  induction way generalizing base with
  | nil => rw [List.foldr_nil, List.append_nil]
  | cons x way ih =>
      rw [List.foldr_cons, flattenBelow, ih, List.append_assoc, List.singleton_append]

theorem flatten_tree_of_binding {l : Leaf} (h : l.isBinding = true) :
    ∃ i, (flatten l.tree).1 = [i] ∧ Enters l i := by
  obtain ⟨way, ending⟩ := l
  rw [flatten, Leaf.tree, flattenBelow_foldr, List.nil_append]
  cases ending with
  | name x =>
      by_cases hx : x = "self"
      · subst hx
        have hway : way ≠ [] := by simpa [Leaf.isBinding] using h
        have hsegments : Leaf.segments ⟨way, .name "self"⟩ = way := by
          simp [Leaf.segments, Leaf.names]
        refine ⟨⟨way, way.getLast hway⟩, ?_, hsegments.symm, .inr ⟨rfl, ?_⟩⟩
        · simp only [flattenBelow, List.getLast?_eq_some_getLast hway, beq_self_eq_true, if_true]
        · rw [hsegments, List.getLast?_eq_some_getLast hway]
      · have hsegments : Leaf.segments ⟨way, .name x⟩ = way ++ [x] := by
          simp [Leaf.segments, Leaf.names, hx]
        refine ⟨⟨way ++ [x], x⟩, ?_, hsegments.symm, .inr ⟨rfl, ?_⟩⟩
        · simp only [flattenBelow, beq_eq_false_iff_ne.mpr hx, Bool.false_eq_true, if_false]
        · rw [hsegments, List.getLast?_concat]
  | rename x bound =>
      have hbound : (bound == "_") = false := by simpa [Leaf.isBinding] using h
      refine ⟨⟨if x == "self" then way else way ++ [x], bound⟩, ?_, ?_, .inl rfl⟩
      · simp only [flattenBelow, hbound, Bool.false_eq_true, if_false]
      · by_cases hx : x = "self" <;> simp [Leaf.segments, Leaf.names, hx]
  | glob => cases h

theorem flatten_tree_of_not_binding {l : Leaf} (h : l.isBinding = false) :
    (flatten l.tree).1 = [] := by
  obtain ⟨way, ending⟩ := l
  rw [flatten, Leaf.tree, flattenBelow_foldr, List.nil_append]
  cases ending with
  | name x =>
      obtain ⟨rfl, rfl⟩ : x = "self" ∧ way = [] := by simpa [Leaf.isBinding] using h
      rfl
  | rename x bound =>
      obtain rfl : bound = "_" := by simpa [Leaf.isBinding] using h
      rfl
  | glob => rfl

/-- One entry for each leaf that binds a name, in the order of the leaves. -/
theorem forall₂_enters (ls : List Leaf) :
    List.Forall₂ Enters (ls.filter Leaf.isBinding) (ls.flatMap fun l => (flatten l.tree).1) := by
  induction ls with
  | nil => exact .nil
  | cons l ls ih =>
      rw [List.flatMap_cons]
      cases hl : l.isBinding with
      | true =>
          obtain ⟨i, hi, henters⟩ := flatten_tree_of_binding hl
          rw [List.filter_cons_of_pos hl, hi]
          exact .cons henters ih
      | false =>
          rw [List.filter_cons_of_neg (by simp [hl]), flatten_tree_of_not_binding hl]
          exact ih

/-- An import is flattened as the imports without groups are that it stands for, from
left to right. It gives one entry for each of its leaves that binds a name. -/
theorem flatten_expansion (t : UseTree) :
    flatten t = (t.expansion.flatMap fun u => (flatten u).1,
      t.expansion.flatMap fun u => (flatten u).2) ∧
    (∀ u ∈ t.expansion, u.isGroupFree = true) ∧
    t.expansion = t.leaves.map Leaf.tree ∧
    List.Forall₂ Enters (t.leaves.filter Leaf.isBinding) (flatten t).1 := by
  have hflatten : flatten t = flattenEach [] t.expansion := flattenBelow_expansion [] t
  refine ⟨hflatten, fun u hu => isGroupFree_of_mem_expansion hu, expansion_eq_map_tree t, ?_⟩
  have hentries : (flatten t).1 = t.leaves.flatMap fun l => (flatten l.tree).1 := by
    rw [hflatten, expansion_eq_map_tree]
    exact List.flatMap_map ..
  rw [hentries]
  exact forall₂_enters t.leaves

end Overlay.Generate.FlatImport
