import Overlay.Layer.File
import Overlay.Proofs.Paths

/-!
# Documents are ordered

A layer is merged entry by entry, so what a layer says under a key is told by
looking the key up only if no key is there twice. This file shows that of every
layer that comes from a file: the keys of its dictionaries ascend strictly, in
all three formats (`fileLayer_ordered`).

JSON and YAML hand their entries to `ofEntries`, which puts them in order, and
there is only the nesting to follow. TOML builds its tables statement by
statement, and a table may have been changed many times before it becomes a
dictionary. What is carried along there is that every value below a table is
ordered, and every change of a table keeps that (`Steady`). An array of tables
is a list, to which no path leads, so nothing is asked of it.
-/

namespace Overlay

open Overlay.Tree

/-! ## JSON -/

namespace Json

theorem members_ordered {value : List Char → Result}
    (hvalue : ∀ cs t rest, value cs = some (t, rest) → Ordered t) {n : Nat}
    {cs rest : List Char} {es : Entries}
    (h : members value n cs = some (es, rest)) : ∀ e ∈ es, Ordered e.2 := by
  induction n generalizing cs es rest with
  | zero => simp [members] at h
  | succ n ih =>
      rw [members] at h
      split at h
      · obtain ⟨⟨key, afterKey⟩, -, h⟩ := Option.bind_eq_some_iff.mp h
        simp only [] at h
        split at h
        · obtain ⟨⟨v, afterValue⟩, hv, h⟩ := Option.bind_eq_some_iff.mp h
          have ht : Ordered v := hvalue _ _ _ hv
          simp only [] at h
          split at h
          · obtain ⟨⟨vs, afterRest⟩, hvs, h⟩ := Option.bind_eq_some_iff.mp h
            cases h
            exact List.forall_mem_cons.mpr ⟨ht, ih hvs⟩
          · cases h
            exact List.forall_mem_singleton.mpr ht
          · cases h
        · cases h
      · cases h

theorem keyword_ordered {word : String} {t u : Tree} {cs rest : List Char}
    (h : keyword word u cs = some (t, rest)) (hu : Ordered u) : Ordered t := by
  rw [keyword] at h
  split at h
  · cases h
    exact hu
  · cases h

theorem value_ordered {depth : Nat} {cs rest : List Char} {t : Tree}
    (h : value depth cs = some (t, rest)) : Ordered t := by
  induction depth generalizing cs rest t with
  | zero => simp [value] at h
  | succ depth ih =>
      rw [value.eq_def] at h
      simp only [] at h
      split at h
      · obtain ⟨r, -, h⟩ := Option.map_eq_some_iff.mp h
        cases h
        trivial
      · split at h
        · cases h
        · split at h
          · cases h
            trivial
          · obtain ⟨r, -, h⟩ := Option.map_eq_some_iff.mp h
            cases h
            trivial
      · split at h
        · cases h
        · split at h
          · cases h
            trivial
          · obtain ⟨⟨es, r⟩, hes, h⟩ := Option.map_eq_some_iff.mp h
            cases h
            exact ordered_ofEntries (members_ordered (fun _ _ _ => ih) hes)
      · exact keyword_ordered h trivial
      · exact keyword_ordered h trivial
      · exact keyword_ordered h trivial
      · obtain ⟨r, -, h⟩ := Option.map_eq_some_iff.mp h
        cases h
        trivial

theorem read?_ordered {text : String} {t : Tree} (h : read? text = some t) :
    Ordered t := by
  rw [read?] at h
  split at h
  · next hvalue =>
    split at h
    · cases h
      exact value_ordered hvalue
    · cases h
  · cases h

end Json

/-! ## TOML -/

namespace Toml

mutual

/-- All values that a path leads to are ordered. -/
def Item.Ordered : Item → Prop
  | .value t => t.Ordered
  | .table _ t => Item.AllOrdered t
  | .tables _ _ => True

def Item.AllOrdered : List (String × Item) → Prop
  | [] => True
  | (_, i) :: rest => i.Ordered ∧ Item.AllOrdered rest

end

mutual

theorem Item.tree_ordered {i : Item} (h : i.Ordered) : i.tree.Ordered := by
  match i with
  | .value t => exact h
  | .table _ t => exact ordered_ofEntries (Item.entryTrees_ordered h)
  | .tables _ _ => trivial

theorem Item.entryTrees_ordered {t : List (String × Item)}
    (h : Item.AllOrdered t) : ∀ e ∈ Item.entryTrees t, e.2.Ordered := by
  match t with
  | [] => exact fun _ he => absurd he List.not_mem_nil
  | (k, i) :: rest =>
      exact List.forall_mem_cons.mpr
        ⟨Item.tree_ordered h.1, Item.entryTrees_ordered h.2⟩

end

/-- A change of what stands under a key that keeps it ordered. -/
def Item.Steady (f : Option Item → Option Item) : Prop :=
  ∀ old new, (∀ i, old = some i → i.Ordered) → f old = some new → new.Ordered

namespace Table

/-- A change of a table that keeps it ordered. -/
def Steady (f : Table → Option Table) : Prop :=
  ∀ t u, Item.AllOrdered t → f t = some u → Item.AllOrdered u

theorem alter_steady (key : String) {f : Option Item → Option Item}
    (hf : Item.Steady f) : Steady (alter key f) := by
  intro t u ht h
  induction t generalizing u with
  | nil =>
      obtain ⟨i, hi, rfl⟩ := Option.map_eq_some_iff.mp h
      exact ⟨hf none i (fun _ hn => nomatch hn) hi, trivial⟩
  | cons e rest ih =>
      obtain ⟨k, item⟩ := e
      rw [alter] at h
      split at h
      · obtain ⟨i, hi, rfl⟩ := Option.map_eq_some_iff.mp h
        refine ⟨hf (some item) i ?_ hi, ht.2⟩
        intro j hj
        rw [← Option.some.inj hj]
        exact ht.1
      · obtain ⟨v, hv, rfl⟩ := Option.map_eq_some_iff.mp h
        exact ⟨ht.1, ih v ht.2 hv⟩

theorem inside_steady {f : Table → Option Table} (hf : Steady f) :
    Item.Steady (inside f) := by
  intro old new hold h
  match old with
  | none =>
      obtain ⟨t, ht, rfl⟩ := Option.map_eq_some_iff.mp h
      exact hf [] t trivial ht
  | some (.table origin t) =>
      obtain ⟨u, hu, rfl⟩ := Option.map_eq_some_iff.mp h
      exact hf t u (hold _ rfl) hu
  | some (.tables earlier t) =>
      obtain ⟨u, -, rfl⟩ := Option.map_eq_some_iff.mp h
      trivial
  | some (.value _) => cases h

theorem along_steady (path : List String) {f : Table → Option Table}
    (hf : Steady f) : Steady (along path f) := by
  induction path with
  | nil => exact hf
  | cons k path ih => exact alter_steady k (inside_steady ih)

theorem declare_steady (key : String) : Steady (declare key) := by
  refine alter_steady key ?_
  intro old new hold h
  match old with
  | none => cases h; trivial
  | some (.table .implied t) =>
      cases h
      exact hold (.table .implied t) rfl
  | some (.table .header _) | some (.table .dotted _) => cases h
  | some (.tables _ _) | some (.value _) => cases h

theorem extend_steady (key : String) : Steady (extend key) := by
  refine alter_steady key ?_
  intro old new hold h
  match old with
  | none | some (.tables _ _) => cases h; trivial
  | some (.table _ _) | some (.value _) => cases h

theorem assign_steady (path : List String) {v : Tree} (hv : v.Ordered) :
    Steady (assign path v) := by
  induction path with
  | nil =>
      intro t u _ h
      cases h
  | cons k path ih =>
      cases path with
      | nil =>
          refine alter_steady k ?_
          intro old new _ h
          match old with
          | none => cases h; exact hv
          | some _ => cases h
      | cons l path =>
          refine alter_steady k ?_
          intro old new hold h
          match old with
          | none =>
              obtain ⟨t, ht, rfl⟩ := Option.map_eq_some_iff.mp h
              exact ih [] t trivial ht
          | some (.table .implied t) | some (.table .dotted t) =>
              obtain ⟨u, hu, rfl⟩ := Option.map_eq_some_iff.mp h
              exact ih t u (hold _ rfl) hu
          | some (.table .header _) | some (.tables _ _) | some (.value _) =>
              cases h

end Table

theorem wordValue?_ordered {w : List Char} {t : Tree}
    (h : wordValue? w = some t) : t.Ordered := by
  rw [wordValue?] at h
  split at h
  · cases h
    trivial
  · split at h
    · cases h
      trivial
    · split at h
      · cases h
        trivial
      · obtain ⟨m, -, rfl⟩ := Option.map_eq_some_iff.mp h
        exact ⟨fun _ he => absurd he List.not_mem_nil, trivial, trivial⟩

theorem members_ordered {value : List Char → Option (Tree × List Char)}
    (hvalue : ∀ cs t rest, value cs = some (t, rest) → t.Ordered) {fuel : Nat}
    {table t : Table} {cs rest : List Char}
    (h : members value fuel table cs = some (t, rest))
    (htable : Item.AllOrdered table) : Item.AllOrdered t := by
  induction fuel generalizing table cs with
  | zero => cases h
  | succ fuel ih =>
      rw [members] at h
      obtain ⟨⟨path, afterKey⟩, -, h⟩ := Option.bind_eq_some_iff.mp h
      simp only [] at h
      split at h
      · obtain ⟨⟨v, afterValue⟩, hv, h⟩ := Option.bind_eq_some_iff.mp h
        obtain ⟨next, hnext, h⟩ := Option.bind_eq_some_iff.mp h
        have hstep : Item.AllOrdered next :=
          Table.assign_steady _ (hvalue _ _ _ hv) _ _ htable hnext
        simp only [] at h
        split at h
        · exact ih h hstep
        · cases h
          exact hstep
        · cases h
      · cases h

theorem value_ordered {depth : Nat} {cs rest : List Char} {t : Tree}
    (h : value depth cs = some (t, rest)) : t.Ordered := by
  induction depth generalizing cs rest t with
  | zero => cases h
  | succ depth ih =>
      rw [value.eq_def] at h
      simp only [] at h
      split at h
      · obtain ⟨r, -, h⟩ := Option.map_eq_some_iff.mp h
        cases h
        trivial
      · obtain ⟨r, -, h⟩ := Option.map_eq_some_iff.mp h
        cases h
        trivial
      · obtain ⟨r, -, h⟩ := Option.map_eq_some_iff.mp h
        cases h
        trivial
      · split at h
        · cases h
          trivial
        · obtain ⟨⟨u, r⟩, hu, h⟩ := Option.map_eq_some_iff.mp h
          cases h
          exact ordered_ofEntries (Item.entryTrees_ordered
            (members_ordered (fun _ _ _ => ih) hu trivial))
      · obtain ⟨v, hv, h⟩ := Option.map_eq_some_iff.mp h
        cases h
        exact wordValue?_ordered hv

/-- A statement only adds to the tables that are there. -/
theorem statement_ordered {d e : Document} {cs rest : List Char}
    (h : statement d cs = some (e, rest)) (hd : Item.AllOrdered d.root) :
    Item.AllOrdered e.root := by
  rw [statement.eq_def] at h
  split at h
  · obtain ⟨⟨path, last, _⟩, -, h⟩ := Option.bind_eq_some_iff.mp h
    obtain ⟨root, hroot, h⟩ := Option.bind_eq_some_iff.mp h
    cases h
    exact Table.along_steady path (Table.extend_steady last) _ _ hd hroot
  · obtain ⟨⟨path, last, _⟩, -, h⟩ := Option.bind_eq_some_iff.mp h
    obtain ⟨root, hroot, h⟩ := Option.bind_eq_some_iff.mp h
    cases h
    exact Table.along_steady path (Table.declare_steady last) _ _ hd hroot
  · obtain ⟨⟨path, _⟩, -, h⟩ := Option.bind_eq_some_iff.mp h
    simp only [] at h
    split at h
    · obtain ⟨⟨v, _⟩, hv, h⟩ := Option.bind_eq_some_iff.mp h
      obtain ⟨root, hroot, h⟩ := Option.bind_eq_some_iff.mp h
      obtain ⟨_, -, h⟩ := Option.bind_eq_some_iff.mp h
      cases h
      exact Table.along_steady d.path (Table.assign_steady _ (value_ordered hv))
        _ _ hd hroot
    · cases h

theorem statements_ordered {fuel : Nat} {d e : Document} {cs : List Char}
    (h : statements fuel d cs = some e) (hd : Item.AllOrdered d.root) :
    Item.AllOrdered e.root := by
  induction fuel generalizing d cs with
  | zero => cases h
  | succ fuel ih =>
      rw [statements] at h
      obtain ⟨cs', -, h⟩ := Option.bind_eq_some_iff.mp h
      split at h
      · cases h
        exact hd
      · obtain ⟨⟨next, rest⟩, hnext, h⟩ := Option.bind_eq_some_iff.mp h
        exact ih h (statement_ordered hnext hd)

theorem read?_ordered {text : String} {t : Tree} (h : read? text = some t) :
    t.Ordered := by
  obtain ⟨d, hd, rfl⟩ := Option.map_eq_some_iff.mp h
  exact ordered_ofEntries (Item.entryTrees_ordered (statements_ordered hd trivial))

end Toml

/-! ## YAML -/

namespace Yaml

theorem wordTree?_leaf {s : String} {t : Tree} (h : wordTree? s = some t) :
    t.isDict = false := by
  rw [wordTree?] at h
  split at h <;> cases h <;> rfl

theorem scalarTree?_leaf {tag : Option String} {s : String} {plain : Bool}
    {t : Tree} (h : scalarTree? tag s plain = some t) : t.isDict = false := by
  rw [scalarTree?.eq_def] at h
  split at h
  · split at h
    · exact wordTree?_leaf h
    · cases h
      rfl
  · split at h
    · obtain ⟨b, -, rfl⟩ := Option.map_eq_some_iff.mp h
      rfl
    · split at h
      · split at h <;> cases h
        rfl
      · split at h
        · obtain ⟨d, -, rfl⟩ := Option.map_eq_some_iff.mp h
          rfl
        · split at h
          · split at h <;> cases h
            rfl
          · cases h
            rfl

theorem tagged_ordered (tag : Option String) {t : Tree} (ht : t.Ordered) :
    (tagged tag t).Ordered := by
  rw [tagged]
  split
  · exact ⟨fun _ he => absurd he List.not_mem_nil, ht, trivial⟩
  · exact ht

mutual

theorem Node.value_ordered {n : Node} {path : List String} {t : Tree}
    (h : n.value path = .ok t) : t.Ordered := by
  match n with
  | .scalar mark tag s plain =>
      rw [Node.value] at h
      cases h
      refine tagged_ordered tag (ordered_of_leaf ?_)
      cases hs : scalarTree? (formTag tag) s plain with
      | none => rfl
      | some u => exact scalarTree?_leaf hs
  | .sequence mark tag items =>
      rw [Node.value] at h
      cases hs : Node.values path 0 items with
      | error u => rw [hs] at h; cases h
      | ok ts =>
          rw [hs] at h
          cases h
          exact tagged_ordered tag trivial
  | .mapping mark tag entries =>
      rw [Node.value] at h
      cases hs : Node.entryValues path entries with
      | error u => rw [hs] at h; cases h
      | ok es =>
          rw [hs] at h
          cases h
          exact tagged_ordered tag (ordered_ofEntries (Node.entryValues_ordered hs))

theorem Node.entryValues_ordered {entries : List (Node × Node)}
    {path : List String} {es : Entries}
    (h : Node.entryValues path entries = .ok es) : ∀ e ∈ es, e.2.Ordered := by
  match entries with
  | [] =>
      rw [Node.entryValues] at h
      cases h
      exact fun _ he => absurd he List.not_mem_nil
  | (.scalar _ _ key _, v) :: rest =>
      rw [Node.entryValues] at h
      cases hv : v.value (path ++ [key]) with
      | error u => rw [hv] at h; cases h
      | ok t =>
          cases hrest : Node.entryValues path rest with
          | error u => rw [hv, hrest] at h; cases h
          | ok ts =>
              rw [hv, hrest] at h
              cases h
              exact List.forall_mem_cons.mpr
                ⟨Node.value_ordered hv, Node.entryValues_ordered hrest⟩
  | (.sequence .., _) :: _ | (.mapping .., _) :: _ =>
      rw [Node.entryValues] at h
      cases h

end

theorem read?_ordered {text : String} {t : Tree}
    (h : read? text = some (.ok t)) : t.Ordered := by
  rw [read?] at h
  split at h
  · cases h
  · cases h
    trivial
  · next n hn =>
    split at h
    · have hdict : n.dictionary = .ok t := Option.some.inj h
      rw [Node.dictionary.eq_def] at hdict
      split at hdict
      · next entries _ =>
        cases hs : Node.entryValues [] entries with
        | error u => rw [hs] at hdict; cases hdict
        | ok es =>
            rw [hs] at hdict
            cases hdict
            exact ordered_ofEntries (Node.entryValues_ordered hs)
      · split at hdict <;> cases hdict
        trivial
      · cases hdict
    · cases h

end Yaml

/-! ## Layers -/

namespace Layer

theorem parseLayer?_ordered {format : FileFormat} {text : String} {es : Entries}
    (h : parseLayer? format text = some (.ok es)) : OrderedEntries es := by
  cases format with
  | toml =>
      obtain ⟨t, ht, h⟩ := Option.map_eq_some_iff.mp h
      split at h
      · cases h
        exact Toml.read?_ordered ht
      · cases h
        trivial
  | json =>
      obtain ⟨t, ht, h⟩ := Option.map_eq_some_iff.mp h
      split at h
      · cases h
        exact Json.read?_ordered ht
      · cases h
  | yaml =>
      obtain ⟨t, ht, h⟩ := Option.map_eq_some_iff.mp h
      split at h
      · cases h
        exact Yaml.read?_ordered ht
      · cases h
        trivial
      · cases h

theorem fileLayer_ordered {fs : Files.FileSystem} {path : Files.Path}
    {es : Entries} (h : fileLayer fs path = .ok (.ok es)) : OrderedEntries es := by
  rw [fileLayer] at h
  split at h
  · cases h
  · split at h
    · cases h
    · split at h
      · cases h
      · next hparse =>
        cases h
        exact parseLayer?_ordered hparse

end Layer

end Overlay
