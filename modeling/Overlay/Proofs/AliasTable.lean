import Mathlib.Data.Finset.Card
import Overlay.Proofs.ImportedPaths

/-!
# The table of all imports

The imports of a script are resolved one after another, and each of them finds
the graph as those before it left it, also where these failed. `Import.outcomes`
says this on its own: it runs one import after the other and writes down what
each came to. Everything the table holds is read off from that list.

The run itself carries a table and collects failures on the way. `leads_bindAll`
and `leads_bindItems` give the run in terms of the outcomes, by induction over
the imports and over the items. What is left then has nothing to do with graphs:
a table into which outcomes are entered from left to right holds the last one of
each name (`get?_enterAll_of_last`), and its names are exactly the bound ones
(`mem_namesOf_enterAll`).
-/

namespace Overlay.Generate

open Source (Node UseTree)
open Files (FileSystem)

/-! ## Steps that heed no reports -/

namespace Explore

section Steady

variable {α β : Type} {step : Explore α} {k : α → Explore β} {g : CrateGraph}

/-- What the step gives and the graph it leaves depend on the graph alone. -/
def Steady (step : Explore α) : Prop := ∀ g, ∃ r g', Leads step g r g'

theorem Steady.leads (h : Steady step) (g : CrateGraph) :
    Leads step g (step.runOn g).1 (step.runOn g).2.1 := by
  obtain ⟨r, g', hrun⟩ := h g
  obtain ⟨events, hon⟩ := hrun.runOn
  rw [hon]
  exact hrun

theorem steady_pure (a : α) : Steady (pure a) := fun g => ⟨_, g, leads_pure a g⟩

theorem steady_throw (f : Failure) : Steady (throw f : Explore α) :=
  fun g => ⟨_, g, leads_throw f g⟩

theorem Steady.bind (h : Steady step) (hk : ∀ a, Steady (k a)) : Steady (step >>= k) := by
  intro g
  obtain ⟨r, g', hrun⟩ := h g
  cases r with
  | error f => exact ⟨_, g', hrun.bind_error⟩
  | ok a =>
      obtain ⟨t, g'', hnext⟩ := hk a g'
      exact ⟨t, g'', hrun.bind hnext⟩

end Steady

end Explore

namespace CrateGraph

open Explore

theorem steady_child (fs : FileSystem) (parent : Module) (name : String) :
    Steady (child fs parent name) := by
  intro g
  cases h : g.module? (parent.childName name) with
  | some m => exact ⟨_, _, child_hit h⟩
  | none => exact ⟨_, _, child_miss h⟩

theorem steady_crateRoot (fs : FileSystem) (name : String) : Steady (crateRoot fs name) := by
  intro g
  cases hclosed : toolchainCrates.contains name || g.sealedCrates.contains name with
  | true => exact ⟨_, _, crateRoot_closed hclosed⟩
  | false =>
      cases h : g.module? (g.localCrate.rootKey name) with
      | some m => exact ⟨_, _, crateRoot_hit hclosed h⟩
      | none => exact ⟨_, _, crateRoot_miss hclosed h⟩

end CrateGraph

namespace Import

open Explore CrateGraph

theorem steady_descend (fs : FileSystem) (m : Module) (path : List String) :
    Steady (descend fs m path) := by
  induction path generalizing m with
  | nil => exact steady_pure _
  | cons segment rest ih =>
      refine (steady_child fs m segment).bind fun found => ?_
      cases found with
      | some next => exact ih next
      | none => exact steady_pure _

theorem steady_targetIn (fs : FileSystem) (written : String) (root : Module)
    (path : List String) : Steady (targetIn fs written root path) := by
  rw [targetIn]
  cases path.getLast? with
  | none => exact steady_pure _
  | some last =>
      refine (steady_descend fs root path.dropLast).bind fun found => ?_
      cases found with
      | none => exact steady_throw _
      | some m =>
          refine (steady_child fs m last).bind fun inner => ?_
          cases inner with
          | some q => exact steady_pure _
          | none => exact steady_pure _

theorem steady_resolve (fs : FileSystem) (here : Module) (i : FlatImport) :
    Steady (resolve fs here i) := by
  rw [resolve]
  cases i.segments with
  | nil => exact steady_throw _
  | cons first rest =>
      dsimp only
      split
      · exact steady_targetIn fs _ here _
      · refine (steady_crateRoot fs first).bind fun root => ?_
        rcases root with _ | (m | _)
        · exact steady_throw _
        · exact steady_targetIn fs _ m rest
        · exact steady_pure _

/-! ## Outcomes, one import after another -/

/-- An import and what it came to. -/
abbrev Outcome := FlatImport × Except Failure ImportTarget

/-- The paths that import items name, in the order of the source. -/
def flattened (items : List Node) : List FlatImport :=
  (items.filterMap treeOf?).flatMap fun tree => (FlatImport.flatten tree).1

/-- What imports come to that are resolved one after another, each on the graph
that all before it left. -/
def outcomes (fs : FileSystem) (here : Module) : CrateGraph → List FlatImport → List Outcome
  | _, [] => []
  | g, i :: rest =>
    let ran := (resolve fs here i).runOn g
    (i, ran.1) :: outcomes fs here ran.2.1 rest

/-- The graph after all of the imports. -/
def graphAfter (fs : FileSystem) (here : Module) : CrateGraph → List FlatImport → CrateGraph
  | g, [] => g
  | g, i :: rest => graphAfter fs here ((resolve fs here i).runOn g).2.1 rest

/-- The failure of an outcome. -/
def Outcome.failure? (o : Outcome) : Option Failure :=
  match o.2 with
  | .ok _ => none
  | .error f => some f

/-- Enters an outcome into a table, unless it is a failure. -/
def Outcome.enter (table : ImportTable) (o : Outcome) : ImportTable :=
  match o.2 with
  | .ok target => table.insert o.1.bound target
  | .error _ => table

section Runs

variable (fs : FileSystem) (here : Module)

theorem map_fst_outcomes (g : CrateGraph) (imports : List FlatImport) :
    (outcomes fs here g imports).map Prod.fst = imports := by
  induction imports generalizing g with
  | nil => rfl
  | cons i rest ih => rw [outcomes, List.map_cons, ih]

theorem outcomes_append (g : CrateGraph) (a b : List FlatImport) :
    outcomes fs here g (a ++ b) =
      outcomes fs here g a ++ outcomes fs here (graphAfter fs here g a) b := by
  induction a generalizing g with
  | nil => rfl
  | cons i rest ih =>
      rw [List.cons_append, outcomes, ih, outcomes, List.cons_append, graphAfter]

theorem graphAfter_append (g : CrateGraph) (a b : List FlatImport) :
    graphAfter fs here g (a ++ b) = graphAfter fs here (graphAfter fs here g a) b := by
  induction a generalizing g with
  | nil => rfl
  | cons i rest ih => rw [List.cons_append, graphAfter, ih, graphAfter]

theorem leads_bindAll (table : ImportTable) (imports : List FlatImport) (g : CrateGraph) :
    Leads (bindAll fs here table imports) g
      (.ok ((outcomes fs here g imports).foldl Outcome.enter table,
        (outcomes fs here g imports).filterMap Outcome.failure?))
      (graphAfter fs here g imports) := by
  induction imports generalizing table g with
  | nil => exact leads_pure _ g
  | cons i rest ih =>
      have hfirst := (steady_resolve fs here i).leads g
      rw [bindAll, outcomes, graphAfter, List.foldl_cons, List.filterMap_cons]
      generalize (resolve fs here i).runOn g = ran at hfirst ⊢
      obtain ⟨r, g', events⟩ := ran
      refine (leads_attempt hfirst).bind ?_
      cases r with
      | ok target => exact (leads_report _ g').bind (ih (table.insert i.bound target) g')
      | error f => exact (ih table g').bind (leads_pure _ _)

theorem leads_bindItems (table : ImportTable) (trees : List UseTree) (g : CrateGraph) :
    Leads (bindItems fs here table trees) g
      (.ok ((outcomes fs here g (trees.flatMap fun t => (FlatImport.flatten t).1)).foldl
          Outcome.enter table,
        (outcomes fs here g (trees.flatMap fun t => (FlatImport.flatten t).1)).filterMap
          Outcome.failure?))
      (graphAfter fs here g (trees.flatMap fun t => (FlatImport.flatten t).1)) := by
  induction trees generalizing table g with
  | nil => exact leads_pure _ g
  | cons tree rest ih =>
      rw [bindItems, List.flatMap_cons, outcomes_append, List.foldl_append,
        List.filterMap_append, graphAfter_append]
      refine (leads_reportAll _ g).bind ?_
      refine (leads_bindAll fs here table _ g).bind ?_
      exact (ih _ _).bind (leads_pure _ _)

/-- The table is built from the outcomes; if some are failures, these are joined. -/
theorem leads_buildTable (items : List Node) (g : CrateGraph) :
    Leads (ImportTable.build fs here items) g
      (match Failure.join?
          ((outcomes fs here g (flattened items)).filterMap Outcome.failure?) with
        | some f => .error f
        | none => .ok ((outcomes fs here g (flattened items)).foldl Outcome.enter .empty))
      (graphAfter fs here g (flattened items)) := by
  rw [ImportTable.build]
  refine (leads_bindItems fs here .empty (items.filterMap treeOf?) g).bind ?_
  rw [← flattened]
  dsimp only
  cases Failure.join? _ with
  | some f => exact leads_throw f _
  | none => exact leads_pure _ _

end Runs

/-! ## What a table holds after some outcomes -/

section Entering

variable {table : ImportTable} {os : List Outcome} {o : Outcome} {name : String}

theorem get?_insert_of_ne {other : String} (h : other ≠ name) (target : ImportTarget) :
    (table.insert name target).get? other = table.get? other := by
  have hboth : (fun e : String × ImportTarget =>
      decide ((e.1 != name) = true ∧ (e.1 == other) = true)) = fun e => e.1 == other := by
    funext e
    by_cases he : e.1 = other
    · simp [he, h]
    · simp [he]
  rw [ImportTable.insert, ImportTable.get?, ImportTable.get?,
    List.find?_cons_of_neg (by simp [h.symm]), List.find?_filter, hboth]

theorem get?_enter_of_ne (h : o.1.bound ≠ name) :
    (o.enter table).get? name = table.get? name := by
  obtain ⟨i, r⟩ := o
  cases r with
  | ok target => exact get?_insert_of_ne h.symm target
  | error f => rfl

/-- Imports of other names do not matter. -/
theorem get?_enterAll_of_ne (h : ∀ o ∈ os, o.1.bound ≠ name) :
    (os.foldl Outcome.enter table).get? name = table.get? name := by
  induction os generalizing table with
  | nil => rfl
  | cons o rest ih =>
      rw [List.foldl_cons, ih fun x hx => h x (List.mem_cons_of_mem o hx),
        get?_enter_of_ne (h o (List.mem_cons_self ..))]

/-- The names of a table, the latest first. -/
def namesOf (table : ImportTable) : List String := table.entries.map Prod.fst

theorem nodup_insert (h : (namesOf table).Nodup) (target : ImportTarget) :
    (namesOf (table.insert name target)).Nodup := by
  rw [namesOf, ImportTable.insert, List.map_cons, List.nodup_cons]
  refine ⟨?_, ?_⟩
  · intro hmem
    obtain ⟨e, he, hname⟩ := List.mem_map.mp hmem
    have hne := (List.mem_filter.mp he).2
    simp [hname] at hne
  · exact h.sublist (List.filter_sublist.map _)

theorem mem_namesOf_insert {other : String} (target : ImportTarget) :
    other ∈ namesOf (table.insert name target) ↔ other = name ∨ other ∈ namesOf table := by
  by_cases h : other = name
  · simp [namesOf, ImportTable.insert, h]
  · simp [namesOf, ImportTable.insert, h]

theorem nodup_enterAll (h : (namesOf table).Nodup) :
    (namesOf (os.foldl Outcome.enter table)).Nodup := by
  induction os generalizing table with
  | nil => exact h
  | cons o rest ih =>
      obtain ⟨i, r⟩ := o
      cases r with
      | ok target => exact ih (nodup_insert h target)
      | error f => exact ih h

/-- Without failures every bound name is in the table. -/
theorem mem_namesOf_enterAll (h : os.filterMap Outcome.failure? = []) :
    name ∈ namesOf (os.foldl Outcome.enter table) ↔
      name ∈ os.map (·.1.bound) ∨ name ∈ namesOf table := by
  induction os generalizing table with
  | nil => simp
  | cons o rest ih =>
      obtain ⟨i, r⟩ := o
      cases r with
      | error f => cases h
      | ok target =>
          have hrest : rest.filterMap Outcome.failure? = [] := h
          rw [List.foldl_cons, ih hrest, Outcome.enter, mem_namesOf_insert, List.map_cons,
            List.mem_cons]
          tauto

theorem ok_of_no_failure (h : os.filterMap Outcome.failure? = []) (ho : o ∈ os) :
    ∃ target, o.2 = .ok target := by
  have hnone := List.filterMap_eq_nil_iff.mp h o ho
  obtain ⟨i, r⟩ := o
  cases r with
  | ok target => exact ⟨target, rfl⟩
  | error f => cases hnone

theorem exists_failure_iff :
    os.filterMap Outcome.failure? ≠ [] ↔ ∃ i f, (i, .error f) ∈ os := by
  rw [Ne, List.filterMap_eq_nil_iff]
  constructor
  · intro h
    by_contra hnone
    refine h fun o ho => ?_
    obtain ⟨i, r⟩ := o
    cases r with
    | ok target => rfl
    | error f => exact absurd ⟨i, f, ho⟩ hnone
  · rintro ⟨i, f, hmem⟩ hall
    cases hall _ hmem

/-- The last import of a name decides, whatever the table held before. -/
theorem get?_enterAll_of_last {before after : List Outcome} {i : FlatImport}
    (target : ImportTarget) (h : ∀ o ∈ after, o.1.bound ≠ i.bound) :
    ((before ++ (i, .ok target) :: after).foldl Outcome.enter table).get? i.bound =
      some target := by
  rw [List.foldl_append, List.foldl_cons, get?_enterAll_of_ne h]
  exact get?_insert_self _ i.bound target

/-- Without failures a table that was empty has one entry for each bound name. -/
theorem size_enterAll (h : os.filterMap Outcome.failure? = []) :
    (os.foldl Outcome.enter .empty).size = (os.map (·.1.bound)).toFinset.card := by
  have hnodup : (namesOf (os.foldl Outcome.enter .empty)).Nodup := nodup_enterAll List.nodup_nil
  have hsame : (namesOf (os.foldl Outcome.enter .empty)).toFinset =
      (os.map (·.1.bound)).toFinset := by
    ext name
    rw [List.mem_toFinset, List.mem_toFinset, mem_namesOf_enterAll h]
    exact or_iff_left List.not_mem_nil
  rw [← hsame, List.toFinset_card_of_nodup hnodup, namesOf, List.length_map, ImportTable.size]

end Entering

end Import

theorem Failure.join?_eq_none_iff {failures : List Failure} :
    Failure.join? failures = none ↔ failures = [] := by
  match failures with
  | [] => exact iff_of_true rfl rfl
  | [_] => exact iff_of_false nofun nofun
  | _ :: _ :: _ => exact iff_of_false nofun nofun

/-! ## The whole table -/

namespace ImportTable

open Import Explore CrateGraph

/-- All imports are resolved one after another, each on the graph that those
before it left. The table is built unless one of them fails; a single failure is
handed on as it is, several as one, in the order of the source. A name of the
table stands for the target of the last import that binds it, and there are as
many names as the imports bind. -/
theorem build_outcome (fs : FileSystem) (here : Module) (items : List Node) (g : CrateGraph) :
    let results := outcomes fs here g (flattened items)
    let failures := results.filterMap Outcome.failure?
    let built := ((ImportTable.build fs here items).runOn g).1
    ((∃ f, built = .error f) ↔ ∃ i f, (i, .error f) ∈ results) ∧
    (∀ f, failures = [f] → built = .error f) ∧
    (2 ≤ failures.length → built = .error (.aggregate failures)) ∧
    ∀ table, built = .ok table →
      (∀ name, (∀ i ∈ flattened items, i.bound ≠ name) → table.get? name = none) ∧
      (∀ before i r after, results = before ++ (i, r) :: after →
        (∀ o ∈ after, o.1.bound ≠ i.bound) →
          ∃ target, r = .ok target ∧ table.get? i.bound = some target) ∧
      table.size = ((flattened items).map (·.bound)).toFinset.card := by
  intro results failures built
  have hbuilt : built = match Failure.join? failures with
      | some f => .error f
      | none => .ok (results.foldl Outcome.enter .empty) :=
    (leads_buildTable fs here items g).answer
  have hfails : (∃ f, built = .error f) ↔ failures ≠ [] := by
    rw [hbuilt, Ne, ← Failure.join?_eq_none_iff]
    cases Failure.join? failures with
    | none => exact iff_of_false nofun (· rfl)
    | some f => exact iff_of_true ⟨f, rfl⟩ nofun
  refine ⟨hfails.trans exists_failure_iff, ?_, ?_, ?_⟩
  · intro f hf
    rw [hbuilt, hf]
    rfl
  · intro hmany
    rw [hbuilt]
    match failures, hmany with
    | _ :: _ :: _, _ => rfl
  · intro table htable
    have hnone : failures = [] := by
      by_contra hne
      obtain ⟨f, hf⟩ := hfails.mpr hne
      rw [htable] at hf
      cases hf
    have himports : (flattened items).map (·.bound) = results.map (·.1.bound) := by
      rw [← map_fst_outcomes fs here g (flattened items), List.map_map]
      rfl
    rw [hbuilt, hnone] at htable
    obtain rfl : results.foldl Outcome.enter .empty = table := Except.ok.inj htable
    refine ⟨?_, ?_, ?_⟩
    · intro name hname
      refine get?_enterAll_of_ne fun o ho => ?_
      refine hname o.1 ?_
      rw [← map_fst_outcomes fs here g (flattened items)]
      exact List.mem_map_of_mem ho
    · intro before i r after hsplit hlast
      have hmem : (i, r) ∈ results := by simp [hsplit]
      obtain ⟨target, rfl⟩ := ok_of_no_failure hnone hmem
      refine ⟨target, rfl, ?_⟩
      rw [hsplit]
      exact get?_enterAll_of_last target hlast
    · rw [himports]
      exact size_enterAll hnone

end ImportTable

end Overlay.Generate
