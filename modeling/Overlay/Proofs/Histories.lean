import Mathlib.Data.List.Induction
import Overlay.Generate.CrateGraph

/-!
# What a crate graph remembers

A crate graph answers two questions: where the name of a crate leads, and which
module is the child of another one. It keeps every module it has found and every
crate that it found to be sealed, and looks there before it looks at the files.
So an answer could depend on all that has been asked before.

This file says how. `Module.ownChild` and `Crate.ownRoot` are the answers that
the files give on their own. Against these `ask_cases` sets all that one question
can do to a graph, and the run lemmas follow from it by induction over the
questions: under a name there is the module of the first question that found one
for that name (`module?_after`), and about a crate there is what the first
question brought that could settle it (`root?_after`). What a graph answers after
any history (`leads_child_after`, `leads_crateRoot_after`) is read off from that.

Nothing a step reports has an effect on what it does. `Leads` leaves the reports
out, and its lemmas follow the structure of a step.
-/

namespace Overlay.Generate

open Files (FileSystem)

/-! ## Steps without their reports -/

namespace Explore

section Running

variable {α β : Type} {step : Explore α} {k : α → Explore β} {a : α} {f : Failure}
  {g g' g'' : CrateGraph} {r r' : Except Failure α} {t : Except Failure β}

/-- On the graph `g` the step gives `r` and leaves the graph `g'`, whatever has
been reported before. -/
def Leads (step : Explore α) (g : CrateGraph) (r : Except Failure α)
    (g' : CrateGraph) : Prop :=
  ∀ events, ∃ events', step.run.run ⟨g, events⟩ = (r, ⟨g', events'⟩)

theorem Leads.runOn (h : Leads step g r g') :
    ∃ events, step.runOn g = (r, g', events) := by
  obtain ⟨events, hrun⟩ := h []
  refine ⟨events, ?_⟩
  rw [Explore.runOn, hrun]

theorem Leads.answer (h : Leads step g r g') : (step.runOn g).1 = r := by
  obtain ⟨events, hrun⟩ := h.runOn
  rw [hrun]

theorem Leads.unique (h : Leads step g r g') (h' : Leads step g r' g'') :
    r = r' ∧ g' = g'' := by
  obtain ⟨events, hrun⟩ := h.runOn
  obtain ⟨events', hrun'⟩ := h'.runOn
  rw [hrun, Prod.mk.injEq, Prod.mk.injEq] at hrun'
  exact ⟨hrun'.1, hrun'.2.1⟩

theorem leads_pure (a : α) (g : CrateGraph) : Leads (pure a) g (.ok a) g :=
  fun events => ⟨events, rfl⟩

theorem leads_throw (f : Failure) (g : CrateGraph) :
    Leads (throw f : Explore α) g (.error f) g :=
  fun events => ⟨events, rfl⟩

theorem leads_lift (r : Except Failure α) (g : CrateGraph) :
    Leads (lift r) g r g := by
  cases r with
  | ok a => exact leads_pure a g
  | error f => exact leads_throw f g

theorem leads_graph (g : CrateGraph) : Leads graph g (.ok g) g :=
  fun events => ⟨events, rfl⟩

theorem leads_report (e : Event) (g : CrateGraph) :
    Leads (report e) g (.ok ()) g :=
  fun events => ⟨events ++ [e], rfl⟩

theorem leads_reportAll (es : List Event) (g : CrateGraph) :
    Leads (reportAll es) g (.ok ()) g :=
  fun events => ⟨events ++ es, rfl⟩

theorem leads_change (f : CrateGraph → CrateGraph) (g : CrateGraph) :
    Leads (change f) g (.ok ()) (f g) :=
  fun events => ⟨events, rfl⟩

theorem run_bind (step : Explore α) (k : α → Explore β) (s : Exploration) :
    (step >>= k).run.run s = match step.run.run s with
      | (.ok a, s') => (k a).run.run s'
      | (.error f, s') => (.error f, s') := by
  change (ExceptT.bindCont k (step.run.run s).1).run (step.run.run s).2 = _
  cases step.run.run s with
  | mk r s' => cases r <;> rfl

theorem Leads.bind (h : Leads step g (.ok a) g') (hk : Leads (k a) g' t g'') :
    Leads (step >>= k) g t g'' := by
  intro events
  obtain ⟨events', hrun⟩ := h events
  obtain ⟨events'', hnext⟩ := hk events'
  refine ⟨events'', ?_⟩
  rw [run_bind, hrun]
  exact hnext

theorem Leads.bind_error (h : Leads step g (.error f) g') :
    Leads (step >>= k) g (.error f) g' := by
  intro events
  obtain ⟨events', hrun⟩ := h events
  refine ⟨events', ?_⟩
  rw [run_bind, hrun]

theorem Leads.map {e : α → β} (h : Leads step g r g') (hk : ∀ a, k a = pure (e a)) :
    Leads (step >>= k) g (r.map e) g' := by
  cases r with
  | error f => exact h.bind_error
  | ok a =>
      refine h.bind ?_
      rw [hk]
      exact leads_pure _ _

end Running

end Explore

/-! ## What the files say on their own -/

/-- The child module that a module declares itself, by its first declaration of
the name. Its items stand there or in one of two files; none if both are
missing. -/
def Module.ownChild (fs : FileSystem) (m : Module) (name : String) :
    Except Failure (Option Module) :=
  match m.childDeclaration? name with
  | none => .ok none
  | some (source, item, true) =>
    .ok (some ⟨m.childName name, m.dir.join name, [⟨source, item.parts⟩]⟩)
  | some (_, _, false) =>
    (firstSource fs
        [m.dir.join (name ++ ".rs"), (m.dir.join name).join "mod.rs"]).map
      (Option.map (Module.ofFile (m.childName name) (m.dir.join name)))

/-- The name under which the root of a crate is kept. -/
def Crate.rootKey (c : Crate) (name : String) : String :=
  if name == CrateGraph.selfName then c.ident else name

/-- What the sources of a crate come to that is not of the toolchain. -/
def Crate.readRoot (fs : FileSystem) (c : Crate) (name : String) :
    Except Failure (Option CrateRoot) :=
  match (CrateGraph.rootFile fs (.new c) name).2 with
  | .error f => .error f
  | .ok none => .ok none
  | .ok (some none) => .ok (some .sealed)
  | .ok (some (some path)) =>
    match loadSource fs path with
    | .error f => .error f
    | .ok none => .ok (some .sealed)
    | .ok (some source) =>
      .ok (some (.readable
        (.ofFile (c.rootKey name) (path.parent?.getD ".") source)))

/-- Where the name of a crate leads. -/
def Crate.ownRoot (fs : FileSystem) (c : Crate) (name : String) :
    Except Failure (Option CrateRoot) :=
  if toolchainCrates.contains name then .ok (some .sealed)
  else c.readRoot fs name

/-! ## One question -/

/-- A question to a crate graph. -/
inductive Request where
  | crateRoot (name : String)
  | child (parent : Module) (name : String)

namespace Request

/-- The name under which a module that is found is kept. -/
def key (c : Crate) : Request → String
  | crateRoot name => c.rootKey name
  | child parent name => parent.childName name

/-- The module that is found without a look at what is kept. -/
def found? (fs : FileSystem) (c : Crate) : Request → Option Module
  | crateRoot name =>
    match c.ownRoot fs name with
    | .ok (some (.readable m)) => some m
    | _ => none
  | child parent name =>
    match parent.ownChild fs name with
    | .ok found => found
    | .error _ => none

/-- The module that is found, if it is kept under the name `k`. -/
def foundAs? (fs : FileSystem) (c : Crate) (k : String) (r : Request) :
    Option Module :=
  if r.key c = k then r.found? fs c else none

/-- What a question can tell about the crate `name`: its own answer, or a module
that is found for something else and kept under the same name. -/
def settles? (fs : FileSystem) (c : Crate) (name : String) : Request → Option CrateRoot
  | crateRoot other =>
    if other = name then (c.ownRoot fs name).toOption.join
    else ((crateRoot other).foundAs? fs c (c.rootKey name)).map .readable
  | child parent n =>
    ((child parent n).foundAs? fs c (c.rootKey name)).map .readable

end Request

namespace CrateGraph

open Explore Request

/-- The graph once a child module has been looked for. -/
def learn (g : CrateGraph) (key : String) :
    Except Failure (Option Module) → CrateGraph
  | .ok (some m) => g.keep key m
  | .ok none => g
  | .error _ => g

/-- The graph once the root of a crate has been looked for. -/
def settle (g : CrateGraph) (name : String) :
    Except Failure (Option CrateRoot) → CrateGraph
  | .ok (some (.readable m)) => g.keep (g.localCrate.rootKey name) m
  | .ok (some .sealed) => g.setSealed name
  | .ok none => g
  | .error _ => g

/-- The graph after a question. -/
def ask (fs : FileSystem) (g : CrateGraph) : Request → CrateGraph
  | .crateRoot name => ((crateRoot fs name).runOn g).2.1
  | .child parent name => ((child fs parent name).runOn g).2.1

/-- What the graph has of a crate's name; the toolchain is not asked. -/
def root? (g : CrateGraph) (name : String) : Option CrateRoot :=
  if g.sealedCrates.contains name then some .sealed
  else (g.module? (g.localCrate.rootKey name)).map .readable

section Steps

variable {fs : FileSystem} {g : CrateGraph} {p m : Module} {n : String}

theorem declaredChild_eq {d : Source.SourceFile × Source.Node × Bool}
    (h : p.childDeclaration? n = some d) :
    declaredChild fs p n d = p.ownChild fs n := by
  obtain ⟨source, item, isInline⟩ := d
  rw [declaredChild, Module.ownChild, h]
  cases isInline with
  | true => rfl
  | false =>
      simp only [Bool.false_eq_true, if_false]
      cases firstSource fs
          [p.dir.join (n ++ ".rs"), (p.dir.join n).join "mod.rs"] with
      | error f => rfl
      | ok found => cases found <;> rfl

theorem child_hit (h : g.module? (p.childName n) = some m) :
    Leads (child fs p n) g (.ok (some m)) g := by
  rw [child]
  refine (leads_graph g).bind ?_
  simp only [h]
  exact leads_pure _ _

theorem child_miss (h : g.module? (p.childName n) = none) :
    Leads (child fs p n) g (p.ownChild fs n)
      (g.learn (p.childName n) (p.ownChild fs n)) := by
  rw [child]
  refine (leads_graph g).bind ?_
  simp only [h]
  cases hdecl : p.childDeclaration? n with
  | none =>
      have hown : p.ownChild fs n = .ok none := by rw [Module.ownChild, hdecl]
      rw [hown]
      exact leads_pure _ _
  | some d =>
      simp only [declaredChild_eq hdecl]
      match p.ownChild fs n with
      | .error f => exact (leads_lift _ g).bind_error
      | .ok none =>
          exact (leads_lift _ g).bind ((leads_report _ g).bind (leads_pure _ _))
      | .ok (some m) =>
          exact (leads_lift _ g).bind ((leads_change _ g).bind (leads_pure _ _))

theorem crateRoot_closed
    (h : (toolchainCrates.contains n || g.sealedCrates.contains n) = true) :
    Leads (crateRoot fs n) g (.ok (some .sealed)) g := by
  rw [crateRoot]
  refine (leads_graph g).bind ?_
  simp only [h, if_true]
  exact leads_pure _ _

theorem crateRoot_hit
    (hopen : (toolchainCrates.contains n || g.sealedCrates.contains n) = false)
    (h : g.module? (g.localCrate.rootKey n) = some m) :
    Leads (crateRoot fs n) g (.ok (some (.readable m))) g := by
  rw [Crate.rootKey] at h
  rw [crateRoot]
  refine (leads_graph g).bind ?_
  simp only [hopen, h, Bool.false_eq_true, if_false]
  exact leads_pure _ _

theorem crateRoot_miss
    (hopen : (toolchainCrates.contains n || g.sealedCrates.contains n) = false)
    (h : g.module? (g.localCrate.rootKey n) = none) :
    Leads (crateRoot fs n) g (g.localCrate.ownRoot fs n)
      (g.settle n (g.localCrate.ownRoot fs n)) := by
  obtain ⟨htools, -⟩ := Bool.or_eq_false_iff.mp hopen
  have hown : g.localCrate.ownRoot fs n = g.localCrate.readRoot fs n := by
    rw [Crate.ownRoot, htools]
    rfl
  have hfile : rootFile fs (.new g.localCrate) n = rootFile fs g n := rfl
  rw [Crate.rootKey] at h
  rw [hown, crateRoot]
  refine (leads_graph g).bind ?_
  simp only [hopen, h, Bool.false_eq_true, if_false]
  refine (leads_reportAll _ g).bind ?_
  rw [Crate.readRoot, hfile]
  match (rootFile fs g n).2 with
  | .error f => exact (leads_lift _ g).bind_error
  | .ok none => exact (leads_lift _ g).bind (leads_pure _ _)
  | .ok (some none) =>
      exact (leads_lift _ g).bind
        ((leads_report _ g).bind ((leads_change _ g).bind (leads_pure _ _)))
  | .ok (some (some path)) =>
      refine (leads_lift _ g).bind ?_
      simp only
      match loadSource fs path with
      | .error f => exact (leads_lift _ g).bind_error
      | .ok none =>
          exact (leads_lift _ g).bind ((leads_change _ g).bind (leads_pure _ _))
      | .ok (some source) =>
          exact (leads_lift _ g).bind ((leads_change _ g).bind (leads_pure _ _))

theorem ask_child {r : Except Failure (Option Module)} {g' : CrateGraph}
    (h : Leads (child fs p n) g r g') : g.ask fs (.child p n) = g' := by
  obtain ⟨events, hrun⟩ := h.runOn
  rw [ask, hrun]

theorem ask_crateRoot {r : Except Failure (Option CrateRoot)} {g' : CrateGraph}
    (h : Leads (crateRoot fs n) g r g') : g.ask fs (.crateRoot n) = g' := by
  obtain ⟨events, hrun⟩ := h.runOn
  rw [ask, hrun]

end Steps

/-! ## What a question does to a graph -/

/-- The graph is of the crate `c`, and the crates it calls sealed are. -/
structure Trusted (fs : FileSystem) (c : Crate) (g : CrateGraph) : Prop where
  localCrate_eq : g.localCrate = c
  sealed_own : ∀ n ∈ g.sealedCrates, c.ownRoot fs n = .ok (some .sealed)

theorem module?_keep (g : CrateGraph) (key k : String) (m : Module) :
    (g.keep key m).module? k = if key = k then some m else g.module? k := by
  by_cases h : key = k
  · simp [module?, keep, h]
  · simp [module?, keep, List.find?_cons_of_neg, h]

section Asking

variable {fs : FileSystem} {c : Crate} {g : CrateGraph}

theorem Trusted.ownRoot_of_closed (hg : g.Trusted fs c) {n : String}
    (h : (toolchainCrates.contains n || g.sealedCrates.contains n) = true) :
    c.ownRoot fs n = .ok (some .sealed) := by
  rw [Bool.or_eq_true] at h
  rcases h with htools | hmem
  · rw [Crate.ownRoot, if_pos htools]
  · exact hg.sealed_own n (List.contains_iff_mem.mp hmem)

/-- All that a question can do: nothing, keep the module that it found, or seal
the crate that it asked for. -/
theorem ask_cases (hg : g.Trusted fs c) (r : Request) :
    (g.ask fs r = g ∧
      (r.found? fs c = none ∨ ∃ m, g.module? (r.key c) = some m)) ∨
    (∃ m, g.ask fs r = g.keep (r.key c) m ∧ r.found? fs c = some m ∧
      g.module? (r.key c) = none) ∨
    ∃ n, g.ask fs r = g.setSealed n ∧ r = .crateRoot n ∧
      c.ownRoot fs n = .ok (some .sealed) := by
  obtain rfl := hg.localCrate_eq
  cases r with
  | child p n =>
      rw [found?, key]
      cases hkept : g.module? (p.childName n) with
      | some m => exact Or.inl ⟨ask_child (child_hit hkept), Or.inr ⟨m, rfl⟩⟩
      | none =>
          have hask : g.ask fs (.child p n) = _ := ask_child (child_miss hkept)
          match hown : p.ownChild fs n with
          | .error f => exact Or.inl ⟨by rw [hask, hown, learn], Or.inl rfl⟩
          | .ok none => exact Or.inl ⟨by rw [hask, hown, learn], Or.inl rfl⟩
          | .ok (some m) =>
              exact Or.inr (Or.inl ⟨m, by rw [hask, hown, learn], rfl, rfl⟩)
  | crateRoot n =>
      rw [found?, key]
      cases hclosed : toolchainCrates.contains n || g.sealedCrates.contains n with
      | true =>
          refine Or.inl ⟨ask_crateRoot (crateRoot_closed hclosed), Or.inl ?_⟩
          rw [hg.ownRoot_of_closed hclosed]
      | false =>
          cases hkept : g.module? (g.localCrate.rootKey n) with
          | some m =>
              exact Or.inl ⟨ask_crateRoot (crateRoot_hit hclosed hkept),
                Or.inr ⟨m, rfl⟩⟩
          | none =>
              have hask : g.ask fs (.crateRoot n) = _ :=
                ask_crateRoot (crateRoot_miss hclosed hkept)
              match hown : g.localCrate.ownRoot fs n with
              | .error f => exact Or.inl ⟨by rw [hask, hown, settle], Or.inl rfl⟩
              | .ok none => exact Or.inl ⟨by rw [hask, hown, settle], Or.inl rfl⟩
              | .ok (some .sealed) =>
                  exact Or.inr (Or.inr ⟨n, by rw [hask, hown, settle], rfl, hown⟩)
              | .ok (some (.readable m)) =>
                  exact Or.inr (Or.inl ⟨m, by rw [hask, hown, settle], rfl, rfl⟩)

theorem trusted_ask (hg : g.Trusted fs c) (r : Request) :
    (g.ask fs r).Trusted fs c := by
  rcases ask_cases hg r with ⟨hask, -⟩ | ⟨m, hask, -, -⟩ | ⟨n, hask, -, hown⟩
  · rw [hask]
    exact hg
  · rw [hask]
    exact ⟨hg.localCrate_eq, hg.sealed_own⟩
  · rw [hask]
    refine ⟨hg.localCrate_eq, ?_⟩
    intro k hk
    rcases List.mem_cons.mp hk with rfl | hk
    · exact hown
    · exact hg.sealed_own k hk

/-- A question leaves what is kept, and adds what it finds where nothing was. -/
theorem module?_ask (hg : g.Trusted fs c) (r : Request) (k : String) :
    (g.ask fs r).module? k = (g.module? k).or (r.foundAs? fs c k) := by
  rw [foundAs?]
  rcases ask_cases hg r with ⟨hask, hnone | ⟨m, hkept⟩⟩ |
    ⟨m, hask, hfound, hkept⟩ | ⟨n, hask, rfl, hown⟩
  · rw [hask, hnone, ite_self, Option.or_none]
  · rw [hask]
    split
    · next hk => rw [← hk, hkept, Option.some_or]
    · rw [Option.or_none]
  · -- A module is only found where none was kept, so none is replaced.
    rw [hask, module?_keep, hfound]
    split
    · next hk => rw [← hk, hkept, Option.none_or]
    · rw [Option.or_none]
  · have hsame : (g.setSealed n).module? k = g.module? k := rfl
    rw [hask, hsame, found?, hown, ite_self, Option.or_none]

theorem sealedCrates_ask (hg : g.Trusted fs c) {n : String} {r : Request}
    (hr : r ≠ .crateRoot n) :
    (g.ask fs r).sealedCrates.contains n = g.sealedCrates.contains n := by
  rcases ask_cases hg r with ⟨hask, -⟩ | ⟨m, hask, -, -⟩ | ⟨k, hask, rfl, -⟩
  · rw [hask]
  · rw [hask, keep]
  · have hne : n ≠ k := fun h => hr (by rw [h])
    rw [hask, setSealed, List.contains_cons, beq_false_of_ne hne, Bool.false_or]

theorem root?_ask_of_ne (hg : g.Trusted fs c) {n : String} {r : Request}
    (hr : r ≠ .crateRoot n) :
    (g.ask fs r).root? n =
      (g.root? n).or ((r.foundAs? fs c (c.rootKey n)).map .readable) := by
  rw [root?, root?, (trusted_ask hg r).localCrate_eq, hg.localCrate_eq,
    sealedCrates_ask hg hr, module?_ask hg]
  split
  · rw [Option.some_or]
  · rw [Option.map_or]

/-- A crate that is asked for: what is there is the answer, and where nothing is
there, the crate's own answer is and stays. -/
theorem leads_crateRoot (hg : g.Trusted fs c) {n : String}
    (htools : toolchainCrates.contains n = false) :
    Leads (crateRoot fs n) g
      (match g.root? n with
        | some root => .ok (some root)
        | none => c.ownRoot fs n)
      (g.ask fs (.crateRoot n)) ∧
    (g.ask fs (.crateRoot n)).root? n =
      (g.root? n).or (c.ownRoot fs n).toOption.join := by
  obtain rfl := hg.localCrate_eq
  cases hsealed : g.sealedCrates.contains n with
  | true =>
      have hclosed :
          (toolchainCrates.contains n || g.sealedCrates.contains n) = true := by
        rw [hsealed, Bool.or_true]
      have hroot : g.root? n = some .sealed := by rw [root?, if_pos hsealed]
      have hleads : Leads (crateRoot fs n) g _ g := crateRoot_closed hclosed
      rw [ask_crateRoot hleads, hroot]
      exact ⟨hleads, rfl⟩
  | false =>
      have hopen :
          (toolchainCrates.contains n || g.sealedCrates.contains n) = false := by
        rw [htools, hsealed, Bool.or_false]
      have hroot :
          g.root? n = (g.module? (g.localCrate.rootKey n)).map .readable := by
        rw [root?, hsealed]
        rfl
      cases hkept : g.module? (g.localCrate.rootKey n) with
      | some m =>
          have hleads : Leads (crateRoot fs n) g _ g := crateRoot_hit hopen hkept
          rw [ask_crateRoot hleads, hroot, hkept]
          exact ⟨hleads, rfl⟩
      | none =>
          have hleads : Leads (crateRoot fs n) g _ _ := crateRoot_miss hopen hkept
          rw [hkept] at hroot
          rw [ask_crateRoot hleads, hroot]
          refine ⟨hleads, ?_⟩
          match g.localCrate.ownRoot fs n with
          | .error f => exact hroot
          | .ok none => exact hroot
          | .ok (some .sealed) =>
              rw [settle, root?, setSealed, if_pos (by simp)]
              rfl
          | .ok (some (.readable m)) =>
              have hsame : (g.keep (g.localCrate.rootKey n) m).root? n =
                  if g.sealedCrates.contains n then some .sealed
                  else ((g.keep (g.localCrate.rootKey n) m).module?
                    (g.localCrate.rootKey n)).map .readable := rfl
              rw [settle, hsame, hsealed, module?_keep, if_pos rfl]
              rfl

theorem root?_ask (hg : g.Trusted fs c) {n : String}
    (htools : toolchainCrates.contains n = false) (r : Request) :
    (g.ask fs r).root? n = (g.root? n).or (r.settles? fs c n) := by
  cases r with
  | child p k => exact root?_ask_of_ne hg (by simp)
  | crateRoot k =>
      rw [settles?]
      split
      · next hk =>
        rw [hk]
        exact (leads_crateRoot hg htools).2
      · next hk => exact root?_ask_of_ne hg (by simpa using hk)

end Asking

/-! ## What a graph has and answers after a history -/

/-- The graph of a crate after some questions. -/
def after (fs : FileSystem) (c : Crate) (history : List Request) : CrateGraph :=
  history.foldl (ask fs) (new c)

section History

variable (fs : FileSystem) (c : Crate) (h : List Request)

theorem after_snoc (r : Request) :
    after fs c (h ++ [r]) = (after fs c h).ask fs r := by
  rw [after, List.foldl_append]
  rfl

theorem trusted_after : (after fs c h).Trusted fs c := by
  induction h using List.reverseRecOn with
  | nil => exact ⟨rfl, by simp [after, new]⟩
  | append_singleton h r ih =>
      rw [after_snoc]
      exact trusted_ask ih r

theorem module?_after (k : String) :
    (after fs c h).module? k = h.findSome? (foundAs? fs c k) := by
  induction h using List.reverseRecOn with
  | nil => rfl
  | append_singleton h r ih =>
      rw [after_snoc, module?_ask (trusted_after fs c h), ih,
        List.findSome?_append, List.findSome?_singleton]

theorem root?_after {n : String} (htools : toolchainCrates.contains n = false) :
    (after fs c h).root? n = h.findSome? (settles? fs c n) := by
  induction h using List.reverseRecOn with
  | nil => rfl
  | append_singleton h r ih =>
      rw [after_snoc, root?_ask (trusted_after fs c h) htools, ih,
        List.findSome?_append, List.findSome?_singleton]

theorem leads_child_after (p : Module) (n : String) :
    Leads (child fs p n) (after fs c h)
      (match h.findSome? (foundAs? fs c (p.childName n)) with
        | some m => .ok (some m)
        | none => p.ownChild fs n)
      (after fs c (h ++ [.child p n])) := by
  rw [after_snoc, ← module?_after]
  cases hkept : (after fs c h).module? (p.childName n) with
  | some m =>
      rw [ask_child (child_hit hkept)]
      exact child_hit hkept
  | none =>
      rw [ask_child (child_miss hkept)]
      exact child_miss hkept

theorem leads_crateRoot_after {n : String}
    (htools : toolchainCrates.contains n = false) :
    Leads (crateRoot fs n) (after fs c h)
      (match h.findSome? (settles? fs c n) with
        | some root => .ok (some root)
        | none => c.ownRoot fs n)
      (after fs c (h ++ [.crateRoot n])) := by
  rw [after_snoc, ← root?_after fs c h htools]
  exact (leads_crateRoot (trusted_after fs c h) htools).1

/-- A crate of the toolchain has its answer whatever was asked before. -/
theorem leads_crateRoot_toolchain {n : String}
    (htools : toolchainCrates.contains n = true) :
    Leads (crateRoot fs n) (after fs c h) (c.ownRoot fs n)
      (after fs c (h ++ [.crateRoot n])) := by
  have hclosed : (toolchainCrates.contains n ||
      (after fs c h).sealedCrates.contains n) = true := by
    rw [htools, Bool.true_or]
  have hleads : Leads (crateRoot fs n) _ _ _ := crateRoot_closed hclosed
  rw [after_snoc, ask_crateRoot hleads, Crate.ownRoot, if_pos htools]
  exact hleads

theorem leads_crateRoot_new (n : String) :
    Leads (crateRoot fs n) (after fs c []) (c.ownRoot fs n)
      (after fs c [.crateRoot n]) := by
  cases htools : toolchainCrates.contains n with
  | true => exact leads_crateRoot_toolchain fs c [] htools
  | false => exact leads_crateRoot_after fs c [] htools

end History

end CrateGraph

end Overlay.Generate
