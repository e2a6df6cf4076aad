import Overlay.Command.Run
import Overlay.Proofs.ModuleTree
import Overlay.Proofs.SteadySources

/-!
# Generating again

A generation reads a directory and writes its output into that directory. If the
second run saw what the first one wrote, it could come to something else.

What the script asks for is looked up in modules, and a module is read from a file
of its name. So the output is read exactly if some path of the script comes by the
module `config_gen` of the script's directory, or if a crate or a link leads there.
Where nothing does (`Unasked`), the run on the old files and the run on the new ones
go in step. `Alike` is what that means for one step: the same outcome on every graph
whose modules stay clear of the output, and a graph of that kind again. Its lemmas
follow the structure of a step, so that the run of all imports and arguments is in
step because the two questions to a graph are (`alike_child`, `alike_crateRoot`).

`generate_again` puts this together with the files: what a generation changes, and
that a second one changes nothing.
-/

namespace Overlay.Generate

open Files
open Source (SourceFile Node UseTree)

namespace Explore

/-! ## Steps that go in step -/

/-- On every graph with the property `I` both steps do the same. The graph keeps the
property, and a result has the property `P`. -/
def Alike {α : Type} (I : CrateGraph → Prop) (P : α → Prop) (x y : Explore α) : Prop :=
  ∀ s, I s.graph → y.run.run s = x.run.run s ∧ I (x.run.run s).2.graph ∧
    ∀ a, (x.run.run s).1 = .ok a → P a

section Alike

variable {α β : Type} {I : CrateGraph → Prop} {P : α → Prop} {Q : β → Prop} {x y : Explore α}

theorem alike_pure {a : α} (ha : P a) : Alike I P (pure a) (pure a) := by
  intro s hs
  refine ⟨rfl, hs, ?_⟩
  intro b hb
  cases hb
  exact ha

theorem alike_throw (f : Failure) : Alike I P (throw f) (throw f) := by
  intro s hs
  refine ⟨rfl, hs, ?_⟩
  intro b hb
  cases hb

theorem alike_lift {r : Except Failure α} (hr : ∀ a, r = .ok a → P a) :
    Alike I P (lift r) (lift r) := by
  cases r with
  | ok a => exact alike_pure (hr a rfl)
  | error f => exact alike_throw f

theorem alike_graph : Alike I I graph graph := by
  intro s hs
  refine ⟨rfl, hs, ?_⟩
  intro g hg
  cases hg
  exact hs

theorem alike_report (e : Event) : Alike I (fun _ => True) (report e) (report e) :=
  fun _ hs => ⟨rfl, hs, fun _ _ => trivial⟩

theorem alike_reportAll (es : List Event) : Alike I (fun _ => True) (reportAll es) (reportAll es) :=
  fun _ hs => ⟨rfl, hs, fun _ _ => trivial⟩

theorem alike_change {f : CrateGraph → CrateGraph} (hf : ∀ g, I g → I (f g)) :
    Alike I (fun _ => True) (change f) (change f) :=
  fun s hs => ⟨rfl, hf s.graph hs, fun _ _ => trivial⟩

theorem Alike.bind (hx : Alike I P x y) {k l : α → Explore β}
    (hk : ∀ a, P a → Alike I Q (k a) (l a)) : Alike I Q (x >>= k) (y >>= l) := by
  intro s hs
  obtain ⟨hrun, hgraph, hresult⟩ := hx s hs
  rw [run_bind, run_bind, hrun]
  match hxs : x.run.run s with
  | (.ok a, s') =>
      rw [hxs] at hgraph hresult
      exact hk a (hresult a rfl) s' hgraph
  | (.error f, s') =>
      rw [hxs] at hgraph
      refine ⟨rfl, hgraph, ?_⟩
      intro b hb
      cases hb

theorem Alike.attempt (hx : Alike I P x y) :
    Alike I (fun r => ∀ a, r = .ok a → P a) (Import.attempt x) (Import.attempt y) := by
  intro s hs
  obtain ⟨hrun, hgraph, hresult⟩ := hx s hs
  have hattempt : ∀ z : Explore α, (Import.attempt z).run.run s =
      (.ok (z.run.run s).1, (z.run.run s).2) := fun z => rfl
  rw [hattempt, hattempt, hrun]
  refine ⟨rfl, hgraph, ?_⟩
  intro r hr
  cases hr
  exact hresult

end Alike

end Explore

open Explore

/-! ## Modules and crates that stay clear of the output -/

/-- A segment of a path by which no file of the output's name is looked for. -/
def Plain (segment : String) : Prop := IsIdentifier segment ∧ segment ≠ outputStem

instance (segment : String) : Decidable (Plain segment) :=
  inferInstanceAs (Decidable (_ ∧ _))

/-- No file of the module's directory has the output's name on its path. -/
def Module.Clear (m : Module) : Prop := outputName ∉ Path.parts m.dir

/-- The crate and its dependencies start in files that have not the output's name on
their paths. -/
structure Crate.Clear (fs : FileSystem) (c : Crate) : Prop where
  root : ∀ p, c.rootFile = some p → outputName ∉ Path.parts p
  dependency : ∀ d ∈ c.dependencies, ∀ p, d.path = some p → outputName ∉ Path.parts p
  dependencyRoot : ∀ d ∈ c.dependencies, ∀ p, d.path = some p →
    ∀ other q, (Crate.load fs (p.join manifestName)).2 = .ok (some other) →
      other.rootFile = some q → outputName ∉ Path.parts q

/-- A graph of the crate `c` all of whose modules are clear. -/
structure CrateGraph.Clear (c : Crate) (g : CrateGraph) : Prop where
  localCrate : g.localCrate = c
  modules : ∀ k m, g.module? k = some m → m.Clear

theorem CrateGraph.Clear.keep {c : Crate} {g : CrateGraph} (hg : g.Clear c) (key : String)
    {m : Module} (hm : m.Clear) : (g.keep key m).Clear c := by
  refine ⟨hg.localCrate, ?_⟩
  intro k m' hm'
  rw [CrateGraph.module?_keep] at hm'
  split at hm'
  · cases hm'
    exact hm
  · exact hg.modules k m' hm'

section Paths

variable {m : Module} {n : String}

theorem Plain.ne_output (hn : Plain n) : n ≠ outputName := by
  rintro rfl
  exact absurd hn.1 (by decide)

theorem Plain.file_ne_output (hn : Plain n) : n ++ ".rs" ≠ outputName := by
  intro heq
  have hlist : n.toList ++ ".rs".toList = outputStem.toList ++ ".rs".toList := by
    rw [← String.toList_append, heq]
    decide
  exact hn.2 (String.toList_inj.mp (List.append_cancel_right hlist))

theorem parts_join_name {d : Path} (hd : outputName ∉ Path.parts d) {s : String}
    (hslash : '/' ∉ s.toList) (hs : s ≠ outputName) : outputName ∉ Path.parts (d.join s) := by
  rw [Path.parts_join d (Path.isAbsolute_of_no_slash hslash), List.mem_append, not_or]
  refine ⟨hd, ?_⟩
  intro hmem
  have hraw := (Path.mem_parts.mp hmem).1
  rw [Path.rawParts_of_not_mem hslash, List.mem_singleton] at hraw
  exact hs hraw.symm

theorem Module.Clear.childDir (hm : m.Clear) (hn : Plain n) :
    outputName ∉ Path.parts (m.dir.join n) :=
  parts_join_name hm hn.1.no_slash hn.ne_output

theorem Module.Clear.childFiles (hm : m.Clear) (hn : Plain n) :
    ∀ p ∈ [m.dir.join (n ++ ".rs"), (m.dir.join n).join "mod.rs"], outputName ∉ Path.parts p := by
  intro p hp
  rcases List.mem_cons.mp hp with rfl | hp
  · refine parts_join_name hm ?_ hn.file_ne_output
    rw [String.toList_append, List.mem_append, not_or]
    exact ⟨hn.1.no_slash, by decide⟩
  · rw [List.mem_singleton.mp hp]
    exact parts_join_name (hm.childDir hn) (by decide) (by decide)

theorem parts_parent {p : Path} (hp : outputName ∉ Path.parts p) :
    outputName ∉ Path.parts (p.parent?.getD ".") := by
  cases hparent : p.parent? with
  | none => decide
  | some q => exact fun hmem => hp (Path.parts_parent? hparent hmem)

end Paths

/-! ## Questions to the graph -/

section Written

variable {fs : FileSystem} {dir : Place} {cr : Crate} (h : Apart fs dir) (c : Content)
include h

theorem Apart.declaredChild_written {m : Module} (hm : m.Clear) {n : String} (hn : Plain n)
    (d : SourceFile × Node × Bool) :
    CrateGraph.declaredChild (fs.putFile (dir ++ [outputName]) c) m n d =
      CrateGraph.declaredChild fs m n d := by
  obtain ⟨source, item, isInline⟩ := d
  rw [CrateGraph.declaredChild, CrateGraph.declaredChild,
    h.firstSource_written c (hm.childFiles hn)]

omit h in
theorem clear_declaredChild {m found : Module} (hm : m.Clear) {n : String} (hn : Plain n)
    {d : SourceFile × Node × Bool}
    (hfound : CrateGraph.declaredChild fs m n d = .ok (some found)) : found.Clear := by
  obtain ⟨source, item, isInline⟩ := d
  rw [CrateGraph.declaredChild] at hfound
  cases isInline with
  | true =>
      cases hfound
      exact hm.childDir hn
  | false =>
      simp only [Bool.false_eq_true, if_false] at hfound
      rcases hfile : firstSource fs [m.dir.join (n ++ ".rs"), (m.dir.join n).join "mod.rs"]
        with f | (_ | file)
      · rw [hfile] at hfound; cases hfound
      · rw [hfile] at hfound; cases hfound
      · rw [hfile] at hfound
        cases hfound
        exact hm.childDir hn

theorem Apart.alike_child {m : Module} (hm : m.Clear) {n : String} (hn : Plain n) :
    Alike (CrateGraph.Clear cr) (fun o => ∀ found, o = some found → found.Clear)
      (CrateGraph.child fs m n) (CrateGraph.child (fs.putFile (dir ++ [outputName]) c) m n) := by
  rw [CrateGraph.child, CrateGraph.child]
  refine alike_graph.bind fun g hg => ?_
  cases hkept : g.module? (m.childName n) with
  | some kept =>
      refine alike_pure ?_
      rintro found ⟨⟩
      exact hg.modules _ _ hkept
  | none =>
      cases m.childDeclaration? n with
      | none => exact alike_pure (by simp)
      | some d =>
          simp only [h.declaredChild_written c hm hn]
          refine Alike.bind (P := fun o => ∀ found, o = some found → found.Clear)
            (alike_lift ?_) fun o ho => ?_
          · rintro o ho found rfl
            exact clear_declaredChild hm hn ho
          · cases o with
            | some found =>
                have hfound := ho found rfl
                exact (alike_change fun g' hg' => hg'.keep _ hfound).bind fun _ _ =>
                  alike_pure (by simpa using hfound)
            | none => exact (alike_report _).bind fun _ _ => alike_pure (by simp)

theorem Apart.rootFile_graph (hcr : cr.Clear fs) {g : CrateGraph} (hg : g.Clear cr)
    (n : String) :
    CrateGraph.rootFile (fs.putFile (dir ++ [outputName]) c) g n =
      CrateGraph.rootFile fs g n := by
  rw [CrateGraph.rootFile, CrateGraph.rootFile]
  split
  · rfl
  · rcases hdep : g.localCrate.dependency? n with _ | ⟨name, _ | d⟩
    · rfl
    · rfl
    · rw [hg.localCrate] at hdep
      have hclear := hcr.dependency _ (List.mem_of_find?_eq_some hdep) d rfl
      have hfree : outputName ∉ Path.parts (d.join manifestName) :=
        parts_join_name hclear (by decide) (by decide)
      have hcanonical : (fs.putFile (dir ++ [outputName]) c).canonical (d.join manifestName) =
          fs.canonical (d.join manifestName) := by
        rw [FileSystem.canonical, FileSystem.canonical, FileSystem.place, FileSystem.place,
          h.sole.walk_eq c hfree]
      simp only [h.load_written c hcanonical]

omit h in
theorem clear_rootFile (hcr : cr.Clear fs) {g : CrateGraph} (hg : g.Clear cr) {n : String}
    {p : Path} (hp : (CrateGraph.rootFile fs g n).2 = .ok (some (some p))) :
    outputName ∉ Path.parts p := by
  rw [CrateGraph.rootFile] at hp
  split at hp
  · rw [hg.localCrate] at hp
    exact hcr.root p (Option.some.inj (Except.ok.inj hp))
  · rcases hdep : g.localCrate.dependency? n with _ | ⟨name, _ | d⟩
    · rw [hdep] at hp; cases hp
    · rw [hdep] at hp; cases hp
    · rw [hdep] at hp
      simp only at hp
      rw [hg.localCrate] at hdep
      rcases hload : (Crate.load fs (d.join manifestName)).2 with f | (_ | other)
      · rw [hload] at hp; cases hp
      · rw [hload] at hp; cases hp
      · rw [hload] at hp
        exact hcr.dependencyRoot _ (List.mem_of_find?_eq_some hdep) d rfl other p hload
          (Option.some.inj (Except.ok.inj hp))

theorem Apart.alike_crateRoot (hcr : cr.Clear fs) (n : String) :
    Alike (CrateGraph.Clear cr) (fun o => ∀ m, o = some (.readable m) → m.Clear)
      (CrateGraph.crateRoot fs n)
      (CrateGraph.crateRoot (fs.putFile (dir ++ [outputName]) c) n) := by
  rw [CrateGraph.crateRoot, CrateGraph.crateRoot]
  refine alike_graph.bind fun g hg => ?_
  rw [h.rootFile_graph c hcr hg]
  by_cases hclosed : (toolchainCrates.contains n || g.sealedCrates.contains n) = true
  · simp only [hclosed, if_true]
    exact alike_pure (by simp)
  · simp only [hclosed, if_false, Bool.false_eq_true]
    cases hkept : g.module? (if n == CrateGraph.selfName then g.localCrate.ident else n) with
    | some kept =>
        refine alike_pure ?_
        rintro m ⟨⟩
        exact hg.modules _ _ hkept
    | none =>
        refine (alike_reportAll _).bind fun _ _ => ?_
        refine Alike.bind (P := fun o => ∀ p, o = some (some p) → outputName ∉ Path.parts p)
          (alike_lift ?_) fun o ho => ?_
        · rintro o ho p rfl
          exact clear_rootFile hcr hg ho
        · rcases o with _ | (_ | p)
          · exact alike_pure (by simp)
          · exact (alike_report _).bind fun _ _ =>
              (alike_change fun g' hg' => ⟨hg'.localCrate, hg'.modules⟩).bind fun _ _ =>
                alike_pure (by simp)
          · have hp := ho p rfl
            simp only [h.loadSource_written c hp]
            refine Alike.bind (P := fun _ => True) (alike_lift fun _ _ => trivial) fun o _ => ?_
            cases o with
            | none =>
                exact (alike_change fun g' hg' => ⟨hg'.localCrate, hg'.modules⟩).bind fun _ _ =>
                  alike_pure (by simp)
            | some source =>
                have hm := parts_parent hp
                exact (alike_change fun g' hg' => hg'.keep _ hm).bind fun _ _ =>
                  alike_pure (by rintro m ⟨⟩; exact hm)

/-! ## Imports -/

/-- The modules in the target are clear, and so is what they are asked for. -/
def ImportTarget.Clear : ImportTarget → Prop
  | .module m => m.Clear
  | .item m name => m.Clear ∧ Plain name
  | .sealed => True

def ImportTable.Clear (t : ImportTable) : Prop := ∀ e ∈ t.entries, e.2.Clear

omit h in
theorem ImportTable.Clear.insert {t : ImportTable} (ht : t.Clear) (name : String)
    {target : ImportTarget} (htarget : target.Clear) : (t.insert name target).Clear := by
  intro e he
  rcases List.mem_cons.mp he with rfl | he
  · exact htarget
  · exact ht e (List.mem_filter.mp he).1

omit h in
theorem ImportTable.Clear.get? {t : ImportTable} (ht : t.Clear) {name : String}
    {target : ImportTarget} (hget : t.get? name = some target) : target.Clear := by
  obtain ⟨e, he, rfl⟩ := Option.map_eq_some_iff.mp hget
  exact ht e (List.mem_of_find?_eq_some he)

theorem Apart.alike_descend {m : Module} (hm : m.Clear) {path : List String}
    (hpath : ∀ s ∈ path, Plain s) :
    Alike (CrateGraph.Clear cr) (fun o => ∀ found, o = some found → found.Clear)
      (Import.descend fs m path)
      (Import.descend (fs.putFile (dir ++ [outputName]) c) m path) := by
  induction path generalizing m with
  | nil =>
      refine alike_pure ?_
      rintro found ⟨⟩
      exact hm
  | cons s path ih =>
      rw [Import.descend, Import.descend]
      refine (h.alike_child c hm (hpath s (List.mem_cons_self ..))).bind fun o ho => ?_
      cases o with
      | none => exact alike_pure (by simp)
      | some next => exact ih (ho next rfl) fun s' hs' => hpath s' (List.mem_cons_of_mem s hs')

theorem Apart.alike_targetIn (written : String) {m : Module} (hm : m.Clear) {path : List String}
    (hpath : ∀ s ∈ path, Plain s) :
    Alike (CrateGraph.Clear cr) ImportTarget.Clear (Import.targetIn fs written m path)
      (Import.targetIn (fs.putFile (dir ++ [outputName]) c) written m path) := by
  rw [Import.targetIn, Import.targetIn]
  cases hlast : path.getLast? with
  | none => exact alike_pure hm
  | some last =>
      have hplain : Plain last := hpath last (List.mem_of_getLast? hlast)
      refine (h.alike_descend c hm fun s hs => hpath s ((List.dropLast_sublist _).subset hs)).bind
        fun o ho => ?_
      cases o with
      | none => exact alike_throw _
      | some found =>
          have hfound := ho found rfl
          refine (h.alike_child c hfound hplain).bind fun o ho => ?_
          cases o with
          | some target => exact alike_pure (ho target rfl)
          | none => exact alike_pure ⟨hfound, hplain⟩

theorem Apart.alike_import (hcr : cr.Clear fs) {here : Module} (hhere : here.Clear)
    {i : FlatImport} (hi : ∀ s ∈ i.segments, Plain s) :
    Alike (CrateGraph.Clear cr) ImportTarget.Clear (Import.resolve fs here i)
      (Import.resolve (fs.putFile (dir ++ [outputName]) c) here i) := by
  rw [Import.resolve, Import.resolve]
  cases hsegs : i.segments with
  | nil => exact alike_throw _
  | cons first rest =>
      simp only
      rw [hsegs] at hi
      split
      · exact h.alike_targetIn c _ hhere fun s hs =>
          hi s ((List.dropWhile_sublist _).subset hs)
      · refine (h.alike_crateRoot c hcr first).bind fun o ho => ?_
        match o with
        | none => exact alike_throw _
        | some .sealed => exact alike_pure trivial
        | some (.readable m) =>
            exact h.alike_targetIn c _ (ho m rfl) fun s hs => hi s (List.mem_cons_of_mem first hs)

theorem Apart.alike_bindAll (hcr : cr.Clear fs) {here : Module} (hhere : here.Clear)
    {imports : List FlatImport} (hi : ∀ i ∈ imports, ∀ s ∈ i.segments, Plain s)
    {table : ImportTable} (htable : table.Clear) :
    Alike (CrateGraph.Clear cr) (fun r => r.1.Clear) (Import.bindAll fs here table imports)
      (Import.bindAll (fs.putFile (dir ++ [outputName]) c) here table imports) := by
  induction imports generalizing table with
  | nil => exact alike_pure htable
  | cons i imports ih =>
      have hrest := fun j hj => hi j (List.mem_cons_of_mem i hj)
      rw [Import.bindAll, Import.bindAll]
      refine (h.alike_import c hcr hhere (hi i (List.mem_cons_self ..))).attempt.bind
        fun r hr => ?_
      cases r with
      | ok target =>
          exact (alike_report _).bind fun _ _ => ih hrest (htable.insert _ (hr target rfl))
      | error f => exact (ih hrest htable).bind fun r hr => alike_pure hr

theorem Apart.alike_bindItems (hcr : cr.Clear fs) {here : Module} (hhere : here.Clear)
    {trees : List UseTree}
    (hi : ∀ tree ∈ trees, ∀ i ∈ (FlatImport.flatten tree).1, ∀ s ∈ i.segments, Plain s)
    {table : ImportTable} (htable : table.Clear) :
    Alike (CrateGraph.Clear cr) (fun r => r.1.Clear) (Import.bindItems fs here table trees)
      (Import.bindItems (fs.putFile (dir ++ [outputName]) c) here table trees) := by
  induction trees generalizing table with
  | nil => exact alike_pure htable
  | cons tree trees ih =>
      rw [Import.bindItems, Import.bindItems]
      refine (alike_reportAll _).bind fun _ _ => ?_
      refine (h.alike_bindAll c hcr hhere (hi tree (List.mem_cons_self ..)) htable).bind
        fun r hr => ?_
      refine (ih (fun t ht => hi t (List.mem_cons_of_mem tree ht)) hr).bind fun r hr => ?_
      exact alike_pure hr

theorem Apart.alike_build (hcr : cr.Clear fs) {here : Module} (hhere : here.Clear)
    {items : List Node}
    (hi : ∀ tree ∈ items.filterMap Import.treeOf?, ∀ i ∈ (FlatImport.flatten tree).1,
      ∀ s ∈ i.segments, Plain s) :
    Alike (CrateGraph.Clear cr) ImportTable.Clear (ImportTable.build fs here items)
      (ImportTable.build (fs.putFile (dir ++ [outputName]) c) here items) := by
  rw [ImportTable.build, ImportTable.build]
  have hempty : ImportTable.empty.Clear := by
    intro e he
    cases he
  refine (h.alike_bindItems c hcr hhere hi hempty).bind fun r hr => ?_
  obtain ⟨table, failures⟩ := r
  simp only
  cases Failure.join? failures with
  | some f => exact alike_throw f
  | none => exact alike_pure hr

/-! ## Arguments -/

/-- A module that was found is clear. -/
def Resolution.Lookup.Clear : Resolution.Lookup → Prop
  | .found m => m.Clear
  | .skip _ => True

theorem Apart.alike_crateLookup (hcr : cr.Clear fs) (first : String) :
    Alike (CrateGraph.Clear cr) Resolution.Lookup.Clear (Resolution.crateLookup fs first)
      (Resolution.crateLookup (fs.putFile (dir ++ [outputName]) c) first) := by
  rw [Resolution.crateLookup, Resolution.crateLookup]
  refine (h.alike_crateRoot c hcr first).bind fun o ho => ?_
  match o with
  | some (.readable m) => exact alike_pure (ho m rfl)
  | some .sealed => exact alike_pure trivial
  | none => exact alike_pure trivial

theorem Apart.alike_aliasRoot (hcr : cr.Clear fs) {imports : ImportTable}
    (himports : imports.Clear) (first : String) :
    Alike (CrateGraph.Clear cr) Resolution.Lookup.Clear (Resolution.aliasRoot fs imports first)
      (Resolution.aliasRoot (fs.putFile (dir ++ [outputName]) c) imports first) := by
  rw [Resolution.aliasRoot, Resolution.aliasRoot]
  split
  · exact h.alike_crateLookup c hcr first
  · cases hget : imports.get? first with
    | none => exact h.alike_crateLookup c hcr first
    | some target =>
        have htarget := himports.get? hget
        cases target with
        | module m => exact alike_pure htarget
        | sealed => exact alike_pure trivial
        | item m name =>
            refine (h.alike_child c htarget.1 htarget.2).bind fun o ho => ?_
            cases o with
            | some found => exact alike_pure (ho found rfl)
            | none => exact alike_pure trivial

theorem Apart.alike_below (written : String) {m : Module} (hm : m.Clear) {path : List String}
    (hpath : ∀ s ∈ path, Plain s) :
    Alike (CrateGraph.Clear cr) Resolution.Lookup.Clear (Resolution.below fs written m path)
      (Resolution.below (fs.putFile (dir ++ [outputName]) c) written m path) := by
  rw [Resolution.below, Resolution.below]
  refine (h.alike_descend c hm hpath).bind fun o ho => ?_
  cases o with
  | some found => exact alike_pure (ho found rfl)
  | none => exact alike_pure trivial

theorem Apart.alike_qualified (hcr : cr.Clear fs) {here : Module} (hhere : here.Clear)
    {imports : ImportTable} (himports : imports.Clear) (written : String)
    {qualifier : List String} (hq : ∀ s ∈ qualifier, Plain s) :
    Alike (CrateGraph.Clear cr) Resolution.Lookup.Clear
      (Resolution.qualified fs here imports written qualifier)
      (Resolution.qualified (fs.putFile (dir ++ [outputName]) c) here imports written
        qualifier) := by
  cases qualifier with
  | nil => exact alike_pure hhere
  | cons first rest =>
      unfold Resolution.qualified
      simp only
      split
      · exact h.alike_below c _ hhere fun s hs => hq s ((List.dropWhile_sublist _).subset hs)
      · refine (h.alike_aliasRoot c hcr himports first).bind fun o ho => ?_
        cases o with
        | found m => exact h.alike_below c _ ho fun s hs => hq s (List.mem_cons_of_mem first hs)
        | skip reason => exact alike_pure trivial

theorem Apart.alike_argument (hcr : cr.Clear fs) (script : SourceFile) {here : Module}
    (hhere : here.Clear) {imports : ImportTable} (himports : imports.Clear) {argument : Node}
    (hargument : ∀ literal segments, Resolution.literal? argument = some (literal, segments) →
      ∀ s ∈ segments.dropLast, Plain s) :
    Alike (CrateGraph.Clear cr) (fun _ => True)
      (Resolution.resolve fs script here imports argument)
      (Resolution.resolve (fs.putFile (dir ++ [outputName]) c) script here imports
        argument) := by
  rw [Resolution.resolve, Resolution.resolve]
  match hliteral : Resolution.literal? argument with
  | none => exact alike_pure trivial
  | some (literal, segments) =>
      simp only
      cases segments.getLast? with
      | none => exact alike_pure trivial
      | some name =>
          simp only
          rw [Resolution.locate, Resolution.locate]
          refine Alike.bind (P := fun _ => True) ?_ fun o _ => ?_
          · split
            · exact alike_pure trivial
            · refine (h.alike_qualified c hcr hhere himports _
                (hargument literal segments hliteral)).bind fun o _ => ?_
              cases o with
              | found m => exact alike_pure trivial
              | skip reason => exact alike_pure trivial
          · match o with
            | .error reason => exact alike_pure trivial
            | .ok (m, declared) => exact alike_pure trivial

theorem Apart.alike_resolveAll (hcr : cr.Clear fs) (script : SourceFile) {here : Module}
    (hhere : here.Clear) {imports : ImportTable} (himports : imports.Clear)
    {arguments : List Script.Argument}
    (hargs : ∀ a ∈ arguments, ∀ literal segments,
      Resolution.literal? a.expr = some (literal, segments) → ∀ s ∈ segments.dropLast, Plain s) :
    Alike (CrateGraph.Clear cr) (fun _ => True)
      (Resolution.resolveAll fs script here imports arguments)
      (Resolution.resolveAll (fs.putFile (dir ++ [outputName]) c) script here imports
        arguments) := by
  induction arguments with
  | nil => exact alike_pure trivial
  | cons a arguments ih =>
      have hrest := ih fun b hb => hargs b (List.mem_cons_of_mem a hb)
      rw [Resolution.resolveAll, Resolution.resolveAll]
      refine (h.alike_argument c hcr script hhere himports
        (hargs a (List.mem_cons_self ..))).bind fun o _ => ?_
      cases o with
      | ok d => exact hrest.bind fun _ _ => alike_pure trivial
      | error reason =>
          exact (alike_report _).bind fun _ _ => hrest.bind fun _ _ => alike_pure trivial

end Written

/-! ## A generation on the old files and on the new ones -/

namespace Generation

/-- Nothing that a generation looks for leads to its output: the script and the
output are files and no links, the name of the output is on no other path, and the
paths in the script have no segment of its name. -/
structure Unasked (fs : FileSystem) (dir : Place) (setup : Setup) (e : Script.Extraction) :
    Prop where
  apart : Apart fs dir
  here : setup.here.Clear
  crate : setup.crate.Clear fs
  imports : ∀ tree ∈ e.imports.filterMap Import.treeOf?, ∀ i ∈ (FlatImport.flatten tree).1,
    ∀ s ∈ i.segments, Plain s
  arguments : ∀ a ∈ e.arguments, ∀ p ∈ Resolution.literal? a.expr, ∀ s ∈ p.2.dropLast, Plain s

section Again

variable {fs : FileSystem} {dir : Place} {setup : Setup} {e : Script.Extraction} {root : Path}
  {strict? : Option Bool}

theorem Unasked.resolveArguments_written (h : Unasked fs dir setup e) (c : Content) :
    resolveArguments (fs.putFile (dir ++ [outputName]) c) setup e =
      resolveArguments fs setup e := by
  have hgraph : (CrateGraph.new setup.crate).Clear setup.crate :=
    ⟨rfl, fun k m hm => by cases hm⟩
  have hstep := (h.apart.alike_build c h.crate h.here h.imports).bind fun table htable =>
    h.apart.alike_resolveAll c h.crate setup.script h.here htable
      fun a ha literal segments hliteral => h.arguments a ha (literal, segments) hliteral
  rw [resolveArguments, resolveArguments]
  simp only [Explore.runOn, (hstep ⟨.new setup.crate, []⟩ hgraph).1]

/-- What a script was loaded from. -/
theorem load_ok (h : (load fs root strict?).2 = .ok setup) :
    ∃ canonical scripts script, fs.canonical root = .ok canonical ∧
      (Discovery.scripts fs canonical).2 = .ok scripts ∧ single root scripts = .ok script ∧
      LocalModule.load fs script (moduleName setup.crate (script.parent?.getD canonical)) =
        .ok setup.here := by
  rw [load] at h
  obtain ⟨canonical, hcanonical, h⟩ := Reported.ok_of_bind h
  obtain ⟨scripts, hscripts, h⟩ := Reported.ok_of_bind h
  obtain ⟨script, hscript, h⟩ := Reported.ok_of_bind h
  obtain ⟨-, -, h⟩ := Reported.ok_of_bind h
  obtain ⟨crate, -, h⟩ := Reported.ok_of_bind h
  obtain ⟨here, hhere, h⟩ := Reported.ok_of_bind h
  have hsetup : setup.crate = crate ∧ setup.here = here := by
    split at h
    · cases h
    · cases h
      exact ⟨rfl, rfl⟩
  refine ⟨canonical, scripts, script, ?_, hscripts, hscript, ?_⟩
  · match hfs : fs.canonical root with
    | .ok p =>
        rw [hfs] at hcanonical
        cases hcanonical
        rfl
    | .error e =>
        rw [hfs] at hcanonical
        cases hcanonical
  · rw [hsetup.1, hsetup.2]
    exact hhere

theorem open_of_load {script : Path} {name : String} {m : Module}
    (h : LocalModule.load fs script name = .ok m) :
    m.dir = script.parent?.getD "." ∧ ∃ place, fs.openDirectory m.dir = .ok place := by
  rw [LocalModule.load] at h
  match hopen : fs.openDirectory (script.parent?.getD ".") with
  | .error e =>
      rw [hopen] at h
      cases e <;> cases h
  | .ok place =>
      rw [hopen] at h
      have hdir : m.dir = script.parent?.getD "." := by
        match hread : LocalModule.readUnits fs place (script.parent?.getD ".")
            (LocalModule.fileNames (((fs.root.get? place).map Entry.children).getD [])) with
        | .error f =>
            simp only [hread, bind, Except.bind] at h
            cases h
        | .ok (units, diagnostics) =>
            simp only [hread, bind, Except.bind] at h
            split at h
            · cases h
              rfl
            · cases h
      exact ⟨hdir, place, hdir ▸ hopen⟩

theorem open_of_scripts {scripts : List Path} (h : (Discovery.scripts fs root).2 = .ok scripts) :
    ∃ place, fs.openDirectory root = .ok place := by
  rw [Discovery.scripts] at h
  cases hopen : fs.openDirectory root with
  | ok place => exact ⟨place, rfl⟩
  | error e =>
      rw [hopen] at h
      cases e <;> cases h

theorem load_written (h : Apart fs dir) (c : Content)
    (hload : (load fs root strict?).2 = .ok setup)
    (hdir : fs.openDirectory setup.here.dir = .ok dir) :
    load (fs.putFile (dir ++ [outputName]) c) root strict? = load fs root strict? := by
  obtain ⟨canonical, scripts, script, hcanonical, hscripts, hscript, hhere⟩ := load_ok hload
  obtain ⟨place, hplace⟩ := open_of_scripts hscripts
  rw [(open_of_load hhere).1] at hdir
  have hcanonical' : (fs.putFile (dir ++ [outputName]) c).canonical root = .ok canonical := by
    rw [FileSystem.canonical] at hcanonical ⊢
    cases hroot : fs.place root with
    | error e =>
        rw [hroot] at hcanonical
        cases hcanonical
    | ok q => rw [h.sole.place_written c hroot, ← hcanonical, hroot]
  rw [load, load, hcanonical', hcanonical]
  refine Reported.bind_congr fun p hp => ?_
  obtain rfl : canonical = p := Except.ok.inj hp
  rw [h.scripts_written c hplace]
  refine Reported.bind_congr fun found hfound => ?_
  obtain rfl : scripts = found := Except.ok.inj (hscripts.symm.trans hfound)
  refine Reported.bind_congr fun only honly => ?_
  obtain rfl : script = only := Except.ok.inj (hscript.symm.trans honly)
  refine Reported.bind_congr fun _ _ => ?_
  simp only [h.locate_written c, h.load_module_written c _ hdir]

theorem Unasked.render_written (h : Unasked fs dir setup e) (c : Content)
    (hload : (load fs root strict?).2 = .ok setup)
    (hextract : (Script.extract setup.script).2 = .ok e)
    (hdir : fs.openDirectory setup.here.dir = .ok dir) :
    render (fs.putFile (dir ++ [outputName]) c) root strict? = render fs root strict? := by
  rw [render, render, load_written h.apart c hload hdir]
  refine Reported.bind_congr fun loaded hloaded => ?_
  obtain rfl : setup = loaded := Except.ok.inj (hload.symm.trans hloaded)
  rw [renderSetup, renderSetup]
  refine Reported.bind_congr fun extracted hextracted => ?_
  obtain rfl : e = extracted := Except.ok.inj (hextract.symm.trans hextracted)
  rw [h.resolveArguments_written c]

theorem isName_output : FileSystem.IsName outputName :=
  ⟨by decide, by decide, by decide, by decide⟩

theorem write_output (script : Path) {text : String}
    (hdir : fs.openDirectory (script.parent?.getD ".") = .ok dir) :
    write fs ((script.parent?.getD ".").join outputName) text =
      (fs.writeBelow dir outputName text).mapError
        (.file ((script.parent?.getD ".").join outputName)) := by
  have hsplit : ((script.parent?.getD ".").join outputName).parent? =
        some (script.parent?.getD ".") ∧
      ((script.parent?.getD ".").join outputName).fileName? = some outputName := by
    cases hparent : script.parent? with
    | none => exact ⟨by decide, by decide⟩
    | some q =>
        exact ⟨Path.parent?_join hparent isName_output.noSlash isName_output.notIdle,
          Path.fileName?_join hparent isName_output.noSlash isName_output.notIdle
            isName_output.notUp⟩
  rw [write, hsplit.1, hsplit.2]
  simp only [hdir, Except.mapError, bind, Except.bind]

theorem render_ok {r : Rendered} (h : (render fs root strict?).2 = .ok r) :
    ∃ setup e, (load fs root strict?).2 = .ok setup ∧
      (Script.extract setup.script).2 = .ok e ∧
      r.outputPath = setup.here.dir.join outputName := by
  rw [render] at h
  obtain ⟨setup, hload, h⟩ := Reported.ok_of_bind h
  rw [renderSetup] at h
  obtain ⟨e, hextract, h⟩ := Reported.ok_of_bind h
  obtain ⟨⟨declarations, skipped⟩, -, h⟩ := Reported.ok_of_bind h
  refine ⟨setup, e, hload, hextract, ?_⟩
  simp only at h
  split at h
  · cases h
  · obtain ⟨⟨aggregate, text⟩, -, h⟩ := Reported.ok_of_bind h
    cases h
    rfl

theorem generate_ok {r : Rendered} {fs' : FileSystem}
    (h : (generate fs root strict?).2 = .ok (r, fs')) :
    (render fs root strict?).2 = .ok r ∧ write fs r.outputPath r.text = .ok fs' := by
  rw [generate] at h
  obtain ⟨rendered, hrender, h⟩ := Reported.ok_of_bind h
  obtain ⟨written, hwrite, h⟩ := Reported.ok_of_bind h
  obtain ⟨-, -, h⟩ := Reported.ok_of_bind h
  cases h
  exact ⟨hrender, hwrite⟩

/-- The text is where the name of the output leads from the script's directory, and
all else is as it was. -/
structure Wrote (fs fs' : FileSystem) (dir place : Place) (text : String) : Prop where
  leads : fs.LeadsTo dir outputName place
  beside : (∀ target, fs.root.get? (dir ++ [outputName]) ≠ some (.link target)) →
    place = dir ++ [outputName]
  written : fs' = fs.putFile place (.text text)
  text : fs'.root.get? place = some (.file (.text text))
  elsewhere : ∀ q, q ≠ place → (fs'.root.get? q).map Entry.bare = (fs.root.get? q).map Entry.bare

theorem wrote_of_writeBelow {fs' : FileSystem} {text : String} {es : List (String × Entry)}
    (hdir : fs.root.get? dir = some (.directory es))
    (h : fs.writeBelow dir outputName text = .ok fs') : ∃ place, Wrote fs fs' dir place text := by
  obtain ⟨place, hleads, rfl, hsame⟩ := FileSystem.writeBelow_ok hdir h
  exact ⟨place, hleads, hleads.eq isName_output hdir, rfl, Entry.get?_put_self _ _ _,
    hsame.elsewhere⟩

/-- A second run does what the first one did. -/
theorem Unasked.generate_written (h : Unasked fs dir setup e) {r : Rendered} {fs' : FileSystem}
    {script : Path} (hload : (load fs root strict?).2 = .ok setup)
    (hextract : (Script.extract setup.script).2 = .ok e)
    (hscript : setup.here.dir = script.parent?.getD ".")
    (hdir : fs.openDirectory setup.here.dir = .ok dir)
    (hpath : r.outputPath = setup.here.dir.join outputName)
    (hfs : fs' = fs.putFile (dir ++ [outputName]) (.text r.text))
    (hrender : (render fs root strict?).2 = .ok r)
    (hwrite : write fs r.outputPath r.text = .ok fs') :
    generate fs' root strict? = generate fs root strict? := by
  have hdir' := h.apart.sole.openDirectory_written (.text r.text) hdir
  obtain ⟨-, es, hes⟩ := FileSystem.openDirectory_eq_ok_iff.mp hdir'
  have hagain : write fs' r.outputPath r.text = .ok fs' := by
    rw [hpath, hscript, write_output script (hscript ▸ hfs ▸ hdir'), hfs,
      isName_output.writeBelow_written hes]
    rfl
  rw [generate, generate, hfs, h.render_written _ hload hextract hdir, ← hfs]
  refine Reported.bind_congr fun rendered hrendered => ?_
  obtain rfl : r = rendered := Except.ok.inj (hrender.symm.trans hrendered)
  rw [hwrite, hagain]

end Again

/-- A generation that fails changes no file. One that succeeds writes its text where
the name of the output leads, which is beside the script unless there is a link, and
changes nothing else; and if nothing that it looks for leads to the output, the next
one with the same options reports and returns the same and changes nothing. -/
theorem generate_again (fs : FileSystem) (root : Path) (strict? : Option Bool) :
    (∀ f, (render fs root strict?).2 = .error f →
      (generate fs root strict?).2 = .error f ∧
        ∀ (o : Command.Options) (filter : Command.Filter), o.dir = root →
          (if o.strict then some true else none) = strict? →
            (Command.generate fs o filter).fs = fs) ∧
    ∀ r fs', (generate fs root strict?).2 = .ok (r, fs') →
      (render fs root strict?).2 = .ok r ∧
      ∃ canonical script setup e dir place,
        fs.canonical root = .ok canonical ∧ (Discovery.scripts fs canonical).2 = .ok [script] ∧
        fs.openDirectory (script.parent?.getD ".") = .ok dir ∧
        (load fs root strict?).2 = .ok setup ∧ (Script.extract setup.script).2 = .ok e ∧
        Wrote fs fs' dir place r.text ∧
        (Unasked fs dir setup e →
          place = dir ++ [outputName] ∧
            generate fs' root strict? = generate fs root strict?) := by
  constructor
  · intro f hf
    have hfail : (generate fs root strict?).2 = .error f := by
      rw [generate, Reported.snd_bind, hf]
      rfl
    refine ⟨hfail, ?_⟩
    rintro o filter rfl rfl
    rw [Command.generate]
    split
    · next events r fs' hgenerate =>
        rw [hgenerate] at hfail
        cases hfail
    · rfl
  · intro r fs' hgenerate
    obtain ⟨hrender, hwrite⟩ := generate_ok hgenerate
    obtain ⟨setup, e, hload, hextract, hpath⟩ := render_ok hrender
    obtain ⟨canonical, scripts, script, hcanonical, hscripts, hsingle, hhere⟩ := load_ok hload
    obtain rfl : scripts = [script] := by
      match scripts, hsingle with
      | [_], hsingle => rw [Except.ok.inj hsingle]
    obtain ⟨hscript, dir, hdir⟩ := open_of_load hhere
    obtain ⟨-, es, hes⟩ := FileSystem.openDirectory_eq_ok_iff.mp hdir
    have hbelow : fs.writeBelow dir outputName r.text = .ok fs' := by
      rw [hpath, hscript, write_output script (hscript ▸ hdir)] at hwrite
      match hw : fs.writeBelow dir outputName r.text with
      | .error err =>
          rw [hw] at hwrite
          cases hwrite
      | .ok written =>
          rw [hw] at hwrite
          exact congrArg _ (Except.ok.inj hwrite)
    obtain ⟨place, hwrote⟩ := wrote_of_writeBelow hes hbelow
    refine ⟨hrender, canonical, script, setup, e, dir, place, hcanonical, hscripts,
      hscript ▸ hdir, hload, hextract, hwrote, ?_⟩
    intro hunasked
    have hplace : place = dir ++ [outputName] := by
      refine hwrote.beside fun target hlink => ?_
      obtain ⟨c, hc⟩ := hunasked.apart.sole.file _ hlink
      cases hc
    exact ⟨hplace, hunasked.generate_written hload hextract hscript hdir hpath
      (hplace ▸ hwrote.written) hrender hwrite⟩

/-! ## A crate that can be looked through -/

/-- Whether a file lists no binary, if it is read as a manifest. A link is no such
file. -/
def listsNoBinary : Entry → Bool
  | .link _ => false
  | .file (.binary _) => true
  | .file (.text text) =>
      match Toml.read? text with
      | some (.dict es) => (Tree.find? "bin" es).isNone
      | _ => true
  | .directory _ => true

/-- A text that can be read is the content of a file. -/
theorem exists_text_of_readText {fs : FileSystem} {path : Path} {text : String}
    (h : fs.readText path = .ok text) :
    ∃ place, fs.root.get? place = some (.file (.text text)) := by
  rw [FileSystem.readText] at h
  cases hplace : fs.place path with
  | error e =>
      rw [hplace] at h
      cases h
  | ok place =>
      simp only [hplace, bind, Except.bind] at h
      refine ⟨place, ?_⟩
      rcases hget : fs.root.get? place with _ | ((s | b) | target | es) <;> rw [hget] at h <;>
        cases h
      rfl

theorem apart_of_leaves {fs : FileSystem} {dir : Place}
    (hleaves : fs.root.leaves.all listsNoBinary = true)
    {es : List (String × Entry)} (hdir : fs.root.get? dir = some (.directory es))
    (hscript : ∃ c, fs.root.get? (dir ++ [scriptName]) = some (.file c))
    (hnew : fs.root.get? (dir ++ [outputName]) = none)
    (hstart : fs.workingDirectory ≠ dir ++ [outputName])
    (hnames : ∀ x ∈ es, '/' ∉ x.1.toList) : Apart fs dir where
  sole :=
    { directory := ⟨es, hdir⟩
      file := fun e he => by rw [hnew] at he; cases he
      links := by
        intro place target hlink
        have hleaf := List.all_eq_true.mp hleaves _ (Entry.mem_leaves hlink (by simp))
        cases hleaf
      start := hstart
      notIdle := by decide
      notUp := by decide }
  script := hscript
  names := by
    intro es' hes'
    obtain rfl : es = es' := Entry.directory.inj (Option.some.inj (hdir.symm.trans hes'))
    exact hnames
  spares := by
    intro d read hread ts hbin
    rw [Manifest.entries] at hread
    cases htext : fs.readText (d.join manifestName) with
    | error e =>
        rw [htext] at hread
        cases hread
    | ok text =>
        obtain ⟨place, hplace⟩ := exists_text_of_readText htext
        have hleaf := List.all_eq_true.mp hleaves _ (Entry.mem_leaves hplace (by simp))
        simp only [listsNoBinary] at hleaf
        simp only [htext] at hread
        split at hread
        · next entries htoml =>
            rw [htoml] at hleaf
            simp only at hleaf
            split at hread
            · obtain rfl := Except.ok.inj hread
              rw [hbin] at hleaf
              cases hleaf
            · cases hread
        · cases hread

/-- A crate whose script names one struct by an import and one by its path. -/
def sample : FileSystem where
  root := .directory [("app", .directory [
    ("Cargo.toml", .file (.text "[package]\nname = \"demo\"\n")),
    ("src", .directory [
      ("lib.rs", .file (.text "pub mod net;\n")),
      ("net.rs", .file (.text "pub struct Net \x7b pub port: u16 \x7d\n")),
      ("settings", .directory [
        ("db.rs", .file (.text "pub struct Db \x7b pub url: u8 \x7d\n")),
        ("config.rs", .file (.text ("#![cfg(layercfg)]\nuse crate::net::Net;\nfn main() \x7b\n"
          ++ "    layercfg::build_configs!(Net \x7b port: 80 \x7d, self::Db \x7b url: 1 \x7d);\n"
          ++ "\x7d\n"))) ])])])]
  workingDirectory := []

theorem generate_again_sample :
    ∃ r fs', (generate sample "/app" none).2 = .ok (r, fs') ∧ r.skipped.length = 0 ∧
      generate fs' "/app" none = generate sample "/app" none := by
  have hrun : ((generate sample "/app" none).2.toOption.map fun p => p.1.skipped.length) =
      some 0 := by decide +kernel
  obtain ⟨⟨r, fs'⟩, hgenerate⟩ : ∃ p, (generate sample "/app" none).2 = .ok p := by
    cases hresult : (generate sample "/app" none).2 with
    | error f =>
        rw [hresult] at hrun
        cases hrun
    | ok p => exact ⟨p, rfl⟩
  rw [hgenerate] at hrun
  refine ⟨r, fs', hgenerate, Option.some.inj hrun, ?_⟩
  obtain ⟨-, canonical, script, setup, e, dir, place, hcanonical, hscripts, hdir, hload,
    hextract, -, hagain⟩ := (generate_again sample "/app" none).2 r fs' hgenerate
  have hplace : ((sample.canonical "/app").toOption.bind fun root =>
      (Discovery.scripts sample root).2.toOption.bind fun found => found.head?.bind fun s =>
        (sample.openDirectory (s.parent?.getD ".")).toOption) =
      some ["app", "src", "settings"] := by decide +kernel
  rw [hcanonical, Except.toOption, Option.bind_some, hscripts, Except.toOption,
    Option.bind_some, List.head?_cons, Option.bind_some, hdir] at hplace
  obtain rfl : dir = ["app", "src", "settings"] := Option.some.inj hplace
  have hsetup : ((load sample "/app" none).2.toOption.bind fun s =>
      (Script.extract s.script).2.toOption.map fun e =>
        (s.here.dir, s.crate.rootFile, s.crate.dependencies,
          decide (∀ tree ∈ e.imports.filterMap Import.treeOf?,
            ∀ i ∈ (FlatImport.flatten tree).1, ∀ s ∈ i.segments, Plain s),
          decide (∀ a ∈ e.arguments, ∀ p ∈ Resolution.literal? a.expr,
            ∀ s ∈ p.2.dropLast, Plain s))) =
      some ("/app/src/settings", some "/app/src/lib.rs", [], true, true) := by
    decide +kernel
  rw [hload, Except.toOption, Option.bind_some, hextract] at hsetup
  simp only [Except.toOption, Option.map_some, Option.some.injEq, Prod.mk.injEq,
    decide_eq_true_eq] at hsetup
  obtain ⟨hhere, hroot, hdeps, himports, harguments⟩ := hsetup
  refine (hagain ⟨?_, ?_, ⟨?_, ?_, ?_⟩, himports, harguments⟩).2
  · exact apart_of_leaves (by decide +kernel) rfl ⟨_, rfl⟩ rfl (by decide) (by decide)
  · rw [Module.Clear, hhere]
    decide +kernel
  · intro p hp
    obtain rfl := Option.some.inj (hroot.symm.trans hp)
    decide +kernel
  · rw [hdeps]
    simp
  · rw [hdeps]
    simp

end Generation

end Overlay.Generate
