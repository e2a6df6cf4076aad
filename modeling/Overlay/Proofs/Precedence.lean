import Overlay.Proofs.Binding
import Overlay.Proofs.Documents
import Overlay.Proofs.Merging
import Overlay.Proofs.PlainValues
import Overlay.Proofs.Settings

/-!
# Which layer counts

Initializing a service lays the file over its settings and the environment over
both, and then reads what came out. `init_precedence` says field by field what
that gives: the value of the environment, if it holds one there, else that of
the file, else the one that was there before. What makes it a statement about
fields is that reading keeps the plain value of every leaf and takes no
dictionary for one, so what was merged at a field is the value of one layer.

The layers are compared below a section, and for that the section has to be a
dictionary wherever it is given at all. Of the file this is asked. The
environment does not see to it: a variable may name a section as a whole, and
where the settings hold a dictionary the text of a list is read as a list. Such
a list gives all fields of its section by their places, and neither the file nor
the settings have a part in it. Nothing else can stand there, as a record is
read from a dictionary or a list only.
-/

namespace Overlay.Layer

open Overlay.Tree
open Files (FileSystem)

/-- The entries of the file that a marker names. Where there is no such file
there are none. -/
def fileEntries (fs : FileSystem) (m : Marker) : Entries :=
  match Configuration.markedFile fs m.filePath with
  | .ok (some (.ok es)) => es
  | _ => []

theorem fileEntries_ordered (fs : FileSystem) (m : Marker) :
    OrderedEntries (fileEntries fs m) := by
  rw [fileEntries]
  split
  · next es hfile =>
    cases hpath : m.filePath with
    | none => rw [hpath] at hfile; cases hfile
    | some path =>
        rw [hpath, Configuration.markedFile] at hfile
        cases hlayer : fileLayer fs path with
        | error e => rw [hlayer] at hfile; cases hfile
        | ok layer =>
            rw [hlayer] at hfile
            cases hfile
            exact fileLayer_ordered hlayer
  · trivial

/-- All layers, one over the other. -/
def layers (fs : FileSystem) (vars : Environment) (m : Marker) (base : Entries) :
    Entries :=
  mergeEntries (mergeEntries base (fileEntries fs m))
    (bind m.envPrefix (.dict base) vars)

/-- What is loaded is what the schema reads from all layers. -/
theorem load_ok {fs : FileSystem} {vars : Environment} {m : Marker}
    {c c' : Configuration} {base : Entries}
    (hplain : c.holding.plain = .ok (.dict base))
    (h : c.load fs vars m = .ok c') :
    ∃ value, c.schema.read (.dict (layers fs vars m base)) = .ok value ∧
      c' = ⟨c.schema, .tree value, m⟩ := by
  rw [Configuration.load, hplain] at h
  obtain ⟨defaults, hdefaults, h⟩ := bind_ok h
  cases hdefaults
  obtain ⟨file, hfile, h⟩ := bind_ok h
  obtain ⟨merged, hmerged, h⟩ := bind_ok h
  obtain ⟨value, hvalue, h⟩ := bind_ok h
  cases h
  refine ⟨value, ?_, rfl⟩
  have hlayers : merged = .dict (layers fs vars m base) := by
    rw [layers, fileEntries, hfile]
    match file with
    | none =>
        cases hmerged
        simp only [mergeEntries]
    | some (.ok es) =>
        cases hmerged
        rfl
    | some (.error e) => cases hmerged
  rw [← hlayers]
  cases hread : c.schema.read merged with
  | error e => rw [hread] at hvalue; cases hvalue
  | ok v =>
      rw [hread] at hvalue
      cases hvalue
      rfl

/-- At a path there is what the environment holds there, or else what the file
holds, or else what was there before. -/
def ByPrecedence (env file : Entries) (before after : Tree) (path : List String) :
    Prop :=
  (after.at? path).map plainValue =
    ((at? (.dict env) path).or
      ((at? (.dict file) path).or (before.at? path))).map plainValue

namespace Service

namespace Settings

theorem distinct_tree (c : Settings) : c.tree.Distinct := by
  simp [tree, Server.tree, Store.tree, Identity.tree, Distinct, DistinctEntries]

theorem tree_section (c : Settings) {s : String × Schema × Option Tree}
    (hs : s ∈ schema.fields) : (c.tree.at? [s.1]).all isDict = true := by
  have hall : (schema.fields.all fun s =>
      (c.tree.at? [s.1]).all isDict) = true := rfl
  exact List.all_eq_true.mp hall s hs

theorem tree_field (c : Settings) {s f : String × Schema × Option Tree}
    (hs : s ∈ schema.fields) (hf : f ∈ s.2.1.fields) :
    (c.tree.at? [s.1, f.1]).isSome = true := by
  have hall : (schema.fields.all fun s => s.2.1.fields.all fun f =>
      (c.tree.at? [s.1, f.1]).isSome) = true := rfl
  exact List.all_eq_true.mp (List.all_eq_true.mp hall s hs) f hf

end Settings

section Layers

variable {c : Settings} {base : Entries} {fs : FileSystem} {vars : Environment}
  {m : Marker} {s f : String × Schema × Option Tree}

theorem sectioned_base (hbase : c.tree.plainValue = .dict base)
    (hs : s ∈ schema.fields) : Sectioned base s.1 := by
  have hat : find? s.1 base = (c.tree.at? [s.1]).map plainValue := by
    rw [← at?_plainValue c.distinct_tree, hbase, at?_dict_cons]
    simp
  rw [Sectioned, hat, Option.all_map]
  simp only [isDict_plainValue]
  exact c.tree_section hs

theorem layers_at (hbase : c.tree.plainValue = .dict base) (hs : s ∈ schema.fields)
    (hfile : Sectioned (fileEntries fs m) s.1)
    (henv : Sectioned (bind m.envPrefix (.dict base) vars) s.1) (key : String) :
    at? (.dict (layers fs vars m base)) [s.1, key] =
      overlaid
        (overlaid ((c.tree.at? [s.1, key]).map plainValue)
          (at? (.dict (fileEntries fs m)) [s.1, key]))
        (at? (.dict (bind m.envPrefix (.dict base) vars)) [s.1, key]) := by
  have hordered := fileEntries_ordered fs m
  have hsection := sectioned_base hbase hs
  rw [layers, at?_mergeEntries (bind_ordered _ _ _)
      (sectioned_mergeEntries hordered hsection hfile) henv,
    at?_mergeEntries hordered hsection hfile, ← hbase,
    at?_plainValue c.distinct_tree]

/-- Where file and environment have a dictionary for a section or nothing at all,
the last layer that holds something at a field decides about it. -/
theorem read_layers_at (hbase : c.tree.plainValue = .dict base) {v : Tree}
    (h : schema.read (.dict (layers fs vars m base)) = .ok v)
    (hs : s ∈ schema.fields) (hf : f ∈ s.2.1.fields)
    (hfile : Sectioned (fileEntries fs m) s.1)
    (henv : Sectioned (bind m.envPrefix (.dict base) vars) s.1) :
    ByPrecedence (bind m.envPrefix (.dict base) vars) (fileEntries fs m)
      c.tree v [s.1, f.1] := by
  have hat := layers_at hbase hs hfile henv f.1
  obtain ⟨own, hown⟩ := Option.isSome_iff_exists.mp (c.tree_field hs hf)
  rw [hown, Option.map_some] at hat
  have hsome : (at? (.dict (layers fs vars m base)) [s.1, f.1]).isSome = true := by
    rw [hat]
    exact overlaid_isSome (overlaid_isSome rfl _) _
  obtain ⟨t, ht⟩ := Option.isSome_iff_exists.mp hsome
  obtain ⟨hleaf, hread⟩ := sections_schema.read_at h hs hf ht
  have hwins := congrArg (Option.map plainValue)
    (eq_of_overlaid_overlaid (hat.symm.trans ht) hleaf)
  rw [Option.map_or, Option.map_or, Option.map_some, plainValue_plainValue] at hwins
  rw [ByPrecedence, hread, hown, Option.map_or, Option.map_or]
  exact hwins.symm

/-- A leaf in the place of a section is a list, and it alone gives the fields. -/
theorem read_layers_list {v : Tree}
    (h : schema.read (.dict (layers fs vars m base)) = .ok v)
    (hs : s ∈ schema.fields)
    (henv : ¬ Sectioned (bind m.envPrefix (.dict base) vars) s.1) :
    ∃ items, find? s.1 (bind m.envPrefix (.dict base) vars) = some (.list items) ∧
      ∀ (i : Nat) f, s.2.1.fields[i]? = some f →
        (v.at? [s.1, f.1]).map plainValue =
          ((items[i]?).or f.2.2).map plainValue := by
  obtain ⟨t, ht, hleaf⟩ := not_sectioned henv
  have hfind : find? s.1 (layers fs vars m base) = some t := by
    rw [layers, find?_mergeEntries (bind_ordered _ _ _), ht, overlaid_leaf _ hleaf]
  obtain ⟨_, w, -, -, hread⟩ :=
    Schema.read_field h sections_schema.names_nodup hs hfind
  have hrecord := sections_schema.records s hs
  rcases Schema.kind_of_read hrecord hread with hdict | ⟨items, rfl⟩
  · rw [hleaf] at hdict
    cases hdict
  · exact ⟨items, ht, fun i f hf => sections_schema.read_at_list h hs hfind hf⟩

end Layers

theorem exists_ok {ε α : Type} {x : Except ε α} (h : x.toOption.isSome = true) :
    ∃ a, x = .ok a := by
  cases x with
  | error e => cases h
  | ok a => exact ⟨a, rfl⟩

/-- The text that a tree is. -/
def words : Option Tree → Option String
  | some (.text s) => some s
  | _ => none

/-- A successful initialization gives settings again. In a section for which the
environment has a dictionary or nothing, each field goes by precedence; in any
other section the environment has a list, and each field is its item. -/
theorem init_precedence {current : Settings} {marker : Marker} {fs : FileSystem}
    {vars : Environment} {options : List ConfigOption} {c : Configuration}
    (h : ((current.configuration marker).init fs vars options).2 = .ok c)
    (hfile : ∀ s ∈ schema.names,
      Sectioned (fileEntries fs (marker.applyAll options)) s) :
    let m := marker.applyAll options
    let file := fileEntries fs m
    let env := bind m.envPrefix current.tree.plainValue vars
    ∃ after : Settings, c = after.configuration m ∧
      ∀ s ∈ schema.fields,
        (Sectioned env s.1 → ∀ f ∈ s.2.1.fields,
          ByPrecedence env file current.tree after.tree [s.1, f.1]) ∧
        (¬ Sectioned env s.1 → ∃ items, find? s.1 env = some (.list items) ∧
          ∀ (i : Nat) f, s.2.1.fields[i]? = some f →
            (after.tree.at? [s.1, f.1]).map plainValue =
              ((items[i]?).or f.2.2).map plainValue) := by
  intro m file env
  obtain ⟨base, hbase⟩ : ∃ base, current.tree.plainValue = .dict base := ⟨_, rfl⟩
  have henv : env = bind m.envPrefix (.dict base) vars := by rw [← hbase]
  have hplain : (current.configuration marker).holding.plain = .ok (.dict base) :=
    congrArg Except.ok hbase
  obtain ⟨value, hread, rfl⟩ := load_ok hplain h
  obtain ⟨after, rfl⟩ := read_service hread
  refine ⟨after, rfl, ?_⟩
  intro s hs
  rw [henv]
  constructor
  · intro hsection f hf
    exact read_layers_at hbase hread hs hf
      (hfile s.1 (List.mem_map.mpr ⟨s, hs, rfl⟩)) hsection
  · intro hsection
    exact read_layers_list hread hs hsection

/-- A file that sets a port and a host. -/
def deployed : FileSystem :=
  ⟨.directory [("app.toml", .file (.text
    "http_server_config.port = \"82\"\nredis_config.host = \"store\"\n"))], []⟩

theorem init_precedence_deployed :
    ∃ after : Settings,
      ((Settings.initial.configuration .empty).init deployed
        [("app_http_server_config__port", "81")]
        [.configFile "/app.toml", .envPrefix "app_"]).2 =
          .ok (after.configuration ⟨some "APP", some "/app.toml"⟩) ∧
      after.server.port = "81" ∧ after.store.host = "store" ∧
      after.server.host = "0.0.0.0" := by
  obtain ⟨c, hc⟩ := exists_ok (x :=
    ((Settings.initial.configuration .empty).init deployed
      [("app_http_server_config__port", "81")]
      [.configFile "/app.toml", .envPrefix "app_"]).2) (by decide +kernel)
  have hfile : ∀ s ∈ schema.names, Sectioned (fileEntries deployed
      (Marker.empty.applyAll [.configFile "/app.toml", .envPrefix "app_"])) s := by
    decide +kernel
  obtain ⟨after, rfl, hall⟩ := init_precedence hc hfile
  have hserver := (hall ("http_server_config", Preset.httpServer, none)
    (.head _)).1 (by decide +kernel)
  have hstore := (hall ("redis_config", Preset.redis, none)
    (.tail _ (.head _))).1 (by decide +kernel)
  have hport : some after.server.port = some "81" :=
    (congrArg words (hserver ("port", .text, none) (.tail _ (.head _)))).trans
      (by decide +kernel)
  have hhost : some after.server.host = some "0.0.0.0" :=
    (congrArg words (hserver ("host", .text, none) (.head _))).trans
      (by decide +kernel)
  have hstoreHost : some after.store.host = some "store" :=
    (congrArg words (hstore ("host", .text, none) (.head _))).trans
      (by decide +kernel)
  exact ⟨after, hc, Option.some.inj hport, Option.some.inj hstoreHost,
    Option.some.inj hhost⟩

/-- A variable for a section as a whole. -/
def sectionVariable : Environment := [("HTTP_SERVER_CONFIG", "[\"h\",\"p\"]")]

/-- What a configuration holds at a path. -/
def held (path : List String) (c : Configuration) : Option Tree :=
  match c.holding with
  | .tree t => t.at? path
  | .keyed _ _ => none

/-- Without the restriction on the environment the layers do not decide: a
variable that names a section holds nothing at its fields, and yet it gives
them. -/
theorem not_byPrecedence_of_section_variable :
    ¬ ∀ (current : Settings) (marker : Marker) (fs : FileSystem)
        (vars : Environment) (options : List ConfigOption) (c : Configuration),
      ((current.configuration marker).init fs vars options).2 = .ok c →
      (∀ s ∈ schema.names,
        Sectioned (fileEntries fs (marker.applyAll options)) s) →
      ∃ after : Settings, c = after.configuration (marker.applyAll options) ∧
        ∀ s ∈ schema.fields, ∀ f ∈ s.2.1.fields,
          ByPrecedence
            (bind (marker.applyAll options).envPrefix current.tree.plainValue vars)
            (fileEntries fs (marker.applyAll options)) current.tree after.tree
            [s.1, f.1] := by
  intro hall
  obtain ⟨c, hc⟩ := exists_ok (x :=
    ((Settings.initial.configuration .empty).init ⟨.emptyDirectory, []⟩
      sectionVariable []).2) (by decide +kernel)
  have hread : words (((Settings.initial.configuration .empty).init
      ⟨.emptyDirectory, []⟩ sectionVariable []).2.toOption.bind
        (held ["http_server_config", "host"])) = some "h" := by
    decide +kernel
  obtain ⟨after, rfl, hlayers⟩ := hall _ _ _ _ _ c hc (by decide +kernel)
  rw [hc] at hread
  have hnew : some after.server.host = some "h" := hread
  have hold : some after.server.host = some "0.0.0.0" :=
    (congrArg words (hlayers ("http_server_config", Preset.httpServer, none)
      (.head _) ("host", .text, none) (.head _))).trans (by decide +kernel)
  have habsurd : some "h" = some "0.0.0.0" := hnew.symm.trans hold
  exact absurd habsurd (by decide)

end Service

end Overlay.Layer
