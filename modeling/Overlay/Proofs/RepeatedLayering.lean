import Overlay.Proofs.Precedence
import Overlay.Proofs.ReadBack

/-!
# Layering again

After an initialization the value is one that file and environment have already been
laid over. Laying the same file and environment over it once more changes nothing,
and it cannot fail either: `init_again`.

Two things could go wrong. The environment is typed by the current value, which is
another one now. But it only looks where the value has text, another leaf or a
dictionary, and in this all values of a schema agree (`SameForm`). And a field may
have come from below the file, where the new value stands now. There it stands in
its plain form, and that is read as what it was (`read_field_again`). The argument is
made for a field, then for a section, then for the whole; a section that file or
environment give as a list does not come from below at all.
-/

namespace Overlay.Tree

/-! ## Trees of one form -/

/-- Whether a tree is a dictionary, and whether it is text. -/
def form (t : Tree) : Bool × Bool := (t.isDict, t.isText)

/-- Both trees have dictionaries, text and other leaves at the same paths. -/
def SameForm (t u : Tree) : Prop := ∀ path, (t.at? path).map form = (u.at? path).map form

theorem SameForm.symm {t u : Tree} (h : SameForm t u) : SameForm u t := fun path => (h path).symm

theorem SameForm.at? {t u x : Tree} (h : SameForm t u) {path : List String}
    (hx : t.at? path = some x) : ∃ y, u.at? path = some y ∧ x.form = y.form := by
  have hpath := h path
  rw [hx, Option.map_some] at hpath
  obtain ⟨y, hy, hform⟩ := Option.map_eq_some_iff.mp hpath.symm
  exact ⟨y, hy, hform.symm⟩

theorem sameForm_of_leaf {t u : Tree} {b : Bool} (ht : t.form = (false, b))
    (hu : u.form = (false, b)) : SameForm t u := by
  intro path
  cases path with
  | nil => rw [at?_nil, at?_nil, Option.map_some, Option.map_some, ht, hu]
  | cons key path =>
      rw [at?_leaf_cons (congrArg Prod.fst ht), at?_leaf_cons (congrArg Prod.fst hu)]

theorem sameForm_dict {es fs : Entries}
    (h : List.Forall₂ (fun d e => d.1 = e.1 ∧ SameForm d.2 e.2) es fs) :
    SameForm (.dict es) (.dict fs) := by
  intro path
  cases path with
  | nil => rfl
  | cons key path =>
      rw [at?_dict_cons, at?_dict_cons]
      induction h with
      | nil => rfl
      | @cons d e es fs hentry _ ih =>
          obtain ⟨j, t⟩ := d
          obtain ⟨k, u⟩ := e
          obtain ⟨rfl, hform⟩ : j = k ∧ SameForm t u := hentry
          rw [find?, find?]
          split
          · exact hform path
          · exact ih

theorem form_plainValue (t : Tree) : t.plainValue.form = t.form := by
  cases t with
  | null | bool _ | text _ | list _ | dict _ => rfl
  | number n =>
      cases n with
      | unsigned n => rfl
      | signed i => rw [plainValue]; split <;> rfl
      | float d => rw [plainValue]; split <;> rfl

theorem SameForm.plainValue {t u : Tree} (h : SameForm t u) (ht : t.Distinct)
    (hu : u.Distinct) : SameForm t.plainValue u.plainValue := by
  intro path
  have hform : ∀ o : Option Tree, (o.map Tree.plainValue).map form = o.map form := by
    intro o
    cases o with
    | none => rfl
    | some x => exact congrArg some (form_plainValue x)
  rw [at?_plainValue ht, at?_plainValue hu, hform, hform]
  exact h path

/-! ## Layers over a dictionary -/

/-- A dictionary or nothing is merged into a dictionary entry by entry. -/
theorem overlaid_of_isDict {later : Option Tree} (hdict : later.all isDict = true)
    (hordered : ∀ t, later = some t → t.Ordered) :
    ∃ new, OrderedEntries new ∧
      ∀ old, overlaid (some (.dict old)) later = some (.dict (mergeEntries old new)) := by
  cases later with
  | none => exact ⟨[], trivial, fun old => by rw [overlaid_none, mergeEntries]⟩
  | some t =>
      cases t with
      | dict new => exact ⟨new, hordered _ rfl, fun old => by rw [overlaid, merge]⟩
      | null | bool _ | number _ | text _ | list _ => cases hdict

theorem find?_plainDict {es : Entries} (h : (es.map (·.1)).Nodup) (k : String) :
    find? k (inOrder (plainEntries es)) = (find? k es).map plainValue := by
  rw [find?_inOrder (by rwa [keys_plainEntries]), find?_plainEntries]

end Overlay.Tree

namespace Overlay.Layer

open Overlay.Tree
open Files (FileSystem)

/-! ## The environment -/

section SameForm

variable {t u : Tree} {envPrefix : Option String} {name : String} {path : List String}

theorem Bound.of_sameForm (h : SameForm t u) (hbound : Bound envPrefix t name path) :
    Bound envPrefix u name path where
  named := hbound.named
  filled := hbound.filled
  known := by
    obtain ⟨first, rest, x, hpath, hx⟩ := hbound.known
    obtain ⟨y, hy, -⟩ := h.at? hx
    exact ⟨first, rest, y, hpath, hy⟩
  reached := by
    intro outer houter hnil hne y hy
    obtain ⟨x, hx, hform⟩ := h.symm.at? hy
    have hdict := hbound.reached outer houter hnil hne x hx
    exact (congrArg Prod.fst hform).trans hdict

theorem valueFor_eq_ite (t : Tree) (path : List String) (raw : String) :
    valueFor t path raw =
      if ((t.at? path).map form).any (·.2) then .text raw else untypedValue raw := by
  rw [valueFor]
  cases t.at? path with
  | none => rfl
  | some x => cases x <;> rfl

/-- Variables are bound and typed by the form of the defaults alone. -/
theorem bind_of_sameForm (h : SameForm t u) (envPrefix : Option String) (vars : Environment) :
    bind envPrefix t vars = bind envPrefix u vars := by
  have hbinding : binding? envPrefix t = binding? envPrefix u := by
    funext ⟨name, raw⟩
    refine Option.ext fun ⟨path, v⟩ => ?_
    have hvalue : valueFor t path raw = valueFor u path raw := by
      rw [valueFor_eq_ite, valueFor_eq_ite, h path]
    rw [binding?_eq_some, binding?_eq_some, hvalue]
    exact and_congr_left fun _ => ⟨.of_sameForm h, .of_sameForm h.symm⟩
  rw [bind, bind, hbinding]

end SameForm

/-! ## Fields, sections and the whole -/

namespace Schema

/-- A field is read again from the layers over what it was read as. -/
theorem read_field_again {schema : Schema} (hleaf : schema.isLeaf = true)
    {own file env : Option Tree} {t v : Tree}
    (ht : overlaid (overlaid own file) env = some t) (h : read schema t = .ok v) :
    ∃ t', overlaid (overlaid (some v.plainValue) file) env = some t' ∧
      read schema t' = .ok v := by
  have htleaf : t.isDict = false := (faithful_of_isLeaf hleaf t v h).1
  have hwins := eq_of_overlaid_overlaid ht htleaf
  cases env with
  | some e =>
      obtain rfl : e = t := Option.some.inj hwins
      exact ⟨e, overlaid_leaf _ htleaf, h⟩
  | none =>
      rw [Option.none_or] at hwins
      rw [overlaid_none]
      cases file with
      | some e =>
          obtain rfl : e = t := Option.some.inj hwins
          exact ⟨e, overlaid_leaf _ htleaf, h⟩
      | none => exact ⟨_, overlaid_none _, read_plainValue hleaf h⟩

theorem fieldRead_again {fields : Fields} {es es' out : Entries}
    (h : List.Forall₂ (FieldRead es) fields out) (hnodup : (fields.map (·.1)).Nodup)
    (hstep : ∀ field ∈ fields, ∀ v, find? field.1 out = some v →
      FieldRead es field (field.1, v) → FieldRead es' field (field.1, v)) :
    List.Forall₂ (FieldRead es') fields out := by
  have hkeys : (out.map (·.1)).Nodup := by
    rw [keys_filled (h.imp fun _ _ => FieldRead.filled)]
    exact hnodup
  rw [List.forall₂_iff_zip] at h ⊢
  refine ⟨h.1, fun {field entry} hmem => ?_⟩
  obtain ⟨hfield, hentry⟩ := List.of_mem_zip hmem
  have hread := h.2 hmem
  obtain ⟨k, v⟩ := entry
  obtain rfl : k = field.1 := hread.1
  exact hstep field hfield v (find?_of_mem hkeys hentry) hread

/-- A section is read again from the layers over what it was read as. -/
theorem read_section_again {name : String} {fields : Fields}
    (hnodup : (fields.map (·.1)).Nodup) (hleaves : ∀ f ∈ fields, f.2.1.isLeaf = true)
    {own : Entries} (hown : ∀ f ∈ fields, (find? f.1 own).isSome = true)
    {file env : Option Tree} (hfile : ∀ t, file = some t → t.Ordered)
    (henv : ∀ t, env = some t → t.Ordered) {t v : Tree}
    (ht : overlaid (overlaid (some (.dict own)) file) env = some t)
    (h : read (.record name fields) t = .ok v) :
    ∃ t', overlaid (overlaid (some v.plainValue) file) env = some t' ∧
      read (.record name fields) t' = .ok v := by
  -- A leaf hides all that is below it, and the section with it.
  by_cases henvdict : env.all isDict = true
  swap
  · obtain ⟨e, rfl, he⟩ : ∃ e, env = some e ∧ e.isDict = false := by
      cases env with
      | none => exact absurd rfl henvdict
      | some e => exact ⟨e, rfl, Bool.eq_false_iff.mpr henvdict⟩
    rw [overlaid_leaf _ he] at ht ⊢
    exact ⟨t, ht, h⟩
  by_cases hfiledict : file.all isDict = true
  swap
  · obtain ⟨e, rfl, he⟩ : ∃ e, file = some e ∧ e.isDict = false := by
      cases file with
      | none => exact absurd rfl hfiledict
      | some e => exact ⟨e, rfl, Bool.eq_false_iff.mpr hfiledict⟩
    rw [overlaid_leaf _ he] at ht ⊢
    exact ⟨t, ht, h⟩
  obtain ⟨new, hnew, hover⟩ := overlaid_of_isDict hfiledict hfile
  obtain ⟨last, hlast, hoverlast⟩ := overlaid_of_isDict henvdict henv
  rw [hover, hoverlast] at ht
  obtain rfl := Option.some.inj ht
  obtain ⟨out, rfl, hout⟩ := read_record_dict h
  have hkeys : (out.map (·.1)).Nodup := by
    rw [keys_filled (hout.imp fun _ _ => FieldRead.filled)]
    exact hnodup
  refine ⟨.dict (mergeEntries (mergeEntries (inOrder (plainEntries out)) new) last), ?_, ?_⟩
  · rw [plainValue, ofEntries_eq, hover, hoverlast]
  · refine read_record_of_fieldRead (fieldRead_again hout hnodup fun f hf w hw hread => ?_)
    obtain ⟨-, hvalue⟩ := hread
    obtain ⟨x, hx⟩ := Option.isSome_iff_exists.mp (hown f hf)
    obtain ⟨u, hu⟩ : ∃ u, overlaid (overlaid (some x) (find? f.1 new)) (find? f.1 last) = some u :=
      Option.isSome_iff_exists.mp (overlaid_isSome (overlaid_isSome rfl _) _)
    rw [find?_mergeEntries hlast, find?_mergeEntries hnew, hx, hu] at hvalue
    obtain ⟨u', hu', hread'⟩ := read_field_again (hleaves f hf) hu hvalue
    refine ⟨rfl, ?_⟩
    rw [find?_mergeEntries hlast, find?_mergeEntries hnew, find?_plainDict hkeys, hw,
      Option.map_some, hu']
    exact hread'

/-- Every section is there as a dictionary, and every field in it. -/
def Complete (fields : Fields) (base : Entries) : Prop :=
  ∀ s ∈ fields, ∃ own, find? s.1 base = some (.dict own) ∧
    ∀ f ∈ s.2.1.fields, (find? f.1 own).isSome = true

/-- The value that was read from layers over a complete base is read again from the
same layers over itself. -/
theorem Sections.read_again {name : String} {fields : Fields}
    (hschema : Sections (.record name fields)) {base file env : Entries}
    (hbase : Complete fields base) (hfile : OrderedEntries file) (henv : OrderedEntries env)
    {v : Tree}
    (h : read (.record name fields) (.dict (mergeEntries (mergeEntries base file) env)) = .ok v)
    {again : Entries} (hplain : v.plainValue = .dict again) :
    read (.record name fields) (.dict (mergeEntries (mergeEntries again file) env)) = .ok v := by
  obtain ⟨out, rfl, hout⟩ := read_record_dict h
  have hkeys : (out.map (·.1)).Nodup := by
    rw [keys_filled (hout.imp fun _ _ => FieldRead.filled)]
    exact hschema.names_nodup
  obtain rfl : inOrder (plainEntries out) = again := Tree.dict.inj hplain
  refine read_record_of_fieldRead
    (fieldRead_again hout hschema.names_nodup fun s hs w hw hread => ?_)
  obtain ⟨-, hvalue⟩ := hread
  obtain ⟨own, hown, hfields⟩ := hbase s hs
  obtain ⟨u, hu⟩ : ∃ u, overlaid (overlaid (some (.dict own)) (find? s.1 file)) (find? s.1 env) =
      some u := Option.isSome_iff_exists.mp (overlaid_isSome (overlaid_isSome rfl _) _)
  rw [find?_mergeEntries henv, find?_mergeEntries hfile, hown, hu] at hvalue
  have hrecord := hschema.records s hs
  have hnodup := hschema.inner_nodup s hs
  have hleaves := hschema.leaves s hs
  obtain ⟨key, inner, default⟩ := s
  cases inner with
  | record inner innerFields =>
      obtain ⟨u', hu', hread'⟩ := read_section_again hnodup hleaves hfields
        (fun t ht => ordered_of_find? hfile ht) (fun t ht => ordered_of_find? henv ht) hu hvalue
      refine ⟨rfl, ?_⟩
      rw [find?_mergeEntries henv, find?_mergeEntries hfile, find?_plainDict hkeys, hw,
        Option.map_some, hu']
      exact hread'
  | any | text | bool | double | unsigned _ | signed _ | optional _ | list _
  | labels _ | choice _ _ => cases hrecord

end Schema

/-! ## Loading -/

/-- The file that a marker names, if it names one, is read as a layer. -/
def Opens (fs : FileSystem) (m : Marker) : Prop :=
  ∃ file, Configuration.markedFile fs m.filePath = .ok file ∧ ∀ e, file ≠ some (.error e)

section Load

variable {fs : FileSystem} {vars : Environment} {m : Marker} {c c' : Configuration}
  {base : Entries}

theorem opens_of_load (hplain : c.holding.plain = .ok (.dict base))
    (h : c.load fs vars m = .ok c') : Opens fs m := by
  rw [Configuration.load, hplain] at h
  obtain ⟨defaults, hdefaults, h⟩ := bind_ok h
  cases hdefaults
  obtain ⟨file, hfile, h⟩ := bind_ok h
  obtain ⟨merged, hmerged, -⟩ := bind_ok h
  refine ⟨file, hfile, ?_⟩
  rintro e rfl
  cases hmerged

/-- A value that the schema reads from all layers is loaded. -/
theorem load_of_opens (hplain : c.holding.plain = .ok (.dict base)) (hopens : Opens fs m)
    {value : Tree} (h : c.schema.read (.dict (layers fs vars m base)) = .ok value) :
    c.load fs vars m = .ok ⟨c.schema, .tree value, m⟩ := by
  obtain ⟨file, hfile, hlayer⟩ := hopens
  have hmerged : Configuration.mergeLayers (Configuration.defaultLayer (.dict base)) file
      (bind m.envPrefix (.dict base) vars) = .ok (.dict (layers fs vars m base)) := by
    rw [layers, fileEntries, hfile]
    rcases file with _ | (e | es)
    · simp only [mergeEntries]; rfl
    · exact absurd rfl (hlayer e)
    · rfl
  rw [Configuration.load, hplain, hfile]
  simp only [Except.mapError, Bind.bind, Except.bind, hmerged, h]
  rfl

end Load

/-! ## A service -/

namespace Service

open Schema

theorem Settings.sameForm (c d : Settings) : SameForm c.tree d.tree := by
  have htext : ∀ (k a b : String), k = k ∧ SameForm (.text a) (.text b) :=
    fun _ _ _ => ⟨rfl, sameForm_of_leaf (b := true) rfl rfl⟩
  have hnumber : ∀ (k : String) (a b : Number), k = k ∧ SameForm (.number a) (.number b) :=
    fun _ _ _ => ⟨rfl, sameForm_of_leaf (b := false) rfl rfl⟩
  have hlist : ∀ (k : String) (a b : List Tree), k = k ∧ SameForm (.list a) (.list b) :=
    fun _ _ _ => ⟨rfl, sameForm_of_leaf (b := false) rfl rfl⟩
  have hserver : SameForm c.server.tree d.server.tree :=
    sameForm_dict (.cons (htext _ _ _) (.cons (htext _ _ _) .nil))
  have hstore : SameForm c.store.tree d.store.tree :=
    sameForm_dict (.cons (htext _ _ _) (.cons (htext _ _ _) (.cons (htext _ _ _)
      (.cons (htext _ _ _) (.cons (hnumber _ _ _) .nil)))))
  have hidentity : SameForm c.identity.tree d.identity.tree :=
    sameForm_dict (.cons (htext _ _ _) (.cons (htext _ _ _) (.cons (hlist _ _ _) .nil)))
  exact sameForm_dict
    (.cons ⟨rfl, hserver⟩ (.cons ⟨rfl, hstore⟩ (.cons ⟨rfl, hidentity⟩ .nil)))

theorem Settings.complete (c : Settings) {base : Entries}
    (hbase : c.tree.plainValue = .dict base) : Complete schema.fields base := by
  intro s hs
  have hplain : ∀ path, at? (.dict base) path = (c.tree.at? path).map plainValue := by
    intro path
    rw [← hbase, at?_plainValue c.distinct_tree]
  have hall : (schema.fields.all fun s => (c.tree.at? [s.1]).isSome) = true := rfl
  obtain ⟨t, ht⟩ : ∃ t, find? s.1 base = some t := by
    have hat := hplain [s.1]
    rw [at?_dict_cons] at hat
    simp only [at?_nil, Option.bind_fun_some] at hat
    rw [hat, ← Option.isSome_iff_exists, Option.isSome_map]
    exact List.all_eq_true.mp hall s hs
  have hdict : t.isDict = true := by
    have hsection := sectioned_base hbase hs
    rwa [Sectioned, ht] at hsection
  cases t with
  | dict own =>
      refine ⟨own, ht, fun f hf => ?_⟩
      have hat := hplain [s.1, f.1]
      rw [at?_dict_cons, ht, Option.bind_some, at?_dict_cons] at hat
      simp only [at?_nil, Option.bind_fun_some] at hat
      rw [hat, Option.isSome_map]
      exact c.tree_field hs hf
  | null | bool _ | number _ | text _ | list _ => cases hdict

theorem load_again {current : Settings} {marker m : Marker} {fs : FileSystem}
    {vars : Environment} {c : Configuration}
    (h : (current.configuration marker).load fs vars m = .ok c) :
    ∃ after : Settings, c = after.configuration m ∧ c.load fs vars m = .ok c := by
  obtain ⟨base, hbase⟩ : ∃ base, current.tree.plainValue = .dict base := ⟨_, rfl⟩
  have hplain : (current.configuration marker).holding.plain = .ok (.dict base) :=
    congrArg Except.ok hbase
  have hopens := opens_of_load hplain h
  obtain ⟨value, hread, rfl⟩ := load_ok hplain h
  obtain ⟨after, rfl⟩ := read_service hread
  obtain ⟨again, hagain⟩ : ∃ again, after.tree.plainValue = .dict again := ⟨_, rfl⟩
  have hplain' : (after.configuration m).holding.plain = .ok (.dict again) :=
    congrArg Except.ok hagain
  have henv : bind m.envPrefix (.dict again) vars = bind m.envPrefix (.dict base) vars := by
    rw [← hagain, ← hbase]
    exact bind_of_sameForm ((after.sameForm current).plainValue after.distinct_tree
      current.distinct_tree) _ _
  refine ⟨after, rfl, load_of_opens hplain' hopens ?_⟩
  rw [layers, henv]
  exact sections_schema.read_again (current.complete hbase) (fileEntries_ordered _ _)
    (bind_ordered _ _ _) hread hagain

/-- Initializing again from the same sources, without naming them again, succeeds and
changes nothing. -/
theorem init_again {current : Settings} {marker : Marker} {fs : FileSystem}
    {vars : Environment} {options : List ConfigOption} {c : Configuration}
    (h : ((current.configuration marker).init fs vars options).2 = .ok c) :
    (c.init fs vars []).2 = .ok c := by
  obtain ⟨after, rfl, hagain⟩ := load_again h
  exact hagain

/-- A service whose port comes from a file and whose scopes come from the environment,
while all else comes from the start. -/
theorem init_again_deployed :
    ∃ c, (Settings.initial.configuration .empty |>.init deployed
        [("APP_OIDC_CONFIG__SCOPES", "[\"a\"]"), ("APP_REDIS_CONFIG__DB", "-3")]
        [.configFile "/app.toml", .envPrefix "app"]).2 = .ok c ∧
      words (held ["http_server_config", "port"] c) = some "82" ∧
      (c.init deployed
        [("APP_OIDC_CONFIG__SCOPES", "[\"a\"]"), ("APP_REDIS_CONFIG__DB", "-3")] []).2 = .ok c := by
  obtain ⟨c, hc⟩ := exists_ok (x := (Settings.initial.configuration .empty |>.init deployed
    [("APP_OIDC_CONFIG__SCOPES", "[\"a\"]"), ("APP_REDIS_CONFIG__DB", "-3")]
    [.configFile "/app.toml", .envPrefix "app"]).2) (by decide +kernel)
  have hport : words (((Settings.initial.configuration .empty |>.init deployed
      [("APP_OIDC_CONFIG__SCOPES", "[\"a\"]"), ("APP_REDIS_CONFIG__DB", "-3")]
      [.configFile "/app.toml", .envPrefix "app"]).2.toOption).bind
        (held ["http_server_config", "port"])) = some "82" := by decide +kernel
  rw [hc] at hport
  exact ⟨c, hc, hport, init_again hc⟩

end Service

end Overlay.Layer
