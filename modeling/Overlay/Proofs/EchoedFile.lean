import Overlay.Proofs.JsonText
import Overlay.Proofs.RepeatedLayering

/-!
# An echo as a configuration file

A configuration can be written as JSON and be read from it as a file. The values come
back whatever they are and whatever they are laid over: `init_of_echo`.

The text is read as the plain form of the value (`read?_indented`), so the question is
what becomes of the plain form of a value as a layer. It prevails: each leaf takes the
place of the one below it and is read as what it was (`prevails_of_read`), and a
record prevails if each of its fields does (`prevails_record`), whether there is a
dictionary below it or not.
-/

namespace Overlay.Layer

open Overlay.Tree
open Files (FileSystem Path)

/-! ## Values that prevail -/

namespace Schema

/-- The plain form of a value is read as the value, over whatever it is laid. -/
def Prevails (schema : Schema) (v : Tree) : Prop :=
  ∀ earlier : Option Tree,
    ∃ t, overlaid earlier (some v.plainValue) = some t ∧ read schema t = .ok v

theorem prevails_of_read {schema : Schema} (hleaf : schema.isLeaf = true) {t v : Tree}
    (h : read schema t = .ok v) : Prevails schema v := by
  intro earlier
  have hread := read_plainValue hleaf h
  have hv : v.plainValue.isDict = false := (faithful_of_isLeaf hleaf _ _ hread).1
  exact ⟨v.plainValue, overlaid_leaf earlier hv, hread⟩

theorem prevails_text (s : String) : Prevails .text (.text s) :=
  prevails_of_read (t := .text s) rfl rfl

theorem prevails_texts (ss : List String) : Prevails (.list .text) (.list (ss.map .text)) := by
  refine prevails_of_read (t := .list (ss.map .text)) rfl ?_
  rw [read, readItems_map_text]
  rfl

theorem prevails_int64 (i : Int64) : Prevails (.signed 64) (.number (.signed i.toInt)) := by
  refine prevails_of_read (t := .number (.signed i.toInt)) rfl ?_
  rw [read, readSigned]
  exact boundedInt_eq_ok i.le_toInt i.toInt_lt _ _ _

/-- A dictionary is laid entry by entry over a dictionary, and over anything else as
over an empty one. -/
theorem exists_overlaid_dict (earlier : Option Tree) {new : Entries}
    (hnew : OrderedEntries new) :
    ∃ own es, overlaid earlier (some (.dict new)) = some (.dict es) ∧
      ∀ k, find? k es = overlaid (find? k own) (find? k new) := by
  have halone : ∀ k, find? k new = overlaid (find? k []) (find? k new) :=
    fun k => (none_overlaid _).symm
  cases earlier with
  | none => exact ⟨[], new, rfl, halone⟩
  | some t =>
      cases t with
      | dict own =>
          exact ⟨own, mergeEntries own new, by rw [overlaid, merge], find?_mergeEntries hnew own⟩
      | null | bool _ | number _ | text _ | list _ =>
          exact ⟨[], new, by simp [overlaid, merge], halone⟩

theorem Prevails.filled {field : String × Schema × Option Tree} {entry : String × Tree}
    (h : entry.1 = field.1 ∧ Prevails field.2.1 entry.2) : FieldFilled field entry := by
  obtain ⟨t, -, hread⟩ := h.2 none
  exact ⟨h.1, Or.inl ⟨t, hread⟩⟩

/-- A record prevails if all its fields do. -/
theorem prevails_record {name : String} {fields : Fields} {out : Entries}
    (hnodup : (fields.map (·.1)).Nodup)
    (h : List.Forall₂ (fun field entry => entry.1 = field.1 ∧ Prevails field.2.1 entry.2)
      fields out) :
    Prevails (.record name fields) (.dict out) := by
  have hkeys : (out.map (·.1)).Nodup := by
    rw [keys_filled (h.imp fun _ _ => Prevails.filled)]
    exact hnodup
  intro earlier
  have hordered : OrderedEntries (inOrder (plainEntries out)) := plainValue_ordered (.dict out)
  obtain ⟨own, es, hes, hfind⟩ := exists_overlaid_dict earlier hordered
  refine ⟨.dict es, hes, read_record_of_fieldRead ?_⟩
  rw [List.forall₂_iff_zip] at h ⊢
  refine ⟨h.1, fun {field entry} hmem => ?_⟩
  obtain ⟨hkey, hprevails⟩ := h.2 hmem
  refine ⟨hkey, ?_⟩
  obtain ⟨t, ht, hread⟩ := hprevails (find? field.1 own)
  have hentry : find? field.1 out = some entry.2 := by
    rw [← hkey]
    exact find?_of_mem hkeys (List.of_mem_zip hmem).2
  rw [hfind, find?_plainDict hkeys, hentry, Option.map_some, ht]
  exact hread

end Schema

/-! ## Echo and file -/

/-- The text of an echo is the whole document. -/
theorem eq_of_echo {schema : Schema} {t : Tree} {marker : Marker} {sink : Configuration.Sink}
    {text : String}
    (h : (Configuration.mk schema (.tree t) marker).echo .json sink = .ok text) :
    text = Json.indented 0 t ++ "\n" := by
  simp only [Configuration.echo, Holding.indented, Configuration.Sink.take,
    Configuration.Sink.finish] at h
  split at h
  · split at h
    · split at h
      · nomatch h
      · exact (Except.ok.inj h).symm
    · nomatch h
  · nomatch h

/-- A file that holds the document of a tree is the plain form of the tree as a layer. -/
theorem fileLayer_of_indented {fs : FileSystem} {path : Path} {es : Entries} {t : Tree}
    (ht : Json.Fits Json.depthLimit t) (hplain : t.plainValue = .dict es)
    (hpath : path.extension?.map smallLetters = some "json")
    (htext : fs.readText path = .ok (Json.indented 0 t ++ "\n")) :
    fileLayer fs path = .ok (.ok es) := by
  have hformat : FileFormat.ofPath? path = some .json := by
    rw [FileFormat.ofPath?, hpath]
    rfl
  rw [fileLayer, htext, hformat]
  simp only [parseLayer?, Json.read?_indented ht, hplain]
  rfl

namespace Service

open Schema

theorem Settings.prevails (c : Settings) : Prevails schema c.tree := by
  have htext : ∀ (k s : String), k = k ∧ Prevails .text (.text s) :=
    fun _ s => ⟨rfl, prevails_text s⟩
  have hserver : Prevails Preset.httpServer c.server.tree :=
    prevails_record (by decide) (.cons (htext _ _) (.cons (htext _ _) .nil))
  have hstore : Prevails Preset.redis c.store.tree :=
    prevails_record (by decide) (.cons (htext _ _) (.cons (htext _ _) (.cons (htext _ _)
      (.cons (htext _ _) (.cons ⟨rfl, prevails_int64 _⟩ .nil)))))
  have hidentity : Prevails Service.identity c.identity.tree :=
    prevails_record (by decide) (.cons (htext _ _) (.cons (htext _ _)
      (.cons ⟨rfl, prevails_texts _⟩ .nil)))
  exact prevails_record (by decide)
    (.cons ⟨rfl, hserver⟩ (.cons ⟨rfl, hstore⟩ (.cons ⟨rfl, hidentity⟩ .nil)))

theorem Settings.fits (c : Settings) : Json.Fits Json.depthLimit c.tree := by
  have hdatabase : Json.Whole (.signed c.store.database.toInt) :=
    ⟨c.store.database.le_toInt, Int.lt_trans c.store.database.toInt_lt (by decide)⟩
  simp [Json.depthLimit, tree, Server.tree, Store.tree, Identity.tree, Json.Fits, hdatabase]

/-- Settings that were echoed as JSON and are initialized from there come back. -/
theorem init_of_echo (c d : Settings) (before marker : Marker) :
    (∃ text, (c.configuration before).echo .json ⟨none, false⟩ = .ok text) ∧
    ∀ (sink : Configuration.Sink) (text : String),
      (c.configuration before).echo .json sink = .ok text →
      ∀ (fs : FileSystem) (vars : Environment) (options : List ConfigOption) (path : Path),
        (marker.applyAll options).filePath = some path →
        path.extension?.map smallLetters = some "json" →
        fs.readText path = .ok text →
        bind (marker.applyAll options).envPrefix d.tree.plainValue vars = [] →
        ((d.configuration marker).init fs vars options).2 =
          .ok (c.configuration (marker.applyAll options)) := by
  refine ⟨⟨_, rfl⟩, ?_⟩
  intro sink text hecho fs vars options path hfile hextension htext hbound
  obtain rfl := eq_of_echo hecho
  obtain ⟨base, hbase⟩ : ∃ base, d.tree.plainValue = .dict base := ⟨_, rfl⟩
  obtain ⟨echoed, hechoed⟩ : ∃ echoed, c.tree.plainValue = .dict echoed := ⟨_, rfl⟩
  have hplain : (d.configuration marker).holding.plain = .ok (.dict base) :=
    congrArg Except.ok hbase
  have hmarked : Configuration.markedFile fs (marker.applyAll options).filePath =
      .ok (some (.ok echoed)) := by
    rw [hfile, Configuration.markedFile, fileLayer_of_indented c.fits hechoed hextension htext]
    rfl
  have hlayers : layers fs vars (marker.applyAll options) base = mergeEntries base echoed := by
    rw [layers, fileEntries, hmarked, ← hbase, hbound]
    simp only [mergeEntries]
  obtain ⟨t, ht, hread⟩ := c.prevails (some (.dict base))
  rw [hechoed, overlaid, merge] at ht
  obtain rfl := Option.some.inj ht
  refine load_of_opens hplain ⟨_, hmarked, by simp⟩ ?_
  rw [hlayers]
  exact hread

/-- Settings with quotes, control characters, a line break and the least of all numbers. -/
def unusual : Settings :=
  ⟨⟨"\"h\\", "\x00\x1f"⟩, ⟨"a\nb", "", "é", "\t", -9223372036854775808⟩, ⟨"", "💡", ["", "]"]⟩⟩

/-- A file with an echo of these settings. -/
def echoed : FileSystem :=
  ⟨.directory [("copy.JSON", .file (.text (Json.indented 0 unusual.tree ++ "\n")))], []⟩

theorem init_of_echo_unusual :
    ∃ text, (unusual.configuration .empty).echo .json ⟨none, false⟩ = .ok text ∧
      echoed.readText "/copy.JSON" = .ok text ∧
      ((Settings.initial.configuration .empty).init echoed [("REDIS_CONFIGURATION", "x")]
        [.configFile "/copy.JSON"]).2 = .ok (unusual.configuration ⟨none, some "/copy.JSON"⟩) := by
  have hecho : (unusual.configuration .empty).echo .json ⟨none, false⟩ =
      .ok (Json.indented 0 unusual.tree ++ "\n") := rfl
  have htext : echoed.readText "/copy.JSON" = .ok (Json.indented 0 unusual.tree ++ "\n") := by
    decide +kernel
  exact ⟨_, hecho, htext, (init_of_echo unusual .initial .empty .empty).2 _ _ hecho echoed
    [("REDIS_CONFIGURATION", "x")] [.configFile "/copy.JSON"] "/copy.JSON" rfl
    (by decide +kernel) htext (by decide +kernel)⟩

end Service

end Overlay.Layer
