import Mathlib.Data.List.Induction
import Overlay.Layer.Preset

/-!
# Initializing again and again

A configuration may be initialized any number of times, each time from other
sources, and some of these initializations fail. What it remembers of them is
its marker, and the marker of one initialization is the start of the next. So
the question is what a run of any length leaves behind.

An initialization works on a configuration in place. It fails if the value has
no tree, if the file cannot be read, has no known format or is malformed in it,
and if the layers cannot be merged or do not fit the schema. `Blocked` lists
these reasons, and `init_eq_error_iff` says that there are no others. The
configuration is only replaced after the last of them, so `run_cases` has two
cases, and the rest follows by induction over the run: a failed initialization
leaves the configuration as it was, and the marker at the end is the first one
with the options of the others applied.
-/

namespace Overlay.Layer

open Files (FileSystem)

/-! ## The options that count -/

namespace Marker

/-- The file that the last option for a file names. -/
def lastFile? (options : List ConfigOption) : Option Files.Path :=
  options.reverse.findSome? fun
    | .configFile path => some path
    | .envPrefix _ => none

/-- The prefix that the last option for a prefix names, as it was given. -/
def lastPrefix? (options : List ConfigOption) : Option String :=
  options.reverse.findSome? fun
    | .configFile _ => none
    | .envPrefix name => some name

/-- How a prefix is kept: in its normal form, and not at all if that is empty. -/
def keptPrefix (name : String) : Option String :=
  if normalizePrefix name = "" then none else some (normalizePrefix name)

theorem apply_envPrefix (m : Marker) (name : String) :
    m.apply (.envPrefix name) = { m with envPrefix := keptPrefix name } := by
  have hempty : (normalizePrefix name).isEmpty = decide (normalizePrefix name = "") := by
    rw [Bool.eq_iff_iff, String.isEmpty_iff, decide_eq_true_iff]
  rw [apply, keptPrefix, hempty]
  simp only [decide_eq_true_eq]

theorem applyAll_snoc (m : Marker) (options : List ConfigOption) (o : ConfigOption) :
    m.applyAll (options ++ [o]) = (m.applyAll options).apply o := by
  rw [applyAll, List.foldl_append]
  rfl

theorem applyAll_append (m : Marker) (before after : List ConfigOption) :
    m.applyAll (before ++ after) = (m.applyAll before).applyAll after := by
  rw [applyAll, applyAll, applyAll, List.foldl_append]

theorem lastFile?_snoc (options : List ConfigOption) (o : ConfigOption) :
    lastFile? (options ++ [o]) =
      match o with
      | .configFile path => some path
      | .envPrefix _ => lastFile? options := by
  rw [lastFile?, List.reverse_append, List.reverse_singleton, List.singleton_append,
    List.findSome?_cons]
  cases o <;> rfl

theorem lastPrefix?_snoc (options : List ConfigOption) (o : ConfigOption) :
    lastPrefix? (options ++ [o]) =
      match o with
      | .configFile _ => lastPrefix? options
      | .envPrefix name => some name := by
  rw [lastPrefix?, List.reverse_append, List.reverse_singleton, List.singleton_append,
    List.findSome?_cons]
  cases o <;> rfl

theorem filePath_applyAll (m : Marker) (options : List ConfigOption) :
    (m.applyAll options).filePath = (lastFile? options).or m.filePath := by
  induction options using List.reverseRecOn with
  | nil => rfl
  | append_singleton options o ih =>
      rw [applyAll_snoc, lastFile?_snoc]
      cases o with
      | configFile path => simp only [apply, Option.some_or]
      | envPrefix name => simp only [apply_envPrefix, ih]

theorem envPrefix_applyAll (m : Marker) (options : List ConfigOption) :
    (m.applyAll options).envPrefix =
      ((lastPrefix? options).map keptPrefix).getD m.envPrefix := by
  induction options using List.reverseRecOn with
  | nil => rfl
  | append_singleton options o ih =>
      rw [applyAll_snoc, lastPrefix?_snoc]
      cases o with
      | configFile path => simp only [apply, ih]
      | envPrefix name =>
          simp only [apply_envPrefix, Option.map_some, Option.getD_some]

end Marker

/-! ## One initialization -/

/-- The sources and the options of one initialization. -/
structure Initialization where
  files : FileSystem
  vars : Environment
  options : List ConfigOption

namespace Initialization

/-- The marker that the initialization works with. -/
def marker (i : Initialization) (c : Configuration) : Marker :=
  c.marker.applyAll i.options

/-- Initializes the configuration at hand in place. -/
def run (i : Initialization) : ExceptT LayerError (StateM Configuration) Unit := do
  let c ← get
  let loaded ← (c.init i.files i.vars i.options).2
  set loaded

/-- Why an initialization of a configuration fails. -/
inductive Blocked (i : Initialization) (c : Configuration) : LayerError → Prop
  /-- The current value has no tree. -/
  | untold {text : String} (hplain : c.holding.plain = .error text) :
      Blocked i c (.serialize .json text)
  | unreadable {defaults : Tree} {path : Files.Path} {cause : Files.FileError}
      (hplain : c.holding.plain = .ok defaults)
      (hpath : (i.marker c).filePath = some path)
      (hread : i.files.readText path = .error cause) :
      Blocked i c (.read path cause)
  | unsupported {defaults : Tree} {path : Files.Path} {text : String}
      (hplain : c.holding.plain = .ok defaults)
      (hpath : (i.marker c).filePath = some path)
      (hread : i.files.readText path = .ok text)
      (hformat : FileFormat.ofPath? path = none) :
      Blocked i c (.unsupportedFile path)
  | malformed {defaults : Tree} {path : Files.Path} {text : String} {format : FileFormat}
      (hplain : c.holding.plain = .ok defaults)
      (hpath : (i.marker c).filePath = some path)
      (hread : i.files.readText path = .ok text)
      (hformat : FileFormat.ofPath? path = some format)
      (hparse : parseLayer? format text = none) :
      Blocked i c (.malformedFile path)
  /-- A layer is no dictionary. -/
  | unmerged {defaults : Tree} {file : Option LayerData} {e : LayerError}
      (hplain : c.holding.plain = .ok defaults)
      (hfile : Configuration.markedFile i.files (i.marker c).filePath = .ok file)
      (hmerge : Configuration.mergeLayers (Configuration.defaultLayer defaults) file
        (bind (i.marker c).envPrefix defaults i.vars) = .error e) :
      Blocked i c e
  /-- The schema does not fit the layers. -/
  | mismatched {defaults merged : Tree} {file : Option LayerData} {complaint : Complaint}
      (hplain : c.holding.plain = .ok defaults)
      (hfile : Configuration.markedFile i.files (i.marker c).filePath = .ok file)
      (hmerge : Configuration.mergeLayers (Configuration.defaultLayer defaults) file
        (bind (i.marker c).envPrefix defaults i.vars) = .ok merged)
      (hread : c.schema.read merged = .error complaint) :
      Blocked i c (.gathering [complaint])

variable {i : Initialization} {c c' : Configuration} {e : LayerError}

theorem fileLayer_eq_error_iff {fs : FileSystem} {path : Files.Path} :
    fileLayer fs path = .error e ↔
      (∃ cause, fs.readText path = .error cause ∧ e = .read path cause) ∨
      ∃ text, fs.readText path = .ok text ∧
        (FileFormat.ofPath? path = none ∧ e = .unsupportedFile path ∨
          ∃ format, FileFormat.ofPath? path = some format ∧
            parseLayer? format text = none ∧ e = .malformedFile path) := by
  rw [fileLayer]
  cases hread : fs.readText path with
  | error cause => simp [eq_comm]
  | ok text =>
      cases hformat : FileFormat.ofPath? path with
      | none => simp [eq_comm]
      | some format => cases hparse : parseLayer? format text <;> simp [hparse, eq_comm]

theorem blocked_of_file {defaults : Tree} (hplain : c.holding.plain = .ok defaults)
    (h : Configuration.markedFile i.files (i.marker c).filePath = .error e) :
    i.Blocked c e := by
  cases hpath : (i.marker c).filePath with
  | none =>
      rw [hpath] at h
      cases h
  | some path =>
      rw [hpath, Configuration.markedFile] at h
      have hlayer : fileLayer i.files path = .error e := by
        cases hlayer : fileLayer i.files path <;> rw [hlayer] at h <;> cases h
        rfl
      obtain ⟨cause, hread, rfl⟩ | ⟨text, hread, ⟨hformat, rfl⟩ | ⟨format, hformat, hparse, rfl⟩⟩ :=
        fileLayer_eq_error_iff.mp hlayer
      · exact .unreadable hplain hpath hread
      · exact .unsupported hplain hpath hread hformat
      · exact .malformed hplain hpath hread hformat hparse

theorem markedFile_of_fileLayer {fs : FileSystem} {marked : Option Files.Path}
    {path : Files.Path} (hpath : marked = some path) (h : fileLayer fs path = .error e) :
    Configuration.markedFile fs marked = .error e := by
  rw [hpath, Configuration.markedFile, h]
  rfl

theorem load_of_plain_error {text : String} (hplain : c.holding.plain = .error text) :
    c.load i.files i.vars (i.marker c) = .error (.serialize .json text) := by
  rw [Configuration.load, hplain]
  rfl

theorem load_of_file_error {defaults : Tree} (hplain : c.holding.plain = .ok defaults)
    (hfile : Configuration.markedFile i.files (i.marker c).filePath = .error e) :
    c.load i.files i.vars (i.marker c) = .error e := by
  rw [Configuration.load, hplain, hfile]
  rfl

/-- What is left once the sources have been read: to merge and to read back. -/
theorem load_of_sources {defaults : Tree} {file : Option LayerData}
    (hplain : c.holding.plain = .ok defaults)
    (hfile : Configuration.markedFile i.files (i.marker c).filePath = .ok file) :
    c.load i.files i.vars (i.marker c) =
      (Configuration.mergeLayers (Configuration.defaultLayer defaults) file
        (bind (i.marker c).envPrefix defaults i.vars)).bind fun merged =>
          ((c.schema.read merged).mapError fun complaint => .gathering [complaint]).bind
            fun value => .ok ⟨c.schema, .tree value, i.marker c⟩ := by
  rw [Configuration.load, hplain, hfile]
  rfl

theorem blocked_of_load_error (h : c.load i.files i.vars (i.marker c) = .error e) :
    i.Blocked c e := by
  cases hplain : c.holding.plain with
  | error text =>
      rw [load_of_plain_error hplain] at h
      cases h
      exact .untold hplain
  | ok defaults =>
      cases hfile : Configuration.markedFile i.files (i.marker c).filePath with
      | error f =>
          rw [load_of_file_error hplain hfile] at h
          cases h
          exact blocked_of_file hplain hfile
      | ok file =>
          rw [load_of_sources hplain hfile] at h
          cases hmerge : Configuration.mergeLayers (Configuration.defaultLayer defaults)
              file (bind (i.marker c).envPrefix defaults i.vars) with
          | error f =>
              rw [hmerge] at h
              cases h
              exact .unmerged hplain hfile hmerge
          | ok merged =>
              rw [hmerge, Except.bind] at h
              cases hread : c.schema.read merged with
              | error complaint =>
                  rw [hread] at h
                  cases h
                  exact .mismatched hplain hfile hmerge hread
              | ok value =>
                  rw [hread] at h
                  cases h

theorem load_error_of_blocked (h : i.Blocked c e) :
    c.load i.files i.vars (i.marker c) = .error e := by
  cases h with
  | untold hplain => exact load_of_plain_error hplain
  | unreadable hplain hpath hread =>
      refine load_of_file_error hplain (markedFile_of_fileLayer hpath ?_)
      exact fileLayer_eq_error_iff.mpr (.inl ⟨_, hread, rfl⟩)
  | unsupported hplain hpath hread hformat =>
      refine load_of_file_error hplain (markedFile_of_fileLayer hpath ?_)
      exact fileLayer_eq_error_iff.mpr (.inr ⟨_, hread, .inl ⟨hformat, rfl⟩⟩)
  | malformed hplain hpath hread hformat hparse =>
      refine load_of_file_error hplain (markedFile_of_fileLayer hpath ?_)
      exact fileLayer_eq_error_iff.mpr (.inr ⟨_, hread, .inr ⟨_, hformat, hparse, rfl⟩⟩)
  | unmerged hplain hfile hmerge =>
      rw [load_of_sources hplain hfile, hmerge]
      rfl
  | mismatched hplain hfile hmerge hread =>
      rw [load_of_sources hplain hfile, hmerge, Except.bind, hread]
      rfl

/-- An initialization fails at the points that are listed, and nowhere else. -/
theorem init_eq_error_iff :
    (c.init i.files i.vars i.options).2 = .error e ↔ i.Blocked c e :=
  ⟨blocked_of_load_error, load_error_of_blocked⟩

theorem marker_of_init (h : (c.init i.files i.vars i.options).2 = .ok c') :
    c'.marker = i.marker c := by
  change c.load i.files i.vars (i.marker c) = .ok c' at h
  cases hplain : c.holding.plain with
  | error text =>
      rw [load_of_plain_error hplain] at h
      cases h
  | ok defaults =>
      cases hfile : Configuration.markedFile i.files (i.marker c).filePath with
      | error f =>
          rw [load_of_file_error hplain hfile] at h
          cases h
      | ok file =>
          rw [load_of_sources hplain hfile] at h
          cases hmerge : Configuration.mergeLayers (Configuration.defaultLayer defaults)
              file (bind (i.marker c).envPrefix defaults i.vars) with
          | error f =>
              rw [hmerge] at h
              cases h
          | ok merged =>
              rw [hmerge, Except.bind] at h
              cases hread : c.schema.read merged with
              | error complaint =>
                  rw [hread] at h
                  cases h
              | ok value =>
                  rw [hread] at h
                  cases h
                  rfl

theorem run_ok (h : (c.init i.files i.vars i.options).2 = .ok c') :
    i.run.run c = (.ok (), c') := by
  change (do
    let loaded ← (c.init i.files i.vars i.options).2
    set loaded : ExceptT LayerError (StateM Configuration) Unit).run c = _
  rw [h]
  rfl

theorem run_error (h : (c.init i.files i.vars i.options).2 = .error e) :
    i.run.run c = (.error e, c) := by
  change (do
    let loaded ← (c.init i.files i.vars i.options).2
    set loaded : ExceptT LayerError (StateM Configuration) Unit).run c = _
  rw [h]
  rfl

/-- What one initialization can do. -/
theorem run_cases (i : Initialization) (c : Configuration) :
    (∃ e, i.Blocked c e ∧ i.run.run c = (.error e, c)) ∨
      ∃ c', c'.marker = i.marker c ∧ (∀ e, ¬ i.Blocked c e) ∧
        i.run.run c = (.ok (), c') := by
  cases h : (c.init i.files i.vars i.options).2 with
  | error e => exact .inl ⟨e, init_eq_error_iff.mp h, run_error h⟩
  | ok c' =>
      refine .inr ⟨c', marker_of_init h, ?_, run_ok h⟩
      intro e hblocked
      rw [init_eq_error_iff.mpr hblocked] at h
      cases h

end Initialization

/-! ## Runs -/

/-- Whether an initialization succeeded. -/
def Initialization.succeeded : Except LayerError Unit → Bool
  | .ok _ => true
  | .error _ => false

/-- The options of those initializations that succeeded, in order. -/
def Initialization.effective (calls : List Initialization)
    (outcomes : List (Except LayerError Unit)) : List ConfigOption :=
  ((calls.zip outcomes).filter fun call => succeeded call.2).flatMap (·.1.options)

namespace Configuration

open Initialization

/-- Initializes a configuration several times, whatever comes of it. -/
def runAll :
    List Initialization → StateM Configuration (List (Except LayerError Unit))
  | [] => return []
  | i :: rest => do
    let outcome ← i.run.run
    return outcome :: (← runAll rest)

/-- The configuration after some initializations. -/
def after (c : Configuration) (calls : List Initialization) : Configuration :=
  ((runAll calls).run c).2

/-- What came of each of some initializations. -/
def outcomes (c : Configuration) (calls : List Initialization) :
    List (Except LayerError Unit) :=
  ((runAll calls).run c).1

variable (c : Configuration) (i : Initialization) (calls : List Initialization)

theorem after_cons : c.after (i :: calls) = (i.run.run c).2.after calls := rfl

theorem outcomes_cons :
    c.outcomes (i :: calls) = (i.run.run c).1 :: (i.run.run c).2.outcomes calls := rfl

/-- An initialization leaves the configuration as it was, or it succeeds and its
options are applied. -/
theorem marker_run :
    (i.run.run c).2.marker =
      c.marker.applyAll (if succeeded (i.run.run c).1 then i.options else []) := by
  obtain ⟨e, -, hrun⟩ | ⟨c', hmarker, -, hrun⟩ := run_cases i c
  · rw [hrun]
    rfl
  · rw [hrun]
    exact hmarker

theorem effective_cons (outcome : Except LayerError Unit)
    (others : List (Except LayerError Unit)) :
    effective (i :: calls) (outcome :: others) =
      (if succeeded outcome then i.options else []) ++ effective calls others := by
  rw [effective, effective, List.zip_cons_cons, List.filter_cons]
  split
  · rw [List.flatMap_cons]
  · rw [List.nil_append]

/-- Each initialization starts from the marker that the one before it left, so
their options add up. -/
theorem marker_after :
    (c.after calls).marker = c.marker.applyAll (effective calls (c.outcomes calls)) := by
  induction calls generalizing c with
  | nil => rfl
  | cons i calls ih =>
      rw [after_cons, ih, marker_run, outcomes_cons, effective_cons,
        Marker.applyAll_append]

theorem outcomes_at {k : Nat} (h : calls[k]? = some i) :
    (c.outcomes calls)[k]? = some (i.run.run (c.after (calls.take k))).1 := by
  induction calls generalizing c k with
  | nil => cases h
  | cons j calls ih =>
      rw [outcomes_cons]
      cases k with
      | zero =>
          cases h
          rfl
      | succ k =>
          rw [List.getElem?_cons_succ] at h ⊢
          rw [ih _ h, List.take_succ_cons, after_cons]

theorem after_take {k : Nat} (h : calls[k]? = some i) :
    c.after (calls.take (k + 1)) = (i.run.run (c.after (calls.take k))).2 := by
  induction calls generalizing c k with
  | nil => cases h
  | cons j calls ih =>
      cases k with
      | zero =>
          cases h
          rfl
      | succ k =>
          rw [List.getElem?_cons_succ] at h
          rw [List.take_succ_cons, after_cons, ih _ h, List.take_succ_cons, after_cons]

/-- What a run of initializations leaves behind. The marker is the first one with
the options of those that succeeded: the last file that they name and the last
prefix, in its normal form or not at all. An initialization fails for the reasons
that are listed, and then the configuration stays what it was. -/
theorem after_initializations :
    let options := effective calls (c.outcomes calls)
    (c.after calls).marker = c.marker.applyAll options ∧
      (c.after calls).marker.filePath =
        (Marker.lastFile? options).or c.marker.filePath ∧
      (c.after calls).marker.envPrefix =
        ((Marker.lastPrefix? options).map Marker.keptPrefix).getD c.marker.envPrefix ∧
      ∀ k i, calls[k]? = some i →
        (∀ e, (c.outcomes calls)[k]? = some (.error e) ↔
          i.Blocked (c.after (calls.take k)) e) ∧
        ((∃ e, i.Blocked (c.after (calls.take k)) e) →
          c.after (calls.take (k + 1)) = c.after (calls.take k)) := by
  intro options
  have hmarker := marker_after c calls
  refine ⟨hmarker, ?_, ?_, ?_⟩
  · rw [hmarker, Marker.filePath_applyAll]
  · rw [hmarker, Marker.envPrefix_applyAll]
  intro k i hi
  rw [outcomes_at c i calls hi, after_take c i calls hi]
  obtain ⟨e, hblocked, hrun⟩ | ⟨c', -, hfree, hrun⟩ := run_cases i (c.after (calls.take k))
  · rw [hrun]
    refine ⟨fun f => ⟨?_, ?_⟩, fun _ => rfl⟩
    · rintro ⟨⟩
      exact hblocked
    · intro hother
      rw [← init_eq_error_iff] at hblocked hother
      cases hblocked.symm.trans hother
      rfl
  · rw [hrun]
    refine ⟨fun f => ⟨?_, fun hblocked => (hfree f hblocked).elim⟩, ?_⟩
    · rintro ⟨⟩
    · rintro ⟨f, hblocked⟩
      exact (hfree f hblocked).elim

/-- A sound file and three that give no layer. -/
def startFiles : FileSystem :=
  ⟨.directory
    [("app.toml", .file (.text "http_server_config.port = \"82\"\n")),
      ("app.ini", .file (.text "port = 82\n")),
      ("cut.json", .file (.text "[1,")),
      ("wrong.toml", .file (.text "http_server_config.port = 82\n"))], []⟩

/-- Starts of a service, of which only the first and the last succeed. -/
def starts : List Initialization :=
  [⟨startFiles, [], [.configFile "/app.toml", .envPrefix "app_"]⟩,
    ⟨startFiles, [], [.configFile "/none.toml", .envPrefix "other"]⟩,
    ⟨startFiles, [], [.configFile "/app.ini"]⟩,
    ⟨startFiles, [], [.configFile "/cut.json"]⟩,
    ⟨startFiles, [], [.envPrefix "last", .configFile "/wrong.toml"]⟩,
    ⟨startFiles, [], [.envPrefix "__"]⟩]

theorem after_initializations_starts :
    (Service.configuration.outcomes starts).map succeeded =
        [true, false, false, false, false, true] ∧
      (Service.configuration.after starts).marker = ⟨none, some "/app.toml"⟩ ∧
      Service.configuration.after (starts.take 5) =
        Service.configuration.after (starts.take 4) := by
  obtain ⟨hmarker, -, -, hfailed⟩ := after_initializations Service.configuration starts
  refine ⟨by decide +kernel, ?_, ?_⟩
  · rw [hmarker]
    decide +kernel
  have hlast : ((Service.configuration.outcomes starts)[4]?).map succeeded = some false := by
    decide +kernel
  obtain ⟨outcome, houtcome, hsucceeded⟩ := Option.map_eq_some_iff.mp hlast
  obtain ⟨hblocked, hsame⟩ := hfailed 4 _ rfl
  cases outcome with
  | error e => exact hsame ⟨e, (hblocked e).mp houtcome⟩
  | ok _ => cases hsucceeded

end Configuration

end Overlay.Layer
