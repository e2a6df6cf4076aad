import Mathlib.Data.List.Find
import Overlay.Generate.Script
import Overlay.Generate.Workspace
import Overlay.Proofs.WrittenFile

/-!
# Crates are found the same once the output is written

A crate is found by manifests and by looking which source files there are. The
output is such a source file, so it could change what a crate is: the file in which
its modules start, or whether it has any target at all.

It does not, as long as no manifest lists a binary that is looked for under the
output's name (`Manifest.Spares`). The texts and files that are asked for have other
names. The lists of a package's binaries do get longer by the output, but the script
stands before it in all of them, so they are empty no less than before and start the
same (`head?_binaries`). `packageAt_written` and `locate_written` carry this through
workspaces to the crate of a directory.
-/

namespace Overlay.Generate

open Files

/-- The name of the module whose file the output is. -/
def outputStem : String := "config_gen"

/-- No binary of the manifest is looked for under the name of the output. -/
def Manifest.Spares (es : Tree.Entries) : Prop :=
  ∀ ts, Tree.find? "bin" es = some (.list ts) → ∀ t ∈ ts, ∀ name,
    textOf? (Tree.find? "path" (tableOf (some t))) = none →
    textOf? (Tree.find? "name" (tableOf (some t))) = some name →
      Path.hasEnding outputStem name = false

/-- A script and its output are files of a directory, and nothing but the script's
own directory gives the output its name. -/
structure Apart (fs : FileSystem) (dir : Place) : Prop where
  sole : fs.Sole dir outputName
  script : ∃ c, fs.root.get? (dir ++ [scriptName]) = some (.file c)
  names : ∀ es, fs.root.get? dir = some (.directory es) → ∀ x ∈ es, '/' ∉ x.1.toList
  spares : ∀ d es, Manifest.entries fs d = .ok es → Manifest.Spares es

/-! ## Endings -/

theorem not_hasEnding_manifest (d : Path) :
    Path.hasEnding outputName (d.join manifestName) = false :=
  Path.hasEnding_eq_false_of_suffix (Path.suffix_join d manifestName) (by decide) (by decide)

theorem not_hasEnding_library (d : Path) :
    Path.hasEnding outputName (d.join "src/lib.rs") = false :=
  Path.hasEnding_eq_false_of_suffix (Path.suffix_join d "src/lib.rs") (by decide) (by decide)

theorem not_hasEnding_main (d : Path) :
    Path.hasEnding outputName (d.join "src/main.rs") = false :=
  Path.hasEnding_eq_false_of_suffix (Path.suffix_join d "src/main.rs") (by decide) (by decide)

theorem not_hasEnding_inner (d : Path) (name : String) :
    Path.hasEnding outputName (d.join ("src/bin/" ++ name ++ "/main.rs")) = false := by
  refine Path.hasEnding_eq_false_of_suffix (m := "/main.rs") ?_ (by decide) (by decide)
  refine List.IsSuffix.trans ?_ (Path.suffix_join d _)
  rw [String.toList_append]
  exact List.suffix_append _ _

theorem not_hasEnding_binary (d : Path) {name : String}
    (h : Path.hasEnding outputStem name = false) :
    Path.hasEnding outputName (d.join ("src/bin/" ++ name ++ ".rs")) = false := by
  have hslash : '/' ∉ outputName.toList := by decide
  have hlist : ("src/bin/" ++ name ++ ".rs").toList =
      "src/bin".toList ++ '/' :: (name.toList ++ ".rs".toList) := by simp
  rw [Path.hasEnding, Bool.eq_false_iff] at h ⊢
  intro hsuffix
  have hfile : outputName.toList <:+ name.toList ++ ".rs".toList := by
    obtain ⟨front, hfront⟩ := Path.suffix_join d ("src/bin/" ++ name ++ ".rs")
    refine Path.suffix_of_suffix_slash (a := front ++ "src/bin".toList) hslash ?_
    rw [List.append_assoc, ← hlist, hfront]
    exact List.isSuffixOf_iff_suffix.mp hsuffix
  have hname : outputName.toList = outputStem.toList ++ ".rs".toList := by decide
  obtain ⟨front, hfront⟩ := hfile
  rw [hname, ← List.append_assoc] at hfront
  exact h (List.isSuffixOf_iff_suffix.mpr ⟨front, List.append_cancel_right hfront⟩)

/-! ## Targets of a package -/

section Written

variable {fs : FileSystem} {dir : Place} (h : Apart fs dir) (c : Content)
include h

theorem Apart.entries_written (d : Path) :
    Manifest.entries (fs.putFile (dir ++ [outputName]) c) d = Manifest.entries fs d := by
  have htext := h.sole.readText_eq c (not_hasEnding_manifest d)
  rw [Manifest.entries, Manifest.entries]
  match hbefore : fs.readText (d.join manifestName),
      hafter : (fs.putFile (dir ++ [outputName]) c).readText (d.join manifestName) with
  | .ok s, .ok s' =>
      rw [hbefore, hafter] at htext
      rw [Option.some.inj htext]
  | .error e, .error e' => rfl
  | .ok s, .error e' =>
      rw [hbefore, hafter] at htext
      cases htext
  | .error e, .ok s' =>
      rw [hbefore, hafter] at htext
      cases htext

theorem Apart.library_written (d : Path) (es : Tree.Entries) :
    Manifest.library (fs.putFile (dir ++ [outputName]) c) d es = Manifest.library fs d es := by
  rw [Manifest.library, Manifest.library, h.sole.isFile_eq c (not_hasEnding_library d)]

theorem Apart.listedBinary_written (d : Path) (package : String) {t : Tree}
    (ht : ∀ name, textOf? (Tree.find? "path" (tableOf (some t))) = none →
      textOf? (Tree.find? "name" (tableOf (some t))) = some name →
        Path.hasEnding outputStem name = false) :
    Manifest.listedBinary (fs.putFile (dir ++ [outputName]) c) d package t =
      Manifest.listedBinary fs d package t := by
  rw [Manifest.listedBinary, Manifest.listedBinary]
  match hpath : textOf? (Tree.find? "path" (tableOf (some t))),
      hname : textOf? (Tree.find? "name" (tableOf (some t))) with
  | some path, some name => rfl
  | some path, none => rfl
  | none, none => rfl
  | none, some name =>
      simp only
      have hfile : ∀ p ∈ [d.join ("src/bin/" ++ name ++ ".rs"),
          d.join ("src/bin/" ++ name ++ "/main.rs")] ++
            (if name == package then [d.join "src/main.rs"] else []),
          (fs.putFile (dir ++ [outputName]) c).isFile p = fs.isFile p := by
        intro p hp
        apply h.sole.isFile_eq
        rcases List.mem_append.mp hp with hp | hp
        · rcases List.mem_cons.mp hp with rfl | hp
          · exact not_hasEnding_binary d (ht name hpath hname)
          · rw [List.mem_singleton.mp hp]
            exact not_hasEnding_inner d name
        · split at hp
          · rw [List.mem_singleton.mp hp]
            exact not_hasEnding_main d
          · cases hp
      rw [List.find?_congr hfile]

/-! The lists of source files. -/

/-- What an entry of a directory counts for among the source files. -/
def Manifest.sourceOf? : String × Entry → Option String
  | (name, .file _) => if Path.hasEnding ".rs" name then some name else none
  | (name, .directory inner) =>
    if (Entry.find? "main.rs" inner).isSome then some (name ++ "/main.rs") else none
  | (_, .link _) => none

omit h in
theorem sourcesIn_of_directory {p : Path} {es : List (String × Entry)}
    (hp : fs.entry? p = some (.directory es)) :
    Manifest.sourcesIn fs p = (FileSystem.sortByName es).filterMap Manifest.sourceOf? := by
  rw [Manifest.sourcesIn, hp]
  simp only
  apply List.filterMap_congr
  rintro ⟨name, e⟩ -
  cases e <;> rfl

omit h in
theorem sourcesIn_of_not_directory {p : Path}
    (hp : ∀ es, fs.entry? p ≠ some (.directory es)) : Manifest.sourcesIn fs p = [] := by
  rw [Manifest.sourcesIn]
  split
  · next es hes => exact absurd hes (hp es)
  · rfl

/-- The source files of a directory are the same, or the output is one more behind
the script. -/
theorem Apart.sourcesIn_written (p : Path) :
    Manifest.sourcesIn (fs.putFile (dir ++ [outputName]) c) p = Manifest.sourcesIn fs p ∨
    ∃ a b, scriptName ∈ a ∧ Manifest.sourcesIn fs p = a ++ b ∧
      Manifest.sourcesIn (fs.putFile (dir ++ [outputName]) c) p = a ++ outputName :: b := by
  rcases h.sole.directory_cases c p with
    ⟨q, es, es', -, hbefore, hafter, hq, hlist⟩ | ⟨hbefore, hafter⟩
  · rw [sourcesIn_of_directory hbefore, sourcesIn_of_directory hafter]
    cases hlist with
    | same => exact Or.inl rfl
    | file a b old => exact Or.inl (FileSystem.filterMap_sortByName_replace (by rfl) a b)
    | inner a b x inner inner' hinner =>
        refine Or.inl (FileSystem.filterMap_sortByName_replace ?_ a b)
        rw [Manifest.sourceOf?, Manifest.sourceOf?, hinner "main.rs" (by decide)]
    | new _ hdir =>
        obtain ⟨a, b, hold, hnew, ha, hb⟩ :=
          FileSystem.sortByName_concat (outputName, Entry.file c) es
        obtain ⟨s, hs⟩ := h.script
        have hmem : (scriptName, Entry.file s) ∈ a ++ b := by
          rw [← hold, FileSystem.mem_sortByName]
          apply Entry.mem_of_find?
          rw [← Entry.get?_directory_snoc hq, hdir, hs]
        have hscript : (scriptName, Entry.file s) ∈ a := by
          rcases List.mem_append.mp hmem with hmem | hmem
          · exact hmem
          · have hless : ¬ outputName < scriptName := by decide
            exact absurd (hb _ hmem) hless
        refine Or.inr ⟨a.filterMap Manifest.sourceOf?, b.filterMap Manifest.sourceOf?, ?_, ?_, ?_⟩
        · exact List.mem_filterMap.mpr ⟨_, hscript, rfl⟩
        · rw [hold, List.filterMap_append]
        · rw [hnew, List.filterMap_append, List.filterMap_cons]
          rfl
  · exact Or.inl (by rw [sourcesIn_of_not_directory hbefore, sourcesIn_of_not_directory hafter])

theorem Apart.sources_isEmpty (p : Path) :
    (Manifest.sourcesIn (fs.putFile (dir ++ [outputName]) c) p).isEmpty =
      (Manifest.sourcesIn fs p).isEmpty := by
  rcases h.sourcesIn_written c p with heq | ⟨a, b, ha, hbefore, hafter⟩
  · rw [heq]
  · obtain ⟨x, a, rfl⟩ := List.exists_cons_of_ne_nil (List.ne_nil_of_mem ha)
    rw [hbefore, hafter]
    rfl

theorem Apart.sources_head? (p : Path) :
    (Manifest.sourcesIn (fs.putFile (dir ++ [outputName]) c) p).head? =
      (Manifest.sourcesIn fs p).head? := by
  rcases h.sourcesIn_written c p with heq | ⟨a, b, ha, hbefore, hafter⟩
  · rw [heq]
  · obtain ⟨x, a, rfl⟩ := List.exists_cons_of_ne_nil (List.ne_nil_of_mem ha)
    rw [hbefore, hafter]
    rfl

theorem Apart.hasOtherTargets_written (d : Path) :
    Manifest.hasOtherTargets (fs.putFile (dir ++ [outputName]) c) d =
      Manifest.hasOtherTargets fs d := by
  rw [Manifest.hasOtherTargets, Manifest.hasOtherTargets]
  simp only [h.sources_isEmpty c]

omit h in
theorem head?_append_congr {α : Type} {l m m' : List α} (hm : m'.head? = m.head?) :
    (l ++ m').head? = (l ++ m).head? := by
  rw [List.head?_append, List.head?_append, hm]

/-- The binaries that are found in a package. -/
def Manifest.found (fs : FileSystem) (d : Path) : List Path :=
  [d.join "src/main.rs"].filter fs.isFile
    ++ (Manifest.sourcesIn fs (d.join "src/bin")).map fun name => d.join ("src/bin/" ++ name)

theorem Apart.head?_found (d : Path) :
    (Manifest.found (fs.putFile (dir ++ [outputName]) c) d).head? =
      (Manifest.found fs d).head? := by
  have hmain : [d.join "src/main.rs"].filter (fs.putFile (dir ++ [outputName]) c).isFile =
      [d.join "src/main.rs"].filter fs.isFile := by
    rw [List.filter_singleton, List.filter_singleton, h.sole.isFile_eq c (not_hasEnding_main d)]
  rw [Manifest.found, Manifest.found, hmain]
  apply head?_append_congr
  rw [List.head?_map, List.head?_map, h.sources_head? c]

theorem Apart.listedBinaries_written (d : Path) (package : String) {ts : List Tree}
    (hts : ∀ t ∈ ts, ∀ name, textOf? (Tree.find? "path" (tableOf (some t))) = none →
      textOf? (Tree.find? "name" (tableOf (some t))) = some name →
        Path.hasEnding outputStem name = false) :
    ts.mapM (Manifest.listedBinary (fs.putFile (dir ++ [outputName]) c) d package) =
      ts.mapM (Manifest.listedBinary fs d package) := by
  induction ts with
  | nil => rw [List.mapM_nil, List.mapM_nil]
  | cons t ts ih =>
      rw [List.mapM_cons, List.mapM_cons,
        h.listedBinary_written c d package (hts t (List.mem_cons_self ..)),
        ih fun t' ht' => hts t' (List.mem_cons_of_mem t ht')]

/-- The binaries of a package start the same. -/
theorem Apart.head?_binaries (d : Path) (package : String) {es : Tree.Entries}
    (hes : Manifest.Spares es) :
    (Manifest.binaries (fs.putFile (dir ++ [outputName]) c) d package es).map List.head? =
      (Manifest.binaries fs d package es).map List.head? := by
  -- What is listed is the same, and what is found matters only if nothing is listed.
  have hhead : ∀ (auto : Bool) (listed : List Path),
      (listed ++ if auto then (Manifest.found (fs.putFile (dir ++ [outputName]) c) d).filter
        (!listed.contains ·) else []).head? =
      (listed ++ if auto then (Manifest.found fs d).filter (!listed.contains ·)
        else []).head? := by
    intro auto listed
    cases listed with
    | cons x listed => rfl
    | nil =>
        cases auto with
        | false => rfl
        | true =>
            simp only [List.contains_nil, Bool.not_false, List.filter_true, List.nil_append,
              if_true]
            exact h.head?_found c d
  rw [Manifest.binaries, Manifest.binaries]
  match hbin : Tree.find? "bin" es with
  | none => exact congrArg Except.ok (hhead _ [])
  | some (.list ts) =>
      simp only
      rw [h.listedBinaries_written c d package (hes ts hbin)]
      cases ts.mapM (Manifest.listedBinary fs d package) with
      | error e => rfl
      | ok listed => exact congrArg Except.ok (hhead _ listed)
  | some (.dict _) | some .null | some (.bool _) | some (.number _) | some (.text _) => rfl

theorem Apart.rootFile_written (d : Path) (package : String) {es : Tree.Entries}
    (hes : Manifest.Spares es) :
    Manifest.rootFile (fs.putFile (dir ++ [outputName]) c) d package es =
      Manifest.rootFile fs d package es := by
  rw [Manifest.rootFile, Manifest.rootFile, h.library_written c, h.hasOtherTargets_written c]
  cases Manifest.library fs d es with
  | error e => simp only [bind, Except.bind]
  | ok lib =>
      have hbinaries := h.head?_binaries c d package hes
      revert hbinaries
      generalize Manifest.binaries (fs.putFile (dir ++ [outputName]) c) d package es = after
      generalize Manifest.binaries fs d package es = before
      intro hbinaries
      cases before with
      | error e =>
          cases after with
          | error e' => rfl
          | ok bins' => cases hbinaries
      | ok bins =>
          cases after with
          | error e' => cases hbinaries
          | ok bins' =>
              have hhead : bins'.head? = bins.head? := Except.ok.inj hbinaries
              have hempty : bins'.isEmpty = bins.isEmpty := by
                cases bins with
                | nil => rw [List.head?_eq_none_iff.mp hhead]
                | cons x bins =>
                    obtain ⟨rest, rfl⟩ := List.head?_eq_some_iff.mp hhead
                    rfl
              simp only [bind, Except.bind, hhead, hempty]

theorem Apart.package_written (d : Path) (up : Inheritance) {es : Tree.Entries}
    (hes : Manifest.Spares es) :
    Manifest.package (fs.putFile (dir ++ [outputName]) c) d up es =
      Manifest.package fs d up es := by
  rw [Manifest.package, Manifest.package]
  simp only [h.rootFile_written c d _ hes]

/-! ## Workspaces -/

theorem Apart.above_written (d : Path) (ups : List Path) :
    Workspace.above (fs.putFile (dir ++ [outputName]) c) d ups = Workspace.above fs d ups := by
  induction ups with
  | nil => rfl
  | cons up ups ih =>
      have hentry : (FileSystem.entry? (fs.putFile (dir ++ [outputName]) c)
          (up.join manifestName)).isNone = (fs.entry? (up.join manifestName)).isNone := by
        have hbare := h.sole.bare_eq c (not_hasEnding_manifest up)
        rw [← Option.isNone_map, hbare, Option.isNone_map]
      rw [Workspace.above, Workspace.above, hentry, ih, h.entries_written c]
      split
      · rfl
      · cases hes : Manifest.entries fs up with
        | error e => rfl
        | ok es =>
            simp only [bind, Except.bind, h.package_written c _ _ (h.spares up es hes)]

/-- The path of a name in the directory `d`, if it is a directory and fits. -/
def Workspace.fitting? (fs : FileSystem) (part : String) (d : Path) (name : String) :
    Option Path :=
  match fs.entry? (d.join name) with
  | some (.directory _) =>
    if Workspace.fits part.toList name.toList then some (d.join name) else none
  | _ => none

/-- The directories in the directory `d` that fit a pattern. -/
def Workspace.fitting (fs : FileSystem) (part : String) (d : Path) : List Path :=
  match fs.entry? d with
  | some (.directory es) =>
    (FileSystem.sortByName es).filterMap fun (name, _) => Workspace.fitting? fs part d name
  | _ => []

omit h in
theorem expand_cons (fs : FileSystem) (dirs : List Path) (part : String) (rest : List String) :
    Workspace.expand fs dirs (part :: rest) =
      if Workspace.isPattern part then
        Workspace.expand fs (dirs.flatMap (Workspace.fitting fs part)) rest
      else Workspace.expand fs (dirs.map fun d => normalized (d.join part)) rest := rfl

omit h in
theorem fitting?_of_not_directory {part : String} {d : Path} {name : String}
    (hp : ∀ es, fs.entry? (d.join name) ≠ some (.directory es)) :
    Workspace.fitting? fs part d name = none := by
  rw [Workspace.fitting?]
  split
  · next es hes => exact absurd hes (hp es)
  · rfl

omit h in
theorem fitting_of_not_directory {part : String} {d : Path}
    (hp : ∀ es, fs.entry? d ≠ some (.directory es)) : Workspace.fitting fs part d = [] := by
  rw [Workspace.fitting]
  split
  · next es hes => exact absurd hes (hp es)
  · rfl

theorem Apart.fitting?_written (part : String) (d : Path) (name : String) :
    Workspace.fitting? (fs.putFile (dir ++ [outputName]) c) part d name =
      Workspace.fitting? fs part d name := by
  rcases h.sole.directory_cases c (d.join name) with
    ⟨q, es, es', -, hbefore, hafter, -⟩ | ⟨hbefore, hafter⟩
  · rw [Workspace.fitting?, Workspace.fitting?, hbefore, hafter]
  · rw [fitting?_of_not_directory hbefore, fitting?_of_not_directory hafter]

theorem Apart.fitting_written (part : String) (d : Path) :
    Workspace.fitting (fs.putFile (dir ++ [outputName]) c) part d =
      Workspace.fitting fs part d := by
  rcases h.sole.directory_cases c d with
    ⟨q, es, es', hplace, hbefore, hafter, -, hlist⟩ | ⟨hbefore, hafter⟩
  · rw [Workspace.fitting, Workspace.fitting, hbefore, hafter]
    simp only [h.fitting?_written c]
    cases hlist with
    | same => rfl
    | file a b old => exact FileSystem.filterMap_sortByName_replace (by rfl) a b
    | inner a b x inner inner' _ => exact FileSystem.filterMap_sortByName_replace (by rfl) a b
    | new _ hdir =>
        -- The new name is in the list, but it is no directory.
        have hnone : Workspace.fitting? fs part d outputName = none := by
          apply fitting?_of_not_directory
          intro es' hes'
          obtain ⟨q', hq', hget⟩ := FileSystem.entry_eq_some_iff.mp hes'
          exact h.sole.not_directory_beside (by decide) (hdir ▸ hplace) hq' es' hget
        obtain ⟨a, b, hold, hnew, -, -⟩ :=
          FileSystem.sortByName_concat (outputName, Entry.file c) es
        rw [hold, hnew, List.filterMap_append, List.filterMap_append, List.filterMap_cons, hnone]
  · rw [fitting_of_not_directory hbefore, fitting_of_not_directory hafter]

theorem Apart.expand_written (dirs : List Path) (parts : List String) :
    Workspace.expand (fs.putFile (dir ++ [outputName]) c) dirs parts =
      Workspace.expand fs dirs parts := by
  induction parts generalizing dirs with
  | nil => rfl
  | cons part rest ih =>
      have hfitting : Workspace.fitting (fs.putFile (dir ++ [outputName]) c) part =
          Workspace.fitting fs part := funext (h.fitting_written c part)
      rw [expand_cons, expand_cons, hfitting, ih, ih]

theorem Apart.members_written (r : Workspace.Root) (fuel : Nat)
    (done : List (Path × Package)) (waiting : List Path) :
    Workspace.members (fs.putFile (dir ++ [outputName]) c) r fuel done waiting =
      Workspace.members fs r fuel done waiting := by
  induction fuel generalizing done waiting with
  | zero => rw [Workspace.members, Workspace.members]
  | succ fuel ih =>
      cases waiting with
      | nil => rw [Workspace.members, Workspace.members]
      | cons d waiting =>
          rw [Workspace.members, Workspace.members, ih, h.entries_written c]
          split
          · rfl
          · cases hes : Manifest.entries fs d with
            | error e => simp only [bind, Except.bind]
            | ok es =>
                simp only [bind, Except.bind, h.package_written c _ _ (h.spares d es hes), ih]

theorem Apart.allMembers_written (r : Workspace.Root) :
    Workspace.allMembers (fs.putFile (dir ++ [outputName]) c) r = Workspace.allMembers fs r := by
  rw [Workspace.allMembers, Workspace.allMembers, h.members_written c, Workspace.listed,
    Workspace.listed]
  simp only [h.expand_written c]

theorem Apart.packageAt_written (d : Path) :
    Workspace.packageAt (fs.putFile (dir ++ [outputName]) c) d = Workspace.packageAt fs d := by
  rw [Workspace.packageAt, Workspace.packageAt, h.entries_written c]
  cases hes : Manifest.entries fs d with
  | error e => rfl
  | ok es =>
      simp only [bind, Except.bind, h.above_written c, h.allMembers_written c,
        h.package_written c _ _ (h.spares d es hes)]

/-! ## Crates -/

theorem Apart.load_written {manifest : Path}
    (hcanonical : (fs.putFile (dir ++ [outputName]) c).canonical manifest =
      fs.canonical manifest) :
    Crate.load (fs.putFile (dir ++ [outputName]) c) manifest = Crate.load fs manifest := by
  rw [Crate.load, Crate.load, hcanonical]
  simp only [h.packageAt_written c]

theorem Apart.locateIn_written (d : Path) (ups : List Path) :
    Crate.locateIn (fs.putFile (dir ++ [outputName]) c) d ups = Crate.locateIn fs d ups := by
  induction ups with
  | nil => rfl
  | cons up ups ih =>
      rw [Crate.locateIn, Crate.locateIn, h.sole.isFile_eq c (not_hasEnding_manifest up), ih]
      split
      · rfl
      · next hfile =>
        have hcanonical : (fs.putFile (dir ++ [outputName]) c).canonical (up.join manifestName) =
            fs.canonical (up.join manifestName) := by
          rw [FileSystem.canonical, FileSystem.canonical]
          rcases h.sole.place_cases c (not_hasEnding_manifest up) with
            ⟨q, -, hbefore, hafter⟩ | ⟨e, e', hbefore, -⟩
          · rw [hbefore, hafter]
          · simp [FileSystem.isFile, FileSystem.entry?, hbefore] at hfile
        rw [h.load_written c hcanonical]

theorem Apart.locate_written (d : Path) :
    Crate.locate (fs.putFile (dir ++ [outputName]) c) d = Crate.locate fs d :=
  h.locateIn_written c d d.ancestors

end Written

end Overlay.Generate
