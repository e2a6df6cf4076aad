import Mathlib.Data.List.Sort
import Overlay.Generate.LocalModule
import Overlay.Proofs.TidyTrees

/-!
# The files of the local module

The module of a script's directory is read file by file, and a file that cannot be
parsed does not end the reading. `Parses` says what a file comes to on its own,
and `readUnits_of_parses` says, by induction over the names, what a list of files
comes to: the units of those that are sources and the complaints about the others,
both in the order of the files.

The names are those of the directory's list without the output. They are in strict
order, so two directories that differ in nothing but the output give the same names
and the same files (`load_ignores_output`). What the module declares under a name is
found by going through the units in that order.
-/

namespace Overlay.Generate

open Source (Node Diagnostic SourceFile)
open Files (FileSystem Path Place Entry Content Listed)

namespace LocalModule

/-! ## Files one by one -/

/-- What a file of an opened directory comes to when it is parsed. -/
def Parses (fs : FileSystem) (here : Place) (dir : Path) (n : String)
    (result : Except Diagnostic SourceFile) : Prop :=
  ∃ text, fs.readBelow here n = .ok text ∧ SourceFile.parse (dir.join n) text = result

/-- The unit of a whole file. -/
def unit (source : SourceFile) : SourceUnit := ⟨source, source.tree.items⟩

def sources (results : List (Except Diagnostic SourceFile)) : List SourceFile :=
  results.filterMap fun r => match r with
    | .ok source => some source
    | .error _ => none

def complaints (results : List (Except Diagnostic SourceFile)) : List Diagnostic :=
  results.filterMap fun r => match r with
    | .ok _ => none
    | .error d => some d

section Reading

variable {fs : FileSystem} {here : Place} {dir : Path} {names : List String}
  {results : List (Except Diagnostic SourceFile)}

theorem Parses.unique {n : String} {r r' : Except Diagnostic SourceFile}
    (h : Parses fs here dir n r) (h' : Parses fs here dir n r') : r = r' := by
  obtain ⟨text, hread, hparse⟩ := h
  obtain ⟨text', hread', hparse'⟩ := h'
  obtain rfl : text = text' := Except.ok.inj (hread.symm.trans hread')
  exact hparse.symm.trans hparse'

theorem exists_parses (h : ∀ n ∈ names, ∃ text, fs.readBelow here n = .ok text) :
    ∃ results, List.Forall₂ (Parses fs here dir) names results := by
  induction names with
  | nil => exact ⟨[], .nil⟩
  | cons n names ih =>
      obtain ⟨text, htext⟩ := h n (List.mem_cons_self ..)
      obtain ⟨results, hresults⟩ := ih fun m hm => h m (List.mem_cons_of_mem n hm)
      exact ⟨_, .cons ⟨text, htext, rfl⟩ hresults⟩

theorem readUnits_of_parses (h : List.Forall₂ (Parses fs here dir) names results) :
    readUnits fs here dir names = .ok ((sources results).map unit, complaints results) := by
  induction h with
  | nil => rfl
  | cons hhead _ ih =>
      obtain ⟨text, hread, rfl⟩ := hhead
      rw [readUnits, hread, ih]
      simp only [Except.mapError, bind, Except.bind]
      split <;> next hparse => simp [sources, complaints, hparse, unit, pure, Except.pure]

/-- Without complaints every file is a source. -/
theorem forall₂_sources (h : List.Forall₂ (Parses fs here dir) names results)
    (hnone : complaints results = []) :
    List.Forall₂ (fun n source => Parses fs here dir n (.ok source)) names (sources results) := by
  induction h with
  | nil => exact .nil
  | @cons n r _ _ hhead _ ih =>
      cases r with
      | error d => cases hnone
      | ok source => exact .cons hhead (ih hnone)

theorem complaints_eq_nil_iff (h : List.Forall₂ (Parses fs here dir) names results) :
    complaints results = [] ↔ ∀ n ∈ names, ∃ source, Parses fs here dir n (.ok source) := by
  induction h with
  | nil => simp [complaints]
  | @cons n r _ _ hhead _ ih =>
      rw [List.forall_mem_cons, ← ih]
      cases r with
      | error d =>
          refine iff_of_false nofun ?_
          rintro ⟨⟨source, hsource⟩, -⟩
          cases hhead.unique hsource
      | ok source => exact (and_iff_right ⟨source, hhead⟩).symm

theorem readUnits_congr {fs' : FileSystem} {here' : Place}
    (h : ∀ n ∈ names, fs'.readBelow here' n = fs.readBelow here n) :
    readUnits fs' here' dir names = readUnits fs here dir names := by
  induction names with
  | nil => rfl
  | cons n names ih =>
      rw [readUnits, readUnits, h n (List.mem_cons_self ..),
        ih fun m hm => h m (List.mem_cons_of_mem n hm)]

end Reading

/-! ## The names of the files -/

/-- The names of the other sources beside the script, in their order. -/
def siblings (es : List (String × Entry)) : List String :=
  (FileSystem.sortByName (es.filter fun (n, e) => isSibling n e)).map Prod.fst

theorem fileNames_eq (es : List (String × Entry)) : fileNames es = scriptName :: siblings es := rfl

section Names

variable {fs : FileSystem} {here : Place} {es : List (String × Entry)} {n : String}

theorem isSibling_iff {e : Entry} : isSibling n e = true ↔
    (∃ c, e = .file c) ∧ Path.hasEnding ".rs" n = true ∧ n ≠ scriptName ∧ n ≠ outputName := by
  cases e <;> simp [isSibling, and_assoc]

theorem mem_siblings : n ∈ siblings es ↔ (∃ c, (n, Entry.file c) ∈ es) ∧
    Path.hasEnding ".rs" n = true ∧ n ≠ scriptName ∧ n ≠ outputName := by
  rw [siblings, List.mem_map]
  constructor
  · rintro ⟨⟨m, e⟩, hmem, rfl⟩
    obtain ⟨hes, hsibling⟩ := List.mem_filter.mp (FileSystem.mem_sortByName.mp hmem)
    obtain ⟨⟨c, rfl⟩, hrest⟩ := isSibling_iff.mp hsibling
    exact ⟨⟨c, hes⟩, hrest⟩
  · rintro ⟨⟨c, hes⟩, hrest⟩
    refine ⟨(n, .file c), FileSystem.mem_sortByName.mpr ?_, rfl⟩
    exact List.mem_filter.mpr ⟨hes, isSibling_iff.mpr ⟨⟨c, rfl⟩, hrest⟩⟩

theorem pairwise_siblings (h : Listed es) : (siblings es).Pairwise (· < ·) := by
  rw [siblings, List.pairwise_map]
  exact FileSystem.pairwise_sortByName (h.distinct.sublist (List.filter_sublist.map _))

/-- Only the output may differ between two lists that give the same names. -/
theorem siblings_congr {es' : List (String × Entry)} (h : Listed es) (h' : Listed es')
    (hsame : ∀ n, n ≠ outputName → Entry.find? n es' = Entry.find? n es) :
    siblings es' = siblings es := by
  refine (pairwise_siblings h').eq_of_mem_iff (pairwise_siblings h) fun n => ?_
  rw [mem_siblings, mem_siblings]
  refine and_congr_left fun hrest => exists_congr fun c => ?_
  rw [← Entry.find?_eq_some_iff h.distinct, ← Entry.find?_eq_some_iff h'.distinct,
    hsame n hrest.2.2]

/-- A name that is no link is read where it stands. -/
theorem readBelow_of_no_link (hn : FileSystem.IsName n)
    (hes : fs.root.get? here = some (.directory es))
    (hlink : ∀ target, Entry.find? n es ≠ some (.link target)) :
    fs.readBelow here n = FileSystem.textOf (Entry.find? n es) := by
  have hget := Entry.get?_directory_snoc hes n
  rw [FileSystem.readBelow, hn.walkBelow_eq hes (by simpa [hget] using hlink), hget]
  cases hfind : Entry.find? n es with
  | none => rfl
  | some e =>
      rw [hfind] at hget
      simp only [Option.isSome_some, if_true, hget]

end Names

/-! ## What a module declares -/

/-- The first declaration of a type in a file. -/
def firstDeclaration? (declared : String) (source : SourceFile) : Option (SourceFile × Node) :=
  (source.tree.items.find? fun item => declaredType? item == some declared).map (source, ·)

theorem declaration?_units (name : String) (dir : Path) (sources : List SourceFile)
    (declared : String) :
    Module.declaration? ⟨name, dir, sources.map unit⟩ declared =
      sources.findSome? (firstDeclaration? declared) := by
  rw [Module.declaration?, Module.items]
  induction sources with
  | nil => rfl
  | cons s rest ih =>
      rw [List.map_cons, List.flatMap_cons, List.find?_append, ih, List.find?_map,
        List.findSome?_cons]
      change (firstDeclaration? declared s).or _ = _
      cases firstDeclaration? declared s <;> rfl

section First

variable {β : Type} {P : String → SourceFile → Prop} {f : SourceFile → Option β}
  {before after names : List String} {n : String} {sources : List SourceFile}

/-- The first file that gives something decides. -/
theorem findSome?_of_before {b : β} (h : List.Forall₂ P (before ++ n :: after) sources)
    (hbefore : ∀ k ∈ before, ∀ s, P k s → f s = none) (hn : ∀ s, P n s → f s = some b) :
    sources.findSome? f = some b := by
  induction before generalizing sources with
  | nil =>
      obtain _ | ⟨hhead, -⟩ := h
      rw [List.findSome?_cons, hn _ hhead]
  | cons k before ih =>
      obtain _ | ⟨hhead, htail⟩ := h
      rw [List.findSome?_cons, hbefore k (List.mem_cons_self ..) _ hhead]
      exact ih htail fun m hm => hbefore m (List.mem_cons_of_mem k hm)

theorem findSome?_of_none (h : List.Forall₂ P names sources)
    (hnames : ∀ k ∈ names, ∀ s, P k s → f s = none) : sources.findSome? f = none := by
  induction h with
  | nil => rfl
  | cons hhead _ ih =>
      rw [List.findSome?_cons, hnames _ (List.mem_cons_self ..) _ hhead]
      exact ih fun k hk => hnames k (List.mem_cons_of_mem _ hk)

end First

/-! ## The module of a directory -/

section Loading

variable {fs : FileSystem} {script : Path} {name : String} {here : Place}
  {es : List (String × Entry)} {results : List (Except Diagnostic SourceFile)}

/-- The directory of a script. -/
def directoryOf (script : Path) : Path := script.parent?.getD "."

theorem load_eq (hopen : fs.openDirectory (directoryOf script) = .ok here)
    (hes : fs.root.get? here = some (.directory es)) :
    load fs script name =
      (readUnits fs here (directoryOf script) (scriptName :: siblings es)).bind fun read =>
        if read.2.isEmpty then .ok ⟨name, directoryOf script, read.1⟩
        else .error (.diagnostics read.2) := by
  rw [directoryOf] at hopen
  delta load
  simp only [hopen, bind, Except.bind, hes, Option.map_some, Option.getD_some, Entry.children,
    fileNames_eq]
  rfl

theorem load_of_parses (name : String)
    (hopen : fs.openDirectory (directoryOf script) = .ok here)
    (hes : fs.root.get? here = some (.directory es))
    (h : List.Forall₂ (Parses fs here (directoryOf script)) (scriptName :: siblings es) results) :
    load fs script name =
      if complaints results = [] then .ok ⟨name, directoryOf script, (sources results).map unit⟩
      else .error (.diagnostics (complaints results)) := by
  rw [load_eq hopen hes, readUnits_of_parses h]
  simp [Except.bind]

theorem load_ignores_output {fs' : FileSystem} {here' : Place} {es' : List (String × Entry)}
    (hopen : fs.openDirectory (directoryOf script) = .ok here)
    (hes : fs.root.get? here = some (.directory es)) (hlisted : Listed es)
    (hopen' : fs'.openDirectory (directoryOf script) = .ok here')
    (hes' : fs'.root.get? here' = some (.directory es')) (hlisted' : Listed es')
    (hsame : ∀ n, n ≠ outputName → Entry.find? n es' = Entry.find? n es)
    (hlink : ∀ target, Entry.find? scriptName es ≠ some (.link target)) :
    load fs' script name = load fs script name := by
  rw [load_eq hopen hes, load_eq hopen' hes', siblings_congr hlisted hlisted' hsame]
  congr 1
  refine readUnits_congr fun n hn => ?_
  have hread : FileSystem.IsName n ∧ n ≠ outputName ∧
      ∀ target, Entry.find? n es ≠ some (.link target) := by
    rcases List.mem_cons.mp hn with rfl | hn
    · exact ⟨by decide, by decide, hlink⟩
    · obtain ⟨⟨c, hc⟩, -, -, hne⟩ := mem_siblings.mp hn
      refine ⟨hlisted.named _ hc, hne, ?_⟩
      simp [Entry.find?_of_mem hlisted.distinct hc]
  obtain ⟨hname, hne, hnolink⟩ := hread
  rw [readBelow_of_no_link hname hes hnolink,
    readBelow_of_no_link hname hes' (by simpa [hsame n hne] using hnolink), hsame n hne]

/-- Every file of the directory that has to be read can be read. -/
theorem exists_text (hes : fs.root.get? here = some (.directory es)) (hlisted : Listed es)
    (hscript : ∃ text, fs.readBelow here scriptName = .ok text)
    (hreads : ∀ n c, (n, Entry.file c) ∈ es → Path.hasEnding ".rs" n = true → n ≠ outputName →
      ∃ text, c = .text text) {n : String} (hn : n ∈ scriptName :: siblings es) :
    ∃ text, fs.readBelow here n = .ok text := by
  rcases List.mem_cons.mp hn with rfl | hn
  · exact hscript
  · obtain ⟨⟨c, hc⟩, hending, -, hne⟩ := mem_siblings.mp hn
    obtain ⟨text, rfl⟩ := hreads n c hc hending hne
    have hfind := Entry.find?_of_mem hlisted.distinct hc
    refine ⟨text, ?_⟩
    rw [readBelow_of_no_link (hlisted.named _ hc) hes (by simp [hfind]), hfind]
    rfl

/-- What stands before a sibling in the order of the files. -/
theorem exists_before (hlisted : Listed es) {n : String} (hn : n ∈ siblings es) :
    ∃ before after, scriptName :: siblings es = (scriptName :: before) ++ n :: after ∧
      ∀ k ∈ before, k < n := by
  obtain ⟨before, after, hsplit⟩ := List.append_of_mem hn
  refine ⟨before, after, by rw [hsplit, List.cons_append], ?_⟩
  intro k hk
  have hsorted := pairwise_siblings hlisted
  rw [hsplit, List.pairwise_append] at hsorted
  exact hsorted.2.2 k hk n (List.mem_cons_self ..)

/-- A directory with a script, in which all source files can be read, is read as a
module, the script first and then its siblings in ascending order, if and only if
all of them can be parsed. Of several declarations of one type the script's counts
first, and then that of the least sibling. Otherwise the failure has the complaints
about all files that cannot be parsed, in the same order. The output has no part in
this, whatever it is, unless the script is a link. -/
theorem load_complete (fs : FileSystem) (script : Path) (name : String) (here : Place)
    (es : List (String × Entry)) (hopen : fs.openDirectory (directoryOf script) = .ok here)
    (hes : fs.root.get? here = some (.directory es)) (hlisted : Listed es)
    (hscript : ∃ text, fs.readBelow here scriptName = .ok text)
    (hreads : ∀ n c, (n, Entry.file c) ∈ es → Path.hasEnding ".rs" n = true → n ≠ outputName →
      ∃ text, c = .text text) :
    let files := scriptName :: siblings es
    let parses := Parses fs here (directoryOf script)
    ((siblings es).Pairwise (· < ·) ∧ ∀ n, n ∈ siblings es ↔ (∃ c, (n, Entry.file c) ∈ es) ∧
      Path.hasEnding ".rs" n = true ∧ n ≠ scriptName ∧ n ≠ outputName) ∧
    ((∃ m, load fs script name = .ok m) ↔ ∀ n ∈ files, ∃ source, parses n (.ok source)) ∧
    (∀ m, load fs script name = .ok m →
      (∃ sources, List.Forall₂ (fun n source => parses n (.ok source)) files sources ∧
        m = ⟨name, directoryOf script, sources.map unit⟩) ∧
      ∀ declared,
        (∀ source d, parses scriptName (.ok source) →
          firstDeclaration? declared source = some d → m.declaration? declared = some d) ∧
        (∀ n ∈ siblings es, ∀ source d, parses n (.ok source) →
          firstDeclaration? declared source = some d →
          (∀ k ∈ files, k = scriptName ∨ k < n →
            ∀ other, parses k (.ok other) → firstDeclaration? declared other = none) →
          m.declaration? declared = some d) ∧
        ((∀ k ∈ files, ∀ other, parses k (.ok other) →
          firstDeclaration? declared other = none) → m.declaration? declared = none)) ∧
    (∀ f, load fs script name = .error f → ∃ results, List.Forall₂ parses files results ∧
      complaints results ≠ [] ∧ f = .diagnostics (complaints results)) ∧
    ∀ (fs' : FileSystem) (here' : Place) (es' : List (String × Entry)),
      fs'.openDirectory (directoryOf script) = .ok here' →
      fs'.root.get? here' = some (.directory es') → Listed es' →
      (∀ n, n ≠ outputName → Entry.find? n es' = Entry.find? n es) →
      (∀ target, Entry.find? scriptName es ≠ some (.link target)) →
      load fs' script name = load fs script name := by
  intro files parses
  obtain ⟨results, hresults⟩ : ∃ results, List.Forall₂ parses files results :=
    exists_parses fun n hn => exists_text hes hlisted hscript hreads hn
  have hload := load_of_parses name hopen hes hresults
  refine ⟨⟨pairwise_siblings hlisted, fun n => mem_siblings⟩, ?_, ?_, ?_, ?_⟩
  · rw [← complaints_eq_nil_iff hresults, hload]
    split
    · next hnone => exact iff_of_true ⟨_, rfl⟩ hnone
    · next hsome => exact iff_of_false nofun hsome
  · intro m hm
    have hnone : complaints results = [] := by
      by_contra hsome
      rw [hload, if_neg hsome] at hm
      cases hm
    rw [hload, if_pos hnone] at hm
    obtain rfl := Except.ok.inj hm
    have hsources := forall₂_sources hresults hnone
    refine ⟨⟨_, hsources, rfl⟩, fun declared => ?_⟩
    rw [declaration?_units]
    refine ⟨?_, ?_, findSome?_of_none hsources⟩
    · intro source d hparses hd
      have hordered : List.Forall₂ _ ([] ++ scriptName :: siblings es) _ := hsources
      refine findSome?_of_before hordered (by simp) fun other hother => ?_
      rw [← Except.ok.inj (hparses.unique hother), hd]
    · intro n hn source d hparses hd hearlier
      obtain ⟨before, after, hsplit, hbefore⟩ := exists_before hlisted hn
      have hfiles : files = scriptName :: before ++ n :: after := hsplit
      rw [hfiles] at hsources
      refine findSome?_of_before hsources ?_ fun other hother => ?_
      · intro k hk
        refine hearlier k (hfiles ▸ List.mem_append_left _ hk) ?_
        exact (List.mem_cons.mp hk).imp_right (hbefore k)
      · rw [← Except.ok.inj (hparses.unique hother), hd]
  · intro f hf
    by_cases hnone : complaints results = []
    · rw [hload, if_pos hnone] at hf
      cases hf
    · rw [hload, if_neg hnone] at hf
      exact ⟨results, hresults, hnone, (Except.error.inj hf).symm⟩
  · intro fs' here' es' hopen' hes' hlisted' hsame hlink
    exact load_ignores_output hopen hes hlisted hopen' hes' hlisted' hsame hlink

theorem parses_of_isSome {dir : Path} {n text : String} (hread : fs.readBelow here n = .ok text)
    (h : (SourceFile.parse (dir.join n) text).toOption.isSome = true) :
    ∃ source, Parses fs here dir n (.ok source) := by
  cases hparse : SourceFile.parse (dir.join n) text with
  | error d => rw [hparse] at h; cases h
  | ok source => exact ⟨source, text, hread, hparse⟩

/-- A directory with an output that cannot be parsed and a sibling that stands
before the script by its name. -/
def besideScript : List (String × Entry) :=
  [("config_gen.rs", .file (.text "struct")),
    ("z.rs", .file (.text "struct Z;")),
    ("config.rs", .file (.text "struct A;")),
    ("a.rs", .file (.text "struct A; struct Z;"))]

theorem load_complete_beside :
    Listed besideScript ∧ ∃ m, load ⟨.directory besideScript, []⟩ "/config.rs" "demo" = .ok m ∧
      ∃ sources : List SourceFile, m.units = sources.map unit ∧ sources.length = 3 := by
  have hlisted : Listed besideScript := by decide
  have hreads : ∀ n c, (n, Entry.file c) ∈ besideScript → Path.hasEnding ".rs" n = true →
      n ≠ outputName → ∃ text, c = .text text := by
    intro n c hc _ _
    simp only [besideScript, List.mem_cons, Prod.mk.injEq, Entry.file.injEq, List.not_mem_nil,
      or_false] at hc
    rcases hc with ⟨-, rfl⟩ | ⟨-, rfl⟩ | ⟨-, rfl⟩ | ⟨-, rfl⟩ <;> exact ⟨_, rfl⟩
  obtain ⟨-, hiff, hunits, -⟩ := load_complete ⟨.directory besideScript, []⟩ "/config.rs" "demo"
    [] besideScript rfl rfl hlisted ⟨_, rfl⟩ hreads
  have hsiblings : siblings besideScript = ["a.rs", "z.rs"] := by decide
  rw [hsiblings] at hiff hunits
  have hparsed : ∀ n ∈ [scriptName, "a.rs", "z.rs"], ∃ source,
      Parses ⟨.directory besideScript, []⟩ [] (directoryOf "/config.rs") n (.ok source) := by
    simp only [List.forall_mem_cons, List.not_mem_nil, false_imp_iff, implies_true, and_true]
    exact ⟨parses_of_isSome rfl (by decide +kernel), parses_of_isSome rfl (by decide +kernel),
      parses_of_isSome rfl (by decide +kernel)⟩
  obtain ⟨m, hm⟩ := hiff.mpr hparsed
  obtain ⟨⟨sources, hsources, rfl⟩, -⟩ := hunits m hm
  exact ⟨hlisted, _, hm, sources, rfl, hsources.length_eq.symm⟩

end Loading

end LocalModule

end Overlay.Generate
