import Overlay.Generate.Discovery
import Overlay.Generate.LocalModule
import Overlay.Proofs.SteadyCrates

/-!
# Sources are read the same once the output is written

The output stands in the directory of its script, which is searched for scripts and
read as a module. Neither finds it: it is no script, whatever it holds, and it is
left out of the module by its name. So the same scripts are found in the same order
(`scripts_written`), and the module of the directory is the same (`load_written`).
Any other source is read by a path, and a path that does not have the output's name
on it leads to the same text, or is missing in the same way (`loadSource_written`).
-/

namespace Overlay.Generate

open Files
open Source (SourceFile)

namespace Discovery

/-! ## Scripts below a directory -/

theorem searchAll_append (base : Path) (a b : List (String × Entry)) :
    searchAll base (a ++ b) = searchAll base a ++ searchAll base b := by
  induction a with
  | nil => rfl
  | cons x a ih =>
      obtain ⟨name, e⟩ := x
      rw [List.cons_append, searchAll, searchAll, ih, List.cons_append]

theorem andThen_ok {α : Type} (r : Reported α) : (r >>= fun a => pure a) = r := by
  obtain ⟨events, result⟩ := r
  cases result with
  | error f => rfl
  | ok a => exact congrArg (·, Except.ok a) (List.append_nil events)

/-- An entry without scripts changes nothing, wherever it stands. -/
theorem inOrder_concat (outcomes : List (String × Outcome)) (name : String) :
    inOrder (outcomes ++ [(name, Reported.ok [])]) = inOrder outcomes := by
  obtain ⟨a, b, hold, hnew, -, -⟩ :=
    FileSystem.sortByName_concat (name, (Reported.ok [] : Outcome)) outcomes
  rw [inOrder, inOrder, hold, hnew, List.foldr_append, List.foldr_append, List.foldr_cons]
  congr 1
  exact andThen_ok _

theorem search_output (path : Path) (c : Content) :
    search path outputName (.file c) = Reported.ok [] := by
  rw [search, if_neg (by decide)]

/-- A file with the output's name, somewhere below, is not found. -/
theorem searchAll_put (base : Path) {init : Place} {es ds : List (String × Entry)} (c : Content)
    (hdir : Entry.get? init (.directory es) = some (.directory ds))
    (hfile : ∀ e, Entry.get? (init ++ [outputName]) (.directory es) = some e →
      ∃ old, e = .file old) :
    inOrder (searchAll base
      (Entry.put (.file c) (init ++ [outputName]) (.directory es)).children) =
      inOrder (searchAll base es) := by
  induction init generalizing es base with
  | nil =>
      rw [List.nil_append] at hfile ⊢
      cases hfind : Entry.find? outputName es with
      | none =>
          rw [Entry.put_of_find?_none hfind, Entry.children, searchAll_append, searchAll,
            searchAll, search_output, inOrder_concat]
      | some e =>
          obtain ⟨old, rfl⟩ := hfile e (by rw [Entry.get?, hfind]; rfl)
          obtain ⟨a, b, rfl, hput⟩ := Entry.put_of_find? hfind (.file c) []
          rw [hput, Entry.children, searchAll_append, searchAll_append, Entry.put, searchAll,
            searchAll, search_output, search_output]
  | cons x init ih =>
      obtain ⟨child, hfind, hchild⟩ := Option.bind_eq_some_iff.mp hdir
      have hinner : ∃ inner, child = .directory inner := by
        cases init with
        | nil => exact ⟨ds, Option.some.inj hchild⟩
        | cons y init =>
            cases child with
            | file c => cases hchild
            | link target => cases hchild
            | directory inner => exact ⟨inner, rfl⟩
      obtain ⟨inner, rfl⟩ := hinner
      have hfile' : ∀ e, Entry.get? (init ++ [outputName]) (.directory inner) = some e →
          ∃ old, e = .file old := by
        intro e he
        refine hfile e ?_
        rw [List.cons_append, Entry.get?, hfind, Option.bind_some]
        exact he
      obtain ⟨a, b, rfl, hput⟩ := Entry.put_of_find? hfind (.file c) (init ++ [outputName])
      have hsearch : search (base.join x) x
          (Entry.put (.file c) (init ++ [outputName]) (.directory inner)) =
            search (base.join x) x (.directory inner) := by
        have hih := ih (base.join x) hchild hfile'
        obtain ⟨y, more, hcons⟩ := List.exists_cons_of_ne_nil
          (show init ++ [outputName] ≠ [] by simp)
        rw [hcons, Entry.put_cons] at hih ⊢
        rw [search, search]
        split
        · exact hih
        · rfl
      rw [List.cons_append, hput, Entry.children, searchAll_append, searchAll_append, searchAll,
        searchAll, hsearch]

end Discovery

section Written

variable {fs : FileSystem} {dir : Place} (h : Apart fs dir) (c : Content)
include h

theorem Apart.scripts_written {root : Path} {here : Place}
    (hroot : fs.openDirectory root = .ok here) :
    Discovery.scripts (fs.putFile (dir ++ [outputName]) c) root = Discovery.scripts fs root := by
  obtain ⟨-, es, hes⟩ := FileSystem.openDirectory_eq_ok_iff.mp hroot
  rw [Discovery.scripts, Discovery.scripts, hroot, h.sole.openDirectory_written c hroot]
  simp only [hes, Option.map_some, Option.getD_some]
  by_cases habove : here <+: dir ++ [outputName]
  · obtain ⟨rest, hrest⟩ := habove
    have hne : rest ≠ [] := by
      rintro rfl
      rw [List.append_nil] at hrest
      obtain ⟨old, hold⟩ := h.sole.file _ (hrest ▸ hes)
      cases hold
    obtain ⟨ds, hds⟩ := h.sole.directory
    rw [← List.dropLast_concat_getLast hne, ← List.append_assoc] at hrest
    obtain ⟨hinit, hlast⟩ := List.append_inj' hrest rfl
    rw [← hinit, Entry.get?_append, hes, Option.bind_some] at hds
    have hfile : ∀ e, Entry.get? (rest.dropLast ++ [outputName]) (.directory es) = some e →
        ∃ old, e = .file old := by
      intro e he
      refine h.sole.file e ?_
      rw [← hinit, List.append_assoc, Entry.get?_append, hes, Option.bind_some, he]
    have hput : (fs.putFile (dir ++ [outputName]) c).root.get? here =
        some (Entry.put (.file c) (rest.dropLast ++ [outputName]) (.directory es)) := by
      rw [FileSystem.putFile, ← hinit, List.append_assoc, Entry.get?_put_append hes]
    rw [hput, Option.map_some, Option.getD_some]
    exact Discovery.searchAll_put root c hds hfile
  · have hbelow : ¬ dir ++ [outputName] <+: here := by
      rintro ⟨rest, rfl⟩
      have hne : rest ≠ [] := by
        rintro rfl
        exact habove ⟨[], by simp⟩
      obtain ⟨es', hes'⟩ := Entry.exists_directory_of_get? hne hes
      obtain ⟨old, hold⟩ := h.sole.file _ hes'
      cases hold
    rw [FileSystem.putFile, Entry.get?_put_of_apart _ hbelow habove, hes, Option.map_some,
      Option.getD_some, Entry.children]

/-! ## The module of the script's directory -/

omit h in
theorem fileNames_relisted {es es' : List (String × Entry)}
    (hlist : FileSystem.Relisted dir outputName c dir es es') :
    LocalModule.fileNames es' = LocalModule.fileNames es := by
  rw [LocalModule.fileNames, LocalModule.fileNames]
  cases hlist with
  | same => rfl
  | file a b old => simp [List.filter_append, LocalModule.isSibling]
  | inner a b x inner inner' _ => simp [List.filter_append, LocalModule.isSibling]
  | new _ _ => simp [List.filter_append, LocalModule.isSibling]

theorem Apart.readUnits_written (path : Path) {names : List String}
    (hnames : ∀ n ∈ names, '/' ∉ n.toList ∧ n ≠ outputName) :
    LocalModule.readUnits (fs.putFile (dir ++ [outputName]) c) dir path names =
      LocalModule.readUnits fs dir path names := by
  induction names with
  | nil => rfl
  | cons n names ih =>
      obtain ⟨hslash, hne⟩ := hnames n (List.mem_cons_self ..)
      have hdir : dir ≠ dir ++ [outputName] := by simp
      rw [LocalModule.readUnits, LocalModule.readUnits, h.sole.readBelow_eq c hdir hslash hne,
        ih fun m hm => hnames m (List.mem_cons_of_mem n hm)]

theorem Apart.load_module_written {script : Path} (name : String)
    (hdir : fs.openDirectory (script.parent?.getD ".") = .ok dir) :
    LocalModule.load (fs.putFile (dir ++ [outputName]) c) script name =
      LocalModule.load fs script name := by
  obtain ⟨-, es, hes⟩ := FileSystem.openDirectory_eq_ok_iff.mp hdir
  obtain ⟨es', hes', hlist⟩ := h.sole.relisted c hes
  have hnames : ∀ n ∈ LocalModule.fileNames es, '/' ∉ n.toList ∧ n ≠ outputName := by
    intro n hn
    rcases List.mem_cons.mp hn with rfl | hn
    · decide
    · obtain ⟨⟨m, e⟩, hx, rfl⟩ := List.mem_map.mp hn
      obtain ⟨hmem, hsibling⟩ := List.mem_filter.mp (FileSystem.mem_sortByName.mp hx)
      refine ⟨h.names es hes _ hmem, ?_⟩
      rintro rfl
      cases e <;> simp [LocalModule.isSibling] at hsibling
  delta LocalModule.load
  simp only [hdir, h.sole.openDirectory_written c hdir, bind, Except.bind, hes, hes',
    Option.map_some, Option.getD_some, Entry.children, fileNames_relisted c hlist,
    h.readUnits_written c _ hnames]

/-! ## Sources by their paths -/

theorem Apart.readOptional_written {path : Path} (hpath : outputName ∉ Path.parts path) :
    readOptional (fs.putFile (dir ++ [outputName]) c) path = readOptional fs path := by
  rw [readOptional, readOptional]
  match hparent : path.parent?, hname : path.fileName? with
  | none, none => rfl
  | none, some name => rfl
  | some parent, none => rfl
  | some parent, some name =>
      have hfree : outputName ∉ Path.parts parent := fun hmem =>
        hpath (Path.parts_parent? hparent hmem)
      obtain ⟨hmem, hslash⟩ := Path.fileName?_mem hname
      have hne : name ≠ outputName := by
        rintro rfl
        exact hpath hmem
      simp only [h.sole.openDirectory_eq c hfree]
      cases hopen : fs.openDirectory parent with
      | error e => cases e <;> rfl
      | ok d =>
          obtain ⟨-, es, hes⟩ := FileSystem.openDirectory_eq_ok_iff.mp hopen
          have hd : d ≠ dir ++ [outputName] := by
            rintro rfl
            obtain ⟨old, hold⟩ := h.sole.file _ hes
            cases hold
          simp only [h.sole.readBelow_eq c hd hslash hne]

theorem Apart.loadSource_written {path : Path} (hpath : outputName ∉ Path.parts path) :
    loadSource (fs.putFile (dir ++ [outputName]) c) path = loadSource fs path := by
  rw [loadSource, loadSource, h.readOptional_written c hpath]

theorem Apart.firstSource_written {paths : List Path}
    (hpaths : ∀ p ∈ paths, outputName ∉ Path.parts p) :
    firstSource (fs.putFile (dir ++ [outputName]) c) paths = firstSource fs paths := by
  induction paths with
  | nil => rfl
  | cons p paths ih =>
      rw [firstSource, firstSource, h.loadSource_written c (hpaths p (List.mem_cons_self ..)),
        ih fun q hq => hpaths q (List.mem_cons_of_mem p hq)]

end Written

end Overlay.Generate
