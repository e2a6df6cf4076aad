import Overlay.Generate.Discovery
import Overlay.Proofs.TidyTrees

/-!
# Which scripts are found

The search goes through a tree directory by directory. In each directory it takes
the entries in the order of their names and puts together what they come to, so
a script is listed where its directory stands among the files and directories
beside it. This file says what the whole list is: the gated scripts that can be
reached, in the order of their paths.

The proof speaks of places below a directory and not of paths. `Accounts` says
that an outcome lists exactly the given places, and in ascending order. One step
of the search (`accounts_inOrder`) joins the accounts of the entries of a
directory: places that start with smaller names come first, and below one name
the order is that of the entry itself. The induction over the tree follows the
search. Paths come back in at the end: the parts of a path are those of the root
and then the names of the place.
-/

namespace Overlay.Generate

open Files (FileSystem Path Place Entry Content Listed)

namespace Discovery

/-! ## Places of scripts -/

/-- The place of a gated script below an entry: all directories on the way are
searched. -/
def IsScript (t : Entry) (place : Place) : Prop :=
  ∃ dirs text, place = dirs ++ [scriptName] ∧ (∀ d ∈ dirs, isSearched d = true) ∧
    t.get? place = some (.file (.text text)) ∧ Script.isGated text = true

/-- No script that the search comes to is without text. -/
def Legible (t : Entry) : Prop :=
  ∀ dirs bytes, (∀ d ∈ dirs, isSearched d = true) →
    t.get? (dirs ++ [scriptName]) ≠ some (.file (.binary bytes))

/-- The path of a place below a base. -/
def pathTo (base : Path) (place : Place) : Path := place.foldl Path.join base

/-- The outcome lists the paths of exactly these places, in ascending order. -/
def Accounts (o : Outcome) (base : Path) (P : Place → Prop) : Prop :=
  ∃ places : List Place, o.2 = .ok (places.map (pathTo base)) ∧
    (∀ place, place ∈ places ↔ P place) ∧ places.Pairwise (· < ·)

theorem accounts_none {base : Path} {P : Place → Prop} (h : ∀ place, ¬ P place) :
    Accounts (Reported.ok []) base P :=
  ⟨[], rfl, fun place => iff_of_false List.not_mem_nil (h place), List.Pairwise.nil⟩

/-! ## One directory -/

theorem searchAll_eq_map (base : Path) (es : List (String × Entry)) :
    searchAll base es = es.map fun x => (x.1, search (base.join x.1) x.1 x.2) := by
  induction es with
  | nil => rfl
  | cons x rest ih =>
      obtain ⟨name, e⟩ := x
      rw [searchAll, ih, List.map_cons]

/-- Where all entries come to something, the directory comes to all of it. -/
theorem inOrder_ok {base : Path} {es : List (String × Entry)}
    {found : String × Entry → List Path}
    (h : ∀ x ∈ es, (search (base.join x.1) x.1 x.2).2 = .ok (found x)) :
    (inOrder (searchAll base es)).2 = .ok ((FileSystem.sortByName es).flatMap found) := by
  have hsorted : ∀ x ∈ FileSystem.sortByName es,
      (search (base.join x.1) x.1 x.2).2 = .ok (found x) :=
    fun x hx => h x (FileSystem.mem_sortByName.mp hx)
  rw [inOrder, searchAll_eq_map, FileSystem.sortByName_map, List.foldr_map]
  generalize FileSystem.sortByName es = sorted at hsorted
  induction sorted with
  | nil => rfl
  | cons x rest ih =>
      have hrest := ih fun y hy => hsorted y (List.mem_cons_of_mem x hy)
      rw [List.foldr_cons, Reported.snd_bind, hsorted x (List.mem_cons_self ..)]
      simp only [Except.bind, Reported.snd_bind, hrest]
      rw [List.flatMap_cons, Reported.snd_pure]

/-- The accounts of the entries make up that of their directory. -/
theorem accounts_inOrder {base : Path} {es : List (String × Entry)}
    (hes : (es.map Prod.fst).Nodup) {P : Place → Prop} (hP : ¬ P [])
    (hnames : ∀ name place, P (name :: place) → ∃ e, (name, e) ∈ es)
    (h : ∀ name e, (name, e) ∈ es → Accounts (search (base.join name) name e)
      (base.join name) fun place => P (name :: place)) :
    Accounts (inOrder (searchAll base es)) base P := by
  have hchoice : ∀ x : String × Entry, ∃ places : List Place, x ∈ es →
      (search (base.join x.1) x.1 x.2).2 = .ok (places.map (pathTo (base.join x.1))) ∧
        (∀ place, place ∈ places ↔ P (x.1 :: place)) ∧ places.Pairwise (· < ·) := by
    intro x
    by_cases hx : x ∈ es
    · obtain ⟨places, hplaces⟩ := h x.1 x.2 hx
      exact ⟨places, fun _ => hplaces⟩
    · exact ⟨[], fun hmem => absurd hmem hx⟩
  choose placesOf hplaces using hchoice
  refine ⟨(FileSystem.sortByName es).flatMap fun x => (placesOf x).map (x.1 :: ·), ?_, ?_, ?_⟩
  · rw [inOrder_ok fun x hx => (hplaces x hx).1, List.map_flatMap]
    simp only [List.map_map]
    rfl
  · intro place
    rw [List.mem_flatMap]
    constructor
    · rintro ⟨x, hx, hplace⟩
      obtain ⟨inner, hinner, rfl⟩ := List.mem_map.mp hplace
      exact ((hplaces x (FileSystem.mem_sortByName.mp hx)).2.1 inner).mp hinner
    · intro hplace
      cases place with
      | nil => exact absurd hplace hP
      | cons name inner =>
          obtain ⟨e, he⟩ := hnames name inner hplace
          refine ⟨(name, e), FileSystem.mem_sortByName.mpr he, List.mem_map.mpr ⟨inner, ?_, rfl⟩⟩
          exact ((hplaces _ he).2.1 inner).mpr hplace
  · rw [List.pairwise_flatMap]
    refine ⟨?_, ?_⟩
    · intro x hx
      rw [List.pairwise_map]
      refine (hplaces x (FileSystem.mem_sortByName.mp hx)).2.2.imp fun hlt => ?_
      exact List.cons_lt_cons_iff.mpr (Or.inr ⟨rfl, hlt⟩)
    · refine (FileSystem.pairwise_sortByName hes).imp ?_
      intro x y hlt p hp q hq
      obtain ⟨inner, -, rfl⟩ := List.mem_map.mp hp
      obtain ⟨inner', -, rfl⟩ := List.mem_map.mp hq
      exact List.cons_lt_cons_iff.mpr (Or.inl hlt)

/-! ## The whole tree -/

section Tree

variable {es : List (String × Entry)} {e : Entry} {name : String} {place dirs : Place}

/-- What can be reached below an entry is reached through its directory, if the
entry itself is searched. -/
theorem isScript_cons (he : Entry.find? name es = some e) (hplace : place ≠ []) :
    IsScript (.directory es) (name :: place) ↔ isSearched name = true ∧ IsScript e place := by
  have hget : (Entry.directory es).get? (name :: place) = e.get? place := by
    rw [Entry.get?, he, Option.bind_some]
  constructor
  · rintro ⟨dirs, text, hdirs, hsearched, hfile, hgated⟩
    cases dirs with
    | nil =>
        obtain ⟨-, rfl⟩ := List.cons.inj hdirs
        exact absurd rfl hplace
    | cons d dirs =>
        obtain ⟨rfl, rfl⟩ := List.cons.inj hdirs
        exact ⟨hsearched _ (List.mem_cons_self ..), dirs, text, rfl,
          fun d hd => hsearched d (List.mem_cons_of_mem _ hd), hget ▸ hfile, hgated⟩
  · rintro ⟨hname, dirs, text, rfl, hsearched, hfile, hgated⟩
    refine ⟨name :: dirs, text, rfl, ?_, hget.trans hfile, hgated⟩
    intro d hd
    rcases List.mem_cons.mp hd with rfl | hd
    · exact hname
    · exact hsearched d hd

theorem not_isScript_nil : ¬ IsScript e [] := by
  rintro ⟨dirs, text, hdirs, -⟩
  cases dirs <;> cases hdirs

theorem Legible.child (h : Legible (.directory es)) (he : Entry.find? name es = some e)
    (hname : isSearched name = true) : Legible e := by
  intro dirs bytes hdirs hfile
  refine h (name :: dirs) bytes ?_ ?_
  · intro d hd
    rcases List.mem_cons.mp hd with rfl | hd
    · exact hname
    · exact hdirs d hd
  · rw [List.cons_append, Entry.get?, he]
    exact hfile

theorem isScript_singleton (he : Entry.find? name es = some e) :
    IsScript (.directory es) [name] ↔
      name = scriptName ∧ ∃ text, e = .file (.text text) ∧ Script.isGated text = true := by
  have hget : (Entry.directory es).get? [name] = some e := by
    rw [Entry.get?, he]
    rfl
  constructor
  · rintro ⟨dirs, text, hdirs, -, hfile, hgated⟩
    have hsplit : [] ++ [name] = dirs ++ [scriptName] := hdirs
    obtain ⟨rfl, hname⟩ := List.append_inj' hsplit rfl
    refine ⟨(List.cons.inj hname).1, text, ?_, hgated⟩
    exact Option.some.inj (hget.symm.trans hfile)
  · rintro ⟨rfl, text, rfl, hgated⟩
    exact ⟨[], text, rfl, by simp, hget, hgated⟩

/-- Below a file or a link there is nothing. -/
theorem not_isScript_leaf (he : e.children = []) : ¬ IsScript e place := by
  intro h
  cases place with
  | nil => exact not_isScript_nil h
  | cons n place =>
      obtain ⟨dirs, text, -, -, hfile, -⟩ := h
      cases e with
      | file c => cases hfile
      | link target => cases hfile
      | directory inner =>
          obtain rfl : inner = [] := he
          cases hfile

/-! ### The entries of a directory, one kind after the other -/

theorem accounts_link (path : Path) {target : String}
    (he : Entry.find? name es = some (.link target)) :
    Accounts (search path name (.link target)) path
      fun place => IsScript (.directory es) (name :: place) := by
  rw [search]
  refine accounts_none fun place hscript => ?_
  cases place with
  | nil =>
      obtain ⟨-, text, hlink, -⟩ := (isScript_singleton he).mp hscript
      cases hlink
  | cons n place =>
      exact not_isScript_leaf rfl ((isScript_cons he (List.cons_ne_nil n place)).mp hscript).2

/-- A file is listed if it is a gated script. -/
theorem accounts_file (path : Path) {c : Content} (he : Entry.find? name es = some (.file c))
    (hc : name = scriptName → ∀ bytes, c ≠ .binary bytes) :
    Accounts (search path name (.file c)) path
      fun place => IsScript (.directory es) (name :: place) := by
  have hbelow : ∀ place, IsScript (.directory es) (name :: place) → place = [] := by
    intro place hscript
    by_contra hne
    exact not_isScript_leaf rfl ((isScript_cons he hne).mp hscript).2
  rw [search]
  by_cases hname : name = scriptName
  · rw [if_pos (by simpa using hname)]
    cases c with
    | binary bytes => exact absurd rfl (hc hname bytes)
    | text text =>
        rw [scriptAt]
        split
        · next hgated =>
          refine ⟨[[]], rfl, fun place => ?_, List.pairwise_singleton _ _⟩
          rw [List.mem_singleton]
          constructor
          · rintro rfl
            exact (isScript_singleton he).mpr ⟨hname, text, rfl, hgated⟩
          · exact hbelow place
        · next hungated =>
          refine accounts_none fun place hscript => ?_
          obtain rfl := hbelow place hscript
          obtain ⟨-, text', hfile, hgated⟩ := (isScript_singleton he).mp hscript
          cases hfile
          exact hungated hgated
  · rw [if_neg (by simpa using hname)]
    refine accounts_none fun place hscript => ?_
    obtain rfl := hbelow place hscript
    exact hname ((isScript_singleton he).mp hscript).1

/-- A directory is listed with what it holds, if it is searched. -/
theorem accounts_subdirectory (path : Path) {inner : List (String × Entry)}
    (he : Entry.find? name es = some (.directory inner))
    (hinner : isSearched name = true →
      Accounts (inOrder (searchAll path inner)) path (IsScript (.directory inner))) :
    Accounts (search path name (.directory inner)) path
      fun place => IsScript (.directory es) (name :: place) := by
  have hcons : ∀ place, IsScript (.directory es) (name :: place) ↔
      isSearched name = true ∧ IsScript (.directory inner) place := by
    intro place
    by_cases hne : place = []
    · subst hne
      refine iff_of_false ?_ fun h => not_isScript_nil h.2
      intro hscript
      obtain ⟨-, text, hfile, -⟩ := (isScript_singleton he).mp hscript
      cases hfile
    · exact isScript_cons he hne
  rw [search]
  split
  · next hsearched =>
    obtain ⟨places, hfound, hplaces, hsorted⟩ := hinner hsearched
    refine ⟨places, hfound, fun place => ?_, hsorted⟩
    exact ((hplaces place).trans (and_iff_right hsearched).symm).trans (hcons place).symm
  · next hskipped =>
    exact accounts_none fun place hscript => hskipped ((hcons place).mp hscript).1

end Tree

/-- A directory comes to the gated scripts below it. -/
theorem accounts_directory (base : Path) (es : List (String × Entry))
    (htidy : (Entry.directory es).Tidy) (hlegible : Legible (.directory es)) :
    Accounts (inOrder (searchAll base es)) base (IsScript (.directory es)) := by
  refine accounts_inOrder htidy.listed.distinct not_isScript_nil ?_ ?_
  · rintro name place ⟨dirs, text, -, -, hfile, -⟩
    obtain ⟨e, he, -⟩ := Option.bind_eq_some_iff.mp hfile
    exact ⟨e, Entry.mem_of_find? he⟩
  · intro name e hmem
    have he : Entry.find? name es = some e := Entry.find?_of_mem htidy.listed.distinct hmem
    cases e with
    | link target => exact accounts_link _ he
    | file c =>
        refine accounts_file _ he ?_
        rintro rfl bytes rfl
        refine hlegible [] bytes (by simp) ?_
        rw [List.nil_append, Entry.get?, he]
        rfl
    | directory inner =>
        have hsmaller : sizeOf inner < sizeOf es := by
          have := List.sizeOf_lt_of_mem hmem
          simp at this
          omega
        exact accounts_subdirectory _ he fun hsearched =>
          accounts_directory (base.join name) inner (htidy.child hmem)
            (hlegible.child he hsearched)
termination_by sizeOf es

/-! ## The list of paths -/

theorem parts_pathTo (base : Path) {place : Place} (h : ∀ n ∈ place, FileSystem.IsName n) :
    Path.parts (pathTo base place) = Path.parts base ++ place := by
  induction place generalizing base with
  | nil => exact (List.append_nil _).symm
  | cons n place ih =>
      have hn := h n (List.mem_cons_self ..)
      have hjoin : Path.parts (base.join n) = Path.parts base ++ [n] := by
        rw [Path.parts_join base (Path.isAbsolute_of_no_slash hn.noSlash),
          Path.parts_of_not_mem hn.noSlash hn.notIdle]
      rw [pathTo, List.foldl_cons, ← pathTo, ih _ fun m hm => h m (List.mem_cons_of_mem n hm),
        hjoin, List.append_assoc, List.singleton_append]

/-- Below a directory that can be opened, and where every script is legible, the
search finds all gated scripts that are reached through real directories which
are neither hidden nor hold build results. It lists nothing else, and the paths
are strictly ascending, part by part. -/
theorem scripts_exact (fs : FileSystem) (root : Path) (here : Place) (htidy : fs.root.Tidy)
    (hopen : fs.openDirectory root = .ok here)
    (hreads : ∀ dirs bytes, (∀ d ∈ dirs, d.toList.head? ≠ some '.' ∧ d ≠ "target") →
      fs.root.get? (here ++ dirs ++ [scriptName]) ≠ some (.file (.binary bytes))) :
    ∃ found, (scripts fs root).2 = .ok found ∧
      (∀ path, path ∈ found ↔ ∃ dirs text,
        (∀ d ∈ dirs, d.toList.head? ≠ some '.' ∧ d ≠ "target") ∧
        fs.root.get? (here ++ dirs ++ [scriptName]) = some (.file (.text text)) ∧
        Script.isGated text = true ∧ path = (dirs.foldl Path.join root).join scriptName) ∧
      found.Pairwise fun p q => Path.parts p < Path.parts q := by
  obtain ⟨-, es, hes⟩ := FileSystem.openDirectory_eq_ok_iff.mp hopen
  have hsearched : ∀ d, isSearched d = true ↔ d.toList.head? ≠ some '.' ∧ d ≠ "target" := by
    intro d
    rw [isSearched, Bool.and_eq_true, bne_iff_ne, bne_iff_ne]
  have hget : ∀ place, fs.root.get? (here ++ place) = (Entry.directory es).get? place := by
    intro place
    rw [Entry.get?_append, hes, Option.bind_some]
  have hsub : (Entry.directory es).Tidy := htidy.below hes
  have hlegible : Legible (.directory es) := by
    intro dirs bytes hdirs hfile
    refine hreads dirs bytes (fun d hd => (hsearched d).mp (hdirs d hd)) ?_
    rw [List.append_assoc, hget, hfile]
  obtain ⟨places, hfound, hplaces, hsorted⟩ := accounts_directory root es hsub hlegible
  refine ⟨places.map (pathTo root), ?_, ?_, ?_⟩
  · rw [scripts, hopen]
    simp only [hes, Option.map_some, Option.getD_some, Entry.children]
    exact hfound
  · intro path
    rw [List.mem_map]
    constructor
    · rintro ⟨place, hplace, rfl⟩
      obtain ⟨dirs, text, rfl, hdirs, hfile, hgated⟩ := (hplaces place).mp hplace
      refine ⟨dirs, text, fun d hd => (hsearched d).mp (hdirs d hd), ?_, hgated, ?_⟩
      · rw [List.append_assoc, hget, hfile]
      · rw [pathTo, List.foldl_append]
        rfl
    · rintro ⟨dirs, text, hdirs, hfile, hgated, rfl⟩
      refine ⟨dirs ++ [scriptName], (hplaces _).mpr ⟨dirs, text, rfl, ?_, ?_, hgated⟩, ?_⟩
      · exact fun d hd => (hsearched d).mpr (hdirs d hd)
      · rw [← hget, ← List.append_assoc, hfile]
      · rw [pathTo, List.foldl_append]
        rfl
  · have hnames : ∀ place ∈ places, ∀ n ∈ place, FileSystem.IsName n := by
      intro place hplace n hn
      obtain ⟨dirs, text, -, -, hfile, -⟩ := (hplaces place).mp hplace
      exact hsub.isName hfile hn
    rw [List.pairwise_map]
    refine hsorted.imp_of_mem fun {p q} hp hq hlt => ?_
    rw [parts_pathTo root (hnames p hp), parts_pathTo root (hnames q hq)]
    exact List.append_left_lt hlt

/-- A tree with gated scripts in several places. One of them is in a directory
that has the name of a script; others are hidden, among build results, or stand
behind a link. -/
def shelves : FileSystem where
  root := .directory [("w", .directory [
    ("config.rs", .file (.text "#![cfg(layercfg)]")),
    ("a-b", .directory [("config.rs", .file (.text "#![cfg(layercfg)] fn"))]),
    (".git", .directory [("config.rs", .file (.text "#![cfg(layercfg)]"))]),
    ("target", .directory [("config.rs", .file (.text "#![cfg(layercfg)]"))]),
    ("b", .directory [("config.rs", .file (.text "fn main() \x7b\x7d"))]),
    ("a", .directory [
      ("up", .link "../a-b"),
      ("config.rs", .directory [("config.rs", .file (.text "#![cfg(layercfg)]"))])])])]
  workingDirectory := ["w"]

theorem scripts_exact_shelves :
    shelves.root.Tidy ∧ shelves.openDirectory "." = .ok ["w"] ∧
      ∃ found, (scripts shelves ".").2 = .ok found ∧
        "./a/config.rs/config.rs" ∈ found ∧ "./a-b/config.rs" ∈ found ∧
        found.Pairwise fun p q => Path.parts p < Path.parts q := by
  have htidy : shelves.root.Tidy := Entry.tidy_of_isTidy _ (by decide +kernel)
  have hopen : shelves.openDirectory "." = .ok ["w"] := rfl
  have htexts : ∀ leaf ∈ shelves.root.leaves, ∀ bytes, leaf ≠ .file (.binary bytes) := by
    simp [shelves, Entry.leaves, Entry.leavesAll]
  obtain ⟨found, hfound, hmem, hsorted⟩ := scripts_exact shelves "." ["w"] htidy hopen
    fun dirs bytes _ hfile => htexts _ (Entry.mem_leaves hfile (by simp)) bytes rfl
  refine ⟨htidy, hopen, found, hfound, ?_, ?_, hsorted⟩
  · exact (hmem _).mpr ⟨["a", "config.rs"], "#![cfg(layercfg)]", by decide, rfl,
      by decide +kernel, by decide +kernel⟩
  · exact (hmem _).mpr ⟨["a-b"], "#![cfg(layercfg)] fn", by decide, rfl, by decide +kernel,
      by decide +kernel⟩

end Discovery

end Overlay.Generate
