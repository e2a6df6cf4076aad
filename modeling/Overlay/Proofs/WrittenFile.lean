import Mathlib.Data.List.Forall2
import Mathlib.Data.String.Basic
import Overlay.Proofs.FollowedPaths
import Overlay.Proofs.PathParts

/-!
# What can be seen of a written file

A file system answers by paths. `Sole` says that a name in a directory stands for
a file or for nothing, and that no link's target has it on its way. Whoever does
not ask for that name then gets the same answers before and after the file is
written: the same places, directories, files and texts. The lemmas are stated for
each question on its own, and for a path by what it ends in or by its parts.

Writing itself follows the name like reading does, so with a link the file that is
written may be another one; `writeBelow_ok` says which.

Lists of a directory's entries are put in order by insertion. An entry that is new
stands somewhere between the old ones, which keep their order
(`sortByName_concat`).
-/

namespace Overlay.Files

open Entry (bare SameBut)

namespace FileSystem

/-- The name stands for a file or for nothing in the directory, and it leads there
from nowhere else. -/
structure Sole (fs : FileSystem) (dir : Place) (name : String) : Prop where
  directory : ∃ es, fs.root.get? dir = some (.directory es)
  file : ∀ e, fs.root.get? (dir ++ [name]) = some e → ∃ c, e = .file c
  links : fs.root.Unlinked name
  start : fs.workingDirectory ≠ dir ++ [name]
  notIdle : Path.isIdle name = false
  notUp : name ≠ ".."

/-- Where a path starts. -/
def startOf (fs : FileSystem) (p : Path) : Place :=
  if p.isAbsolute then [] else fs.workingDirectory

theorem walk_eq {fs : FileSystem} {p : Path} (hp : p ≠ "") :
    fs.walk p = follow fs.root none linkLimit (fs.startOf p) (pathParts p) := by
  rw [walk, if_neg (by simpa using hp)]
  rfl

theorem place_eq_ok_iff {fs : FileSystem} {p : Path} {q : Place} :
    fs.place p = .ok q ↔ p ≠ "" ∧
      follow fs.root none linkLimit (fs.startOf p) (pathParts p) = .place q := by
  by_cases hp : p = ""
  · subst hp
    constructor
    · intro h
      cases h
    · intro h
      exact absurd rfl h.1
  · rw [place, walk_eq hp]
    match follow fs.root none linkLimit (fs.startOf p) (pathParts p) with
    | .place here => simp [hp]
    | .failed e => simp
    | .absent here n => simp
    | .link here target rest => simp

theorem exists_error {α : Type} {r : Except FileError α} (h : ∀ a, r ≠ .ok a) :
    ∃ e, r = .error e := by
  cases r with
  | ok a => exact absurd rfl (h a)
  | error e => exact ⟨e, rfl⟩

section Written

variable {fs : FileSystem} {dir : Place} {name : String}

theorem get?_written (c : Content) :
    (fs.putFile (dir ++ [name]) c).root.get? (dir ++ [name]) = some (.file c) :=
  Entry.get?_put_self _ _ _

theorem Sole.same (h : fs.Sole dir name) (c : Content) :
    SameBut (dir ++ [name]) fs.root (fs.putFile (dir ++ [name]) c).root := by
  obtain ⟨es, hdir⟩ := h.directory
  exact Entry.sameBut_put hdir h.file c

/-- Once written the name is still the only one. -/
theorem Sole.written (h : fs.Sole dir name) (c : Content) :
    (fs.putFile (dir ++ [name]) c).Sole dir name := by
  refine ⟨((h.same c).directory_iff dir).mpr h.directory, (h.same c).right, ?_, h.start,
    h.notIdle, h.notUp⟩
  intro place target hlink
  by_cases hplace : place = dir ++ [name]
  · obtain ⟨c', hc'⟩ := (h.same c).right _ (hplace ▸ hlink)
    cases hc'
  · refine h.links place target ?_
    rw [← Entry.bare_eq_link, ← (h.same c).elsewhere place hplace, Entry.bare_eq_link]
    exact hlink

/-! ## Places -/

theorem Sole.startOf_ne (h : fs.Sole dir name) (p : Path) : fs.startOf p ≠ dir ++ [name] := by
  rw [startOf]
  split
  · simp
  · exact h.start

theorem Sole.place_written (h : fs.Sole dir name) (c : Content) {p : Path} {q : Place}
    (hp : fs.place p = .ok q) : (fs.putFile (dir ++ [name]) c).place p = .ok q := by
  obtain ⟨hne, hfollow⟩ := place_eq_ok_iff.mp hp
  exact place_eq_ok_iff.mpr ⟨hne, follow_place (h.same c) h.notIdle h.notUp (h.startOf_ne p)
    (fun _ => ⟨_, get?_written c⟩) hfollow⟩

theorem Sole.place_before (h : fs.Sole dir name) {c : Content} {p : Path} {q : Place}
    (hq : q ≠ dir ++ [name]) (hp : (fs.putFile (dir ++ [name]) c).place p = .ok q) :
    fs.place p = .ok q := by
  obtain ⟨hne, hfollow⟩ := place_eq_ok_iff.mp hp
  exact place_eq_ok_iff.mpr ⟨hne, follow_place (h.same c).symm h.notIdle h.notUp
    (h.startOf_ne p) (fun heq => absurd heq hq) hfollow⟩

/-- Only a path that ends in the name leads to the file. -/
theorem Sole.place_ne (h : fs.Sole dir name) {p : Path} (hp : Path.hasEnding name p = false) :
    fs.place p ≠ .ok (dir ++ [name]) := by
  intro hplace
  obtain ⟨-, hfollow⟩ := place_eq_ok_iff.mp hplace
  have hlast := follow_mark h.file h.links (h.startOf_ne p) hfollow
  rw [suffix_of_getLast?_pathParts h.notIdle hlast] at hp
  cases hp

/-- Before and after, a path with another ending leads to the same place, or to
none. -/
theorem Sole.place_cases (h : fs.Sole dir name) (c : Content) {p : Path}
    (hp : Path.hasEnding name p = false) :
    (∃ q, q ≠ dir ++ [name] ∧ fs.place p = .ok q ∧
      (fs.putFile (dir ++ [name]) c).place p = .ok q) ∨
    ∃ e e', fs.place p = .error e ∧ (fs.putFile (dir ++ [name]) c).place p = .error e' := by
  cases hplace : fs.place p with
  | ok q =>
      refine Or.inl ⟨q, ?_, rfl, h.place_written c hplace⟩
      rintro rfl
      exact h.place_ne hp hplace
  | error e =>
      obtain ⟨e', he'⟩ := exists_error (r := (fs.putFile (dir ++ [name]) c).place p) fun q hq => by
        have hne : q ≠ dir ++ [name] := by
          rintro rfl
          exact (h.written c).place_ne hp hq
        rw [h.place_before hne hq] at hplace
        cases hplace
      exact Or.inr ⟨e, e', rfl, he'⟩

theorem Sole.bare_eq (h : fs.Sole dir name) (c : Content) {p : Path}
    (hp : Path.hasEnding name p = false) :
    (FileSystem.entry? (fs.putFile (dir ++ [name]) c) p).map bare = (fs.entry? p).map bare := by
  unfold FileSystem.entry?
  rcases h.place_cases c hp with ⟨q, hq, hbefore, hafter⟩ | ⟨e, e', hbefore, hafter⟩
  · rw [hbefore, hafter]
    exact (h.same c).elsewhere q hq
  · rw [hbefore, hafter]

theorem isFile_eq_bare (fs : FileSystem) (p : Path) :
    fs.isFile p = ((fs.entry? p).map bare).any fun | .file _ => true | _ => false := by
  rw [isFile]
  match fs.entry? p with
  | none => rfl
  | some (.file c) => rfl
  | some (.link target) => rfl
  | some (.directory es) => rfl

theorem Sole.isFile_eq (h : fs.Sole dir name) (c : Content) {p : Path}
    (hp : Path.hasEnding name p = false) :
    (fs.putFile (dir ++ [name]) c).isFile p = fs.isFile p := by
  rw [isFile_eq_bare, isFile_eq_bare, h.bare_eq c hp]

theorem textOf_bare (o : Option Entry) : textOf (o.map bare) = textOf o := by
  match o with
  | none => rfl
  | some (.file (.text s)) => rfl
  | some (.file (.binary bs)) => rfl
  | some (.link target) => rfl
  | some (.directory es) => rfl

/-- The same text is read, if any is. -/
theorem Sole.readText_eq (h : fs.Sole dir name) (c : Content) {p : Path}
    (hp : Path.hasEnding name p = false) :
    ((fs.putFile (dir ++ [name]) c).readText p).toOption = (fs.readText p).toOption := by
  rw [readText, readText]
  rcases h.place_cases c hp with ⟨q, hq, hbefore, hafter⟩ | ⟨e, e', hbefore, hafter⟩
  · rw [hbefore, hafter]
    show (textOf _).toOption = (textOf _).toOption
    rw [← textOf_bare, (h.same c).elsewhere q hq, textOf_bare]
  · rw [hbefore, hafter]
    rfl

/-! ## Directories -/

theorem openDirectory_eq_ok_iff {p : Path} {d : Place} :
    fs.openDirectory p = .ok d ↔
      fs.place p = .ok d ∧ ∃ es, fs.root.get? d = some (.directory es) := by
  constructor
  · intro hd
    rw [openDirectory] at hd
    cases hplace : fs.place p with
    | error e => rw [hplace] at hd; cases hd
    | ok q =>
        rw [hplace] at hd
        simp only [bind, Except.bind] at hd
        match hq : fs.root.get? q with
        | none => rw [hq] at hd; cases hd
        | some (.file c) => rw [hq] at hd; cases hd
        | some (.link target) => rw [hq] at hd; cases hd
        | some (.directory es) =>
            rw [hq] at hd
            cases hd
            exact ⟨rfl, es, hq⟩
  · rintro ⟨hplace, es, hdir⟩
    rw [openDirectory, hplace]
    simp only [bind, Except.bind, hdir]
    rfl

theorem Sole.openDirectory_written (h : fs.Sole dir name) (c : Content) {p : Path} {d : Place}
    (hp : fs.openDirectory p = .ok d) :
    (fs.putFile (dir ++ [name]) c).openDirectory p = .ok d := by
  obtain ⟨hplace, hdir⟩ := openDirectory_eq_ok_iff.mp hp
  exact openDirectory_eq_ok_iff.mpr
    ⟨h.place_written c hplace, ((h.same c).directory_iff d).mpr hdir⟩

/-- What becomes of the list of the directory at `q` when a file is written in
`dir`: nothing; the file has another content; what is in a directory has changed;
or the file is new. -/
inductive Relisted (dir : Place) (name : String) (c : Content) (q : Place) :
    List (String × Entry) → List (String × Entry) → Prop
  | same (es : List (String × Entry)) : Relisted dir name c q es es
  | file (a b : List (String × Entry)) (old : Content) :
      Relisted dir name c q (a ++ (name, .file old) :: b) (a ++ (name, .file c) :: b)
  | inner (a b : List (String × Entry)) (x : String) (es es' : List (String × Entry)) :
      (∀ n, n ≠ name → (Entry.find? n es').isSome = (Entry.find? n es).isSome) →
        Relisted dir name c q (a ++ (x, .directory es) :: b) (a ++ (x, .directory es') :: b)
  | new (es : List (String × Entry)) : q = dir →
      Relisted dir name c q es (es ++ [(name, .file c)])

theorem Sole.relisted (h : fs.Sole dir name) (c : Content) {q : Place}
    {es : List (String × Entry)} (hq : fs.root.get? q = some (.directory es)) :
    ∃ es', (fs.putFile (dir ++ [name]) c).root.get? q = some (.directory es') ∧
      Relisted dir name c q es es' := by
  obtain ⟨ds, hdir⟩ := h.directory
  by_cases habove : q <+: dir ++ [name]
  · obtain ⟨rest, hrest⟩ := habove
    have hput : (fs.putFile (dir ++ [name]) c).root.get? q =
        some (Entry.put (.file c) rest (.directory es)) := by
      rw [putFile, ← hrest, Entry.get?_put_append hq]
    match rest with
    | [] =>
        -- The mark itself is no directory.
        rw [List.append_nil] at hrest
        obtain ⟨c', hc'⟩ := h.file _ (hrest ▸ hq)
        cases hc'
    | [x] =>
        obtain ⟨rfl, hx⟩ := List.append_inj' hrest rfl
        obtain rfl := List.singleton_inj.mp hx
        cases hfind : Entry.find? x es with
        | none =>
            rw [Entry.put_of_find?_none hfind] at hput
            exact ⟨_, hput, .new es rfl⟩
        | some e =>
            obtain ⟨old, rfl⟩ := h.file e (by rw [Entry.get?_directory_snoc hq, hfind])
            obtain ⟨a, b, rfl, hes'⟩ := Entry.put_of_find? hfind (.file c) []
            exact ⟨_, hput.trans (congrArg some hes'), .file a b old⟩
    | x :: y :: more =>
        have hrest' : (q ++ [x]) ++ (y :: more) = dir ++ [name] := by
          rw [← hrest, List.append_assoc]
          rfl
        obtain ⟨inner, hinner⟩ := Entry.exists_directory_above hdir hrest' (by simp)
        have hinner' : (fs.putFile (dir ++ [name]) c).root.get? (q ++ [x]) =
            some (Entry.put (.file c) (y :: more) (.directory inner)) := by
          rw [putFile, ← hrest', Entry.get?_put_append hinner]
        have hfind : Entry.find? x es = some (.directory inner) := by
          rw [← Entry.get?_directory_snoc hq, hinner]
        obtain ⟨a, b, rfl, hes'⟩ := Entry.put_of_find? hfind (.file c) (y :: more)
        refine ⟨_, hput.trans (congrArg some hes'), .inner a b x inner _ ?_⟩
        intro n hn
        have hne : q ++ [x] ++ [n] ≠ dir ++ [name] := fun heq =>
          hn (List.singleton_inj.mp (List.append_inj_right' heq rfl))
        have hsame := congrArg Option.isSome ((h.same c).elsewhere _ hne)
        rw [Entry.get?_directory_snoc hinner', Entry.get?_directory_snoc hinner,
          Option.isSome_map, Option.isSome_map] at hsame
        exact hsame
  · by_cases hbelow : dir ++ [name] <+: q
    · -- Nothing is below the mark.
      obtain ⟨rest, rfl⟩ := hbelow
      have hne : rest ≠ [] := by
        rintro rfl
        exact habove ⟨[], by simp⟩
      obtain ⟨es', hes'⟩ := Entry.exists_directory_of_get? hne hq
      obtain ⟨c', hc'⟩ := h.file _ hes'
      cases hc'
    · refine ⟨es, ?_, .same es⟩
      rw [putFile, Entry.get?_put_of_apart _ hbelow habove, hq]

theorem entry_eq_some_iff {p : Path} {e : Entry} :
    fs.entry? p = some e ↔ ∃ q, fs.place p = .ok q ∧ fs.root.get? q = some e := by
  unfold FileSystem.entry?
  cases fs.place p with
  | ok q => simp
  | error e' => simp

/-- A path leads to a directory before and after, or to none. -/
theorem Sole.directory_cases (h : fs.Sole dir name) (c : Content) (p : Path) :
    (∃ q es es', fs.place p = .ok q ∧ fs.entry? p = some (.directory es) ∧
      FileSystem.entry? (fs.putFile (dir ++ [name]) c) p = some (.directory es') ∧
        fs.root.get? q = some (.directory es) ∧ Relisted dir name c q es es') ∨
    (∀ es, fs.entry? p ≠ some (.directory es)) ∧
      ∀ es, FileSystem.entry? (fs.putFile (dir ++ [name]) c) p ≠ some (.directory es) := by
  by_cases hp : ∃ es, fs.entry? p = some (.directory es)
  · obtain ⟨es, hes⟩ := hp
    obtain ⟨q, hplace, hq⟩ := entry_eq_some_iff.mp hes
    obtain ⟨es', hq', hlist⟩ := h.relisted c hq
    exact Or.inl ⟨q, es, es', hplace, hes,
      entry_eq_some_iff.mpr ⟨q, h.place_written c hplace, hq'⟩, hq, hlist⟩
  · refine Or.inr ⟨fun es hes => hp ⟨es, hes⟩, ?_⟩
    intro es hes
    obtain ⟨q, hplace, hq⟩ := entry_eq_some_iff.mp hes
    have hne : q ≠ dir ++ [name] := by
      rintro rfl
      obtain ⟨c', hc'⟩ := (h.same c).right _ hq
      cases hc'
    obtain ⟨es', hes'⟩ := ((h.same c).directory_iff q).mp ⟨es, hq⟩
    exact hp ⟨es', entry_eq_some_iff.mpr ⟨q, h.place_before hne hplace, hes'⟩⟩

/-- The path of a directory and the name: no directory is there. -/
theorem Sole.not_directory_beside (h : fs.Sole dir name) (hslash : '/' ∉ name.toList) {d : Path}
    (hd : fs.place d = .ok dir) {q : Place} (hq : fs.place (d.join name) = .ok q)
    (es : List (String × Entry)) : fs.root.get? q ≠ some (.directory es) := by
  intro hdirectory
  obtain ⟨hne, hfollow⟩ := place_eq_ok_iff.mp hd
  obtain ⟨-, hbeside⟩ := place_eq_ok_iff.mp hq
  have hname : name ≠ "" := by
    intro hempty
    have hidle := h.notIdle
    rw [hempty] at hidle
    exact absurd hidle (by decide)
  have hstart : fs.startOf (d.join name) = fs.startOf d := by
    rw [startOf, startOf, Path.isAbsolute_join hne hslash]
  rw [pathParts_join hslash hname, hstart] at hbeside
  obtain ⟨ds, hdir⟩ := h.directory
  have hlast : ∃ n, follow fs.root none n dir [name] = .place q := by
    rcases pathParts_cases d with hparts | hparts
    · rw [hparts] at hfollow
      obtain ⟨n, hn⟩ := follow_append [name] hfollow
      exact ⟨n, hn.symm.trans hbeside⟩
    · -- A slash at the end is followed as a dot, which is put into both paths.
      rw [hparts] at hfollow
      have hdot : Path.isIdle "." = true := by decide
      have hthick := follow_thin ((thins_filter d.steps).append (thins_refl ["."])) hfollow hdir
      have hbeside' := follow_thin
        ((thins_refl d.steps).append (.drop "." hdot (thins_refl [name]))) hbeside hdirectory
      obtain ⟨n, hn⟩ := follow_append [name] hthick
      rw [List.append_assoc] at hn
      exact ⟨n, hn.symm.trans hbeside'⟩
  obtain ⟨n, hn⟩ := hlast
  obtain rfl := follow_name h.file h.notIdle h.notUp hn
  obtain ⟨c, hc⟩ := h.file _ hdirectory
  cases hc

/-! ## Paths that are free of the name -/

theorem Sole.walk_eq (h : fs.Sole dir name) (c : Content) {p : Path}
    (hp : name ∉ Path.parts p) : (fs.putFile (dir ++ [name]) c).walk p = fs.walk p := by
  by_cases hempty : p = ""
  · rw [walk, walk, if_pos (by simp [hempty]), if_pos (by simp [hempty])]
  · rw [FileSystem.walk_eq hempty, FileSystem.walk_eq hempty]
    exact follow_eq (h.same c) h.links (h.startOf_ne p) fun hmem =>
      hp (mem_pathParts h.notIdle hmem)

theorem Sole.openDirectory_eq (h : fs.Sole dir name) (c : Content) {p : Path}
    (hp : name ∉ Path.parts p) :
    (fs.putFile (dir ++ [name]) c).openDirectory p = fs.openDirectory p := by
  have hplace : (fs.putFile (dir ++ [name]) c).place p = fs.place p := by
    rw [place, place, h.walk_eq c hp]
  cases hopen : fs.openDirectory p with
  | ok d => exact h.openDirectory_written c hopen
  | error e =>
      rw [openDirectory] at hopen ⊢
      rw [hplace]
      cases hq : fs.place p with
      | error e' => rw [hq] at hopen; exact hopen
      | ok q =>
          rw [hq] at hopen
          simp only [bind, Except.bind] at hopen ⊢
          -- What is no directory is none afterwards.
          have hnone : ∀ es, (fs.putFile (dir ++ [name]) c).root.get? q ≠ some (.directory es) := by
            intro es hes
            obtain ⟨es', hes'⟩ := ((h.same c).directory_iff q).mp ⟨es, hes⟩
            rw [hes'] at hopen
            cases hopen
          split
          · next es hes => exact absurd hes (hnone es)
          · split at hopen
            · cases hopen
            · exact hopen

theorem Sole.readBelow_eq (h : fs.Sole dir name) (c : Content) {d : Place} {n : String}
    (hd : d ≠ dir ++ [name]) (hslash : '/' ∉ n.toList) (hn : n ≠ name) :
    (fs.putFile (dir ++ [name]) c).readBelow d n = fs.readBelow d n := by
  have hparts : name ∉ pathParts n := by
    intro hmem
    have hraw := (Path.mem_parts.mp (mem_pathParts h.notIdle hmem)).1
    rw [Path.rawParts_of_not_mem hslash, List.mem_singleton] at hraw
    exact hn hraw.symm
  have hwalk : (fs.putFile (dir ++ [name]) c).walkBelow d n = fs.walkBelow d n :=
    follow_eq (h.same c) h.links hd hparts
  rw [readBelow, readBelow, hwalk]
  match hstop : fs.walkBelow d n with
  | .failed e => rfl
  | .absent p m => rfl
  | .link p target rest => rfl
  | .place q =>
      have hq : q ≠ dir ++ [name] := by
        rintro rfl
        exact hparts (List.mem_of_getLast? (follow_mark h.file h.links hd hstop))
      show textOf _ = textOf _
      rw [← textOf_bare, (h.same c).elsewhere q hq, textOf_bare]

/-! ## Writing -/

/-- A name leads to the place, at which there may be nothing yet. -/
def LeadsTo (fs : FileSystem) (dir : Place) (name : String) (place : Place) : Prop :=
  fs.walkBelow dir name = .place place ∨
    ∃ q n, place = q ++ [n] ∧ fs.walkBelow dir name = .absent q n

/-- Writing puts a file where the name leads, and changes nothing elsewhere. -/
theorem writeBelow_ok {fs' : FileSystem} {text : String} {es : List (String × Entry)}
    (hdir : fs.root.get? dir = some (.directory es)) (h : fs.writeBelow dir name text = .ok fs') :
    ∃ place, fs.LeadsTo dir name place ∧ fs' = fs.putFile place (.text text) ∧
      SameBut place fs.root fs'.root := by
  have hsound : (fs.walkBelow dir name).Sound fs.root := follow_sound (stands_directory hdir)
  rw [writeBelow] at h
  match hstop : fs.walkBelow dir name with
  | .failed e =>
      rw [hstop] at h
      cases h
  | .link p target rest =>
      rw [hstop] at h
      cases h
  | .absent q n =>
      rw [hstop] at h hsound
      obtain rfl := Except.ok.inj h
      obtain ⟨⟨es', hes'⟩, hnone⟩ := hsound
      refine ⟨q ++ [n], Or.inr ⟨q, n, rfl, hstop⟩, rfl, Entry.sameBut_put hes' ?_ _⟩
      intro e he
      rw [hnone] at he
      cases he
  | .place q =>
      rw [hstop] at h hsound
      obtain ⟨e, he, hlink⟩ := hsound
      -- What stands there is neither a link nor a directory.
      match e, he, hlink with
      | .link target, _, hlink => exact absurd rfl (hlink target)
      | .directory es', he, _ =>
          rw [writeAt, he] at h
          cases h
      | .file c, he, _ =>
          rw [writeAt, he] at h
          obtain rfl := Except.ok.inj h
          refine ⟨q, Or.inl hstop, rfl, ?_⟩
          have hne : q ≠ [] := by
            rintro rfl
            have hroot : fs.root = .file c := Option.some.inj he
            rw [hroot] at hdir
            cases dir <;> cases hdir
          obtain ⟨up, n, rfl⟩ : ∃ up n, q = up ++ [n] :=
            ⟨_, _, (List.dropLast_concat_getLast hne).symm⟩
          obtain ⟨es', hup⟩ := Entry.exists_directory_of_get? (by simp) he
          refine Entry.sameBut_put hup ?_ _
          intro e' he'
          exact ⟨c, Option.some.inj (he'.symm.trans he)⟩

/-- A name that an entry can have. -/
structure IsName (name : String) : Prop where
  noSlash : '/' ∉ name.toList
  notIdle : Path.isIdle name = false
  notUp : name ≠ ".."
  short : name.utf8ByteSize ≤ nameLimit

/-- A name that is no link stands for itself. -/
theorem IsName.walkBelow_eq (hname : IsName name) {es : List (String × Entry)}
    (hdir : fs.root.get? dir = some (.directory es))
    (hlink : ∀ target, fs.root.get? (dir ++ [name]) ≠ some (.link target)) :
    fs.walkBelow dir name =
      if (fs.root.get? (dir ++ [name])).isSome then .place (dir ++ [name])
      else .absent dir name := by
  have hne : name ≠ "" := by
    rintro rfl
    cases hname.notIdle
  rw [Entry.get?_directory_snoc hdir] at hlink ⊢
  rw [walkBelow, pathParts_of_no_slash hname.noSlash hne]
  refine follow_of_stop ?_ ?_
  · rw [followParts, hdir]
    simp only [hname.notIdle, beq_iff_eq, hname.notUp, Nat.not_lt.mpr hname.short, if_false,
      Bool.false_eq_true]
    cases hfind : Entry.find? name es with
    | none => rfl
    | some e =>
        cases e with
        | link target => exact absurd hfind (hlink target)
        | file c => rfl
        | directory ds => rfl
  · intro p target rest
    split <;> simp

theorem LeadsTo.eq {place : Place} (h : fs.LeadsTo dir name place) (hname : IsName name)
    {es : List (String × Entry)} (hdir : fs.root.get? dir = some (.directory es))
    (hlink : ∀ target, fs.root.get? (dir ++ [name]) ≠ some (.link target)) :
    place = dir ++ [name] := by
  rw [LeadsTo, hname.walkBelow_eq hdir hlink] at h
  split at h
  · rcases h with h | ⟨q, n, rfl, h⟩
    · exact (Stop.place.inj h).symm
    · cases h
  · rcases h with h | ⟨q, n, rfl, h⟩
    · cases h
    · obtain ⟨rfl, rfl⟩ := Stop.absent.inj h
      rfl

/-- Writing the same text again changes nothing. -/
theorem IsName.writeBelow_written (hname : IsName name) {text : String}
    {es : List (String × Entry)}
    (hdir : (fs.putFile (dir ++ [name]) (.text text)).root.get? dir = some (.directory es)) :
    (fs.putFile (dir ++ [name]) (.text text)).writeBelow dir name text =
      .ok (fs.putFile (dir ++ [name]) (.text text)) := by
  have hfile : (fs.putFile (dir ++ [name]) (.text text)).root.get? (dir ++ [name]) =
      some (.file (.text text)) := get?_written _
  rw [writeBelow, hname.walkBelow_eq hdir (by simp [hfile]), hfile]
  simp only [Option.isSome_some, if_true, writeAt, hfile]
  rw [putFile, putFile, Entry.put_put]

end Written

/-! ## Lists in the order of names -/

section Sorting

variable {α β : Type} {e x : String × α} {a b l : List (String × α)}

theorem insertByName_append_of_lt (h : ∀ y ∈ a, y.1 < e.1) (l : List (String × α)) :
    insertByName e (a ++ l) = a ++ insertByName e l := by
  induction a with
  | nil => rfl
  | cons y a ih =>
      rw [List.cons_append, insertByName, if_pos (h y (List.mem_cons_self ..)),
        ih fun z hz => h z (List.mem_cons_of_mem y hz), List.cons_append]

theorem insertByName_append_of_le (h : ∀ y ∈ l, ¬ y.1 < e.1) (a : List (String × α)) :
    insertByName e (a ++ l) = insertByName e a ++ l := by
  induction a with
  | nil =>
      cases l with
      | nil => rfl
      | cons y l =>
          show insertByName e (y :: l) = e :: y :: l
          rw [insertByName, if_neg (h y (List.mem_cons_self ..))]
  | cons y a ih =>
      rw [List.cons_append, insertByName, insertByName]
      split
      · rw [ih, List.cons_append]
      · rfl

theorem mem_insertByName {y : String × α} : y ∈ insertByName e l ↔ y = e ∨ y ∈ l := by
  induction l with
  | nil => simp [insertByName]
  | cons z l ih =>
      rw [insertByName]
      split
      · rw [List.mem_cons, ih, List.mem_cons]
        tauto
      · rw [List.mem_cons]

theorem mem_sortByName {y : String × α} : y ∈ sortByName l ↔ y ∈ l := by
  induction l with
  | nil => rfl
  | cons z l ih => rw [sortByName, mem_insertByName, ih, List.mem_cons]

/-- A new element stands between smaller names and greater ones, and the order of
the others is as it was. -/
theorem sortByName_concat (x : String × α) (l : List (String × α)) :
    ∃ a b, sortByName l = a ++ b ∧ sortByName (l ++ [x]) = a ++ x :: b ∧
      (∀ y ∈ a, y.1 ≤ x.1) ∧ ∀ y ∈ b, x.1 < y.1 := by
  induction l with
  | nil => exact ⟨[], [], rfl, rfl, by simp, by simp⟩
  | cons e l ih =>
      obtain ⟨a, b, hold, hnew, ha, hb⟩ := ih
      rw [List.cons_append, sortByName, sortByName, hold, hnew]
      by_cases hx : x.1 < e.1
      · have hlt : ∀ y ∈ a, y.1 < e.1 := fun y hy => lt_of_le_of_lt (ha y hy) hx
        refine ⟨a, insertByName e b, insertByName_append_of_lt hlt b, ?_, ha, ?_⟩
        · rw [insertByName_append_of_lt hlt, insertByName, if_pos hx]
        · intro y hy
          rcases mem_insertByName.mp hy with rfl | hy
          · exact hx
          · exact hb y hy
      · have hle : ∀ y ∈ x :: b, ¬ y.1 < e.1 := by
          intro y hy hlt
          rcases List.mem_cons.mp hy with rfl | hy
          · exact hx hlt
          · exact hx ((hb y hy).trans hlt)
        refine ⟨insertByName e a, b, ?_, ?_, ?_, hb⟩
        · exact insertByName_append_of_le (fun y hy => hle y (List.mem_cons_of_mem x hy)) a
        · exact insertByName_append_of_le hle a
        · intro y hy
          rcases mem_insertByName.mp hy with rfl | hy
          · exact not_lt.mp hx
          · exact ha y hy

/-- The order is that of the names alone. -/
theorem forall₂_insertByName {R : String × α → String × β → Prop}
    (hR : ∀ y z, R y z → y.1 = z.1) {y : String × α} {z : String × β} {l : List (String × α)}
    {m : List (String × β)} (hyz : R y z) (h : List.Forall₂ R l m) :
    List.Forall₂ R (insertByName y l) (insertByName z m) := by
  induction h with
  | nil => exact .cons hyz .nil
  | cons hhead htail ih =>
      rw [insertByName, insertByName, ← hR _ _ hyz, ← hR _ _ hhead]
      split
      · exact .cons hhead ih
      · exact .cons hyz (.cons hhead htail)

theorem forall₂_sortByName {R : String × α → String × β → Prop}
    (hR : ∀ y z, R y z → y.1 = z.1) {l : List (String × α)} {m : List (String × β)}
    (h : List.Forall₂ R l m) : List.Forall₂ R (sortByName l) (sortByName m) := by
  induction h with
  | nil => exact .nil
  | cons hhead htail ih => exact forall₂_insertByName hR hhead ih

theorem filterMap_eq_of_forall₂ {f : String × α → Option β} {l m : List (String × α)}
    (h : List.Forall₂ (fun y z => y.1 = z.1 ∧ f y = f z) l m) :
    l.filterMap f = m.filterMap f := by
  induction h with
  | nil => rfl
  | cons hhead _ ih => rw [List.filterMap_cons, List.filterMap_cons, hhead.2, ih]

/-- An element that is replaced by one of the same name keeps its place. -/
theorem filterMap_sortByName_replace {f : String × α → Option β} {n : String} {x y : α}
    (hf : f (n, y) = f (n, x)) (a b : List (String × α)) :
    (sortByName (a ++ (n, y) :: b)).filterMap f =
      (sortByName (a ++ (n, x) :: b)).filterMap f := by
  have hrefl : ∀ l : List (String × α),
      List.Forall₂ (fun y z : String × α => y.1 = z.1 ∧ f y = f z) l l := fun l =>
    List.forall₂_same.mpr fun _ _ => ⟨rfl, rfl⟩
  have hlists : List.Forall₂ (fun y z : String × α => y.1 = z.1 ∧ f y = f z)
      (a ++ (n, y) :: b) (a ++ (n, x) :: b) :=
    List.rel_append (hrefl a) (.cons ⟨rfl, hf⟩ (hrefl b))
  exact filterMap_eq_of_forall₂ (forall₂_sortByName (fun _ _ h => h.1) hlists)

end Sorting

end FileSystem

end Overlay.Files
