import Mathlib.Data.List.Basic
import Overlay.Proofs.FileTrees

/-!
# Following paths in two trees

A path is followed by looking at one entry after another. `move` is one part of
it, and `moves_move` says all that a part can do; the lemmas about whole paths go
by induction over the parts, and then over the links on the way.

Neither a file nor nothing can be walked through. So two trees that are the same
but for a mark lead a path to the same place, unless it ends at the mark in one of
them only (`follow_place`); and it ends there only if its last part is the mark's
name, as long as no link's target has that name (`follow_mark`). A path that is
free of the name comes to the very same stop, failures included (`follow_eq`).

Two facts about one tree stand at the end: what comes after a path is followed
from where the path leads (`follow_append`), and dots on the way to a directory
can be put in (`follow_thin`).
-/

namespace Overlay.Files

/-! ## One part of a path -/

open Entry (bare SameBut emptyDirectory)

/-- What one part of a path does. -/
inductive Move where
  | onto (next : Place)
  | link (target : String)
  | missing
  | fail (e : FileError)

/-- The move of a part. It depends on the entry that it starts from and on the next
one, and not on what is in them. -/
def move (t : Entry) (floor : Option Place) (here : Place) (part : String) : Move :=
  match (t.get? here).map bare with
  | some (.directory _) =>
    if Path.isIdle part then .onto here
    else if part == ".." then
      if floor == some here then .fail .outside else .onto here.dropLast
    else if nameLimit < part.utf8ByteSize then .fail .nameTooLong
    else match (t.get? (here ++ [part])).map bare with
      | some (.link target) => .link target
      | some _ => .onto (here ++ [part])
      | none => .missing
  | some _ => .fail .notDirectory
  | none => .fail .notFound

theorem followParts_cons (t : Entry) (floor : Option Place) (here : Place) (part : String)
    (rest : List String) :
    followParts t floor here (part :: rest) =
      match move t floor here part with
      | .onto next => followParts t floor next rest
      | .link target => .link here target rest
      | .missing => if rest.isEmpty then .absent here part else .failed .notFound
      | .fail e => .failed e := by
  rw [followParts, move]
  rcases hhere : t.get? here with _ | (c | target | es)
  · rfl
  · rfl
  · rfl
  · simp only [Option.map_some, bare, emptyDirectory]
    rw [Entry.get?_directory_snoc hhere]
    split
    · rfl
    · split
      · split <;> rfl
      · split
        · rfl
        · rcases Entry.find? part es with _ | (_ | _ | _) <;> rfl

/-- When a part makes a move. -/
inductive Moves (t : Entry) (here : Place) (part : String) : Move → Prop
  | stay (es : List (String × Entry)) : t.get? here = some (.directory es) →
      Path.isIdle part = true → Moves t here part (.onto here)
  | up (es : List (String × Entry)) : t.get? here = some (.directory es) →
      part = ".." → Moves t here part (.onto here.dropLast)
  | down (es : List (String × Entry)) (e : Entry) : t.get? here = some (.directory es) →
      t.get? (here ++ [part]) = some e → (∀ target, e ≠ .link target) →
        Moves t here part (.onto (here ++ [part]))
  | link (target : String) : t.get? (here ++ [part]) = some (.link target) →
      Moves t here part (.link target)
  | missing (es : List (String × Entry)) : t.get? here = some (.directory es) →
      t.get? (here ++ [part]) = none → Moves t here part .missing
  | fail (e : FileError) : Moves t here part (.fail e)

theorem moves_move (t : Entry) (floor : Option Place) (here : Place) (part : String) :
    Moves t here part (move t floor here part) := by
  rw [move]
  rcases hhere : t.get? here with _ | (c | target | es)
  · exact .fail _
  · exact .fail _
  · exact .fail _
  · simp only [Option.map_some, bare, emptyDirectory]
    split
    · next hidle => exact .stay es hhere hidle
    · split
      · next hup =>
        split
        · exact .fail _
        · exact .up es hhere (by simpa using hup)
      · split
        · exact .fail _
        · rcases hnext : t.get? (here ++ [part]) with _ | (c | target | inner)
          · exact .missing es hhere hnext
          · exact .down es _ hhere hnext (by simp)
          · exact .link target hnext
          · exact .down es _ hhere hnext (by simp)

/-! ## Paths in trees that are the same but for a mark -/

section Following

variable {t u : Entry} {dir here : Place} {name part : String} {floor : Option Place}
  {rest parts : List String}

theorem move_eq (h : SameBut (dir ++ [name]) t u) (hhere : here ≠ dir ++ [name])
    (hnext : here ++ [part] ≠ dir ++ [name]) : move u floor here part = move t floor here part := by
  rw [move, move, h.elsewhere _ hhere, h.elsewhere _ hnext]

/-- No way leads on to the mark but by its own name. -/
theorem Moves.ne_mark (hmark : ∀ e, t.get? (dir ++ [name]) = some e → ∃ c, e = .file c)
    (hhere : here ≠ dir ++ [name]) {next : Place} (hmoves : Moves t here part (.onto next))
    (hnext : here ++ [part] ≠ dir ++ [name]) : next ≠ dir ++ [name] := by
  cases hmoves with
  | stay _ _ _ => exact hhere
  | down _ _ _ _ _ => exact hnext
  | up es hdir _ =>
      -- Above a directory is a directory, and the mark is none.
      intro heq
      by_cases hnil : here = []
      · rw [hnil] at heq
        exact absurd heq (by simp)
      · rw [← List.dropLast_concat_getLast hnil, heq] at hdir
        obtain ⟨up, hup⟩ := Entry.exists_directory_of_get? (by simp) hdir
        obtain ⟨c, hc⟩ := hmark _ hup
        cases hc

/-- From the mark nothing leads on. -/
theorem followParts_of_mark (hmark : ∀ e, t.get? here = some e → ∃ c, e = .file c)
    (hparts : parts ≠ []) : ∃ e, followParts t floor here parts = .failed e := by
  obtain ⟨part, rest, rfl⟩ := List.exists_cons_of_ne_nil hparts
  rw [followParts]
  cases hhere : t.get? here with
  | none => exact ⟨_, rfl⟩
  | some e =>
      obtain ⟨c, rfl⟩ := hmark e hhere
      exact ⟨_, rfl⟩

/-- Following came to a place that the other tree `u` can have too, or to a link. -/
def Stop.Onward (mark : Place) (u : Entry) : Stop → Prop
  | .place q => q = mark → ∃ e, u.get? mark = some e
  | .link .. => True
  | .failed _ => False
  | .absent .. => False

/-- By the name of the mark a path gets to the mark, where it ends, or nowhere. -/
theorem move_of_mark (hmark : ∀ e, t.get? (dir ++ [name]) = some e → ∃ c, e = .file c)
    (hname : Path.isIdle name = false) (hup : name ≠ "..")
    (hon : (followParts t floor dir (name :: rest)).Onward (dir ++ [name]) u) :
    rest = [] ∧ move t floor dir name = .onto (dir ++ [name]) := by
  rw [followParts_cons] at hon
  have hmoves := moves_move t floor dir name
  match hmove : move t floor dir name with
  | .onto next =>
      rw [hmove] at hmoves hon
      cases hmoves with
      | stay _ _ hidle => rw [hidle] at hname; cases hname
      | up _ _ heq => exact absurd heq hup
      | down es e _ he _ =>
          refine ⟨?_, rfl⟩
          by_contra hrest
          obtain ⟨e, hfailed⟩ : ∃ e, followParts t floor (dir ++ [name]) rest = .failed e :=
            followParts_of_mark hmark hrest
          simp only [hfailed] at hon
          exact hon
  | .link target =>
      rw [hmove] at hmoves
      cases hmoves with
      | link target htarget =>
          obtain ⟨c, hc⟩ := hmark _ htarget
          cases hc
  | .missing =>
      simp only [hmove] at hon
      split at hon <;> exact hon.elim
  | .fail e =>
      simp only [hmove] at hon
      exact hon.elim

theorem move_of_mark_same (h : SameBut (dir ++ [name]) t u) {e : Entry}
    (hu : u.get? (dir ++ [name]) = some e)
    (hmove : move t floor dir name = .onto (dir ++ [name])) :
    move u floor dir name = .onto (dir ++ [name]) := by
  have hdir : dir ≠ dir ++ [name] := by simp
  obtain ⟨c, rfl⟩ := h.right e hu
  rw [move] at hmove ⊢
  rw [h.elsewhere dir hdir, hu]
  match hhere : t.get? dir with
  | none => rw [hhere] at hmove; cases hmove
  | some (.file c) => rw [hhere] at hmove; cases hmove
  | some (.link target) => rw [hhere] at hmove; cases hmove
  | some (.directory es) =>
      simp only [hhere, Option.map_some, bare, emptyDirectory] at hmove ⊢
      split at hmove
      · next hidle => rw [if_pos hidle, hmove]
      · next hidle =>
        rw [if_neg hidle]
        split at hmove
        · next hup =>
          rw [if_pos hup]
          split at hmove
          · cases hmove
          · next hfloor => rw [if_neg hfloor, hmove]
        · next hup =>
          rw [if_neg hup]
          split at hmove
          · cases hmove
          · next hlimit => rw [if_neg hlimit]

theorem followParts_onward (h : SameBut (dir ++ [name]) t u) (hname : Path.isIdle name = false)
    (hup : name ≠ "..") (hhere : here ≠ dir ++ [name])
    (hon : (followParts t floor here parts).Onward (dir ++ [name]) u) :
    followParts u floor here parts = followParts t floor here parts := by
  induction parts generalizing here with
  | nil => rfl
  | cons part rest ih =>
      by_cases hnext : here ++ [part] = dir ++ [name]
      · obtain ⟨rfl, hpart⟩ := List.append_inj' hnext rfl
        obtain rfl := List.singleton_inj.mp hpart
        obtain ⟨rfl, hmove⟩ := move_of_mark h.left hname hup hon
        rw [followParts_cons, hmove] at hon
        obtain ⟨e, hu⟩ := hon rfl
        rw [followParts_cons, followParts_cons t, hmove, move_of_mark_same h hu hmove]
        rfl
      · have hmoves := moves_move t floor here part
        rw [followParts_cons] at hon
        rw [followParts_cons, followParts_cons t, move_eq h hhere hnext]
        match hmove : move t floor here part with
        | .onto next =>
            rw [hmove] at hmoves hon
            exact ih (hmoves.ne_mark h.left hhere hnext) hon
        | .link target => rfl
        | .missing => rfl
        | .fail e => rfl

/-- Links are entries, and the parts after one are the last ones of the path. -/
theorem followParts_link {target : String} {origin : Place}
    (hlink : followParts t floor here parts = .link origin target rest) :
    (∃ part, t.get? (origin ++ [part]) = some (.link target)) ∧ rest <:+ parts := by
  induction parts generalizing here with
  | nil => cases hlink
  | cons part more ih =>
      have hmoves := moves_move t floor here part
      rw [followParts_cons] at hlink
      match hmove : move t floor here part with
      | .onto next =>
          rw [hmove] at hlink
          obtain ⟨hentry, hrest⟩ := ih hlink
          exact ⟨hentry, hrest.trans (List.suffix_cons part more)⟩
      | .link target' =>
          rw [hmove] at hmoves hlink
          cases hlink
          cases hmoves with
          | link _ htarget => exact ⟨⟨part, htarget⟩, List.suffix_cons part _⟩
      | .missing =>
          simp only [hmove] at hlink
          split at hlink <;> cases hlink
      | .fail e => simp only [hmove] at hlink; cases hlink

theorem followParts_mark (hmark : ∀ e, t.get? (dir ++ [name]) = some e → ∃ c, e = .file c)
    (hhere : here ≠ dir ++ [name])
    (hplace : followParts t floor here parts = .place (dir ++ [name])) :
    parts.getLast? = some name := by
  induction parts generalizing here with
  | nil =>
      rw [followParts] at hplace
      cases hplace
      exact absurd rfl hhere
  | cons part rest ih =>
      have hmoves := moves_move t floor here part
      rw [followParts_cons] at hplace
      match hmove : move t floor here part with
      | .onto next =>
          rw [hmove] at hmoves hplace
          simp only at hplace
          by_cases hrest : rest = []
          · rw [hrest, followParts] at hplace
            injection hplace with hplace
            by_cases hnext : here ++ [part] = dir ++ [name]
            · rw [hrest]
              exact congrArg some (List.singleton_inj.mp (List.append_inj_right' hnext rfl))
            · exact absurd hplace (hmoves.ne_mark hmark hhere hnext)
          · by_cases hnext : next = dir ++ [name]
            · rw [← hnext] at hmark
              obtain ⟨e, hfailed⟩ : ∃ e, followParts t floor next rest = .failed e :=
                followParts_of_mark hmark hrest
              rw [hfailed] at hplace
              cases hplace
            · rw [List.getLast?_cons_of_ne_nil hrest]
              exact ih hnext hplace
      | .link target => simp only [hmove] at hplace; cases hplace
      | .missing =>
          simp only [hmove] at hplace
          split at hplace <;> cases hplace
      | .fail e => simp only [hmove] at hplace; cases hplace

theorem followParts_eq (h : SameBut (dir ++ [name]) t u) (hhere : here ≠ dir ++ [name])
    (hparts : name ∉ parts) :
    followParts u floor here parts = followParts t floor here parts := by
  induction parts generalizing here with
  | nil => rfl
  | cons part rest ih =>
      obtain ⟨hpart, hrest⟩ := not_or.mp (mt List.mem_cons.mpr hparts)
      have hnext : here ++ [part] ≠ dir ++ [name] := fun heq =>
        hpart (List.singleton_inj.mp (List.append_inj_right' heq rfl)).symm
      have hmoves := moves_move t floor here part
      rw [followParts_cons, followParts_cons t, move_eq h hhere hnext]
      match hmove : move t floor here part with
      | .onto next =>
          rw [hmove] at hmoves
          exact ih (hmoves.ne_mark h.left hhere hnext) hrest
      | .link target => rfl
      | .missing => rfl
      | .fail e => rfl

/-! ## Links -/

/-- No link's target has this name on its way. -/
def Entry.Unlinked (t : Entry) (name : String) : Prop :=
  ∀ place target, t.get? place = some (.link target) → name ∉ pathParts target

theorem follow_of_stop {links : Nat} {stop : Stop}
    (hstop : followParts t floor here parts = stop) (hlink : ∀ p s r, stop ≠ .link p s r) :
    follow t floor links here parts = stop := by
  subst hstop
  cases links with
  | zero =>
      rw [follow]
      split
      · next h => exact absurd h (hlink _ _ _)
      · rfl
  | succ links =>
      rw [follow]
      split
      · next h => exact absurd h (hlink _ _ _)
      · rfl

/-- What comes after a link depends on nothing but the link: a failure, or its
target from its directory or from the root. -/
theorem follow_of_link (floor : Option Place) (links : Nat) (origin : Place)
    (target : String) :
    (∃ e, ∀ {t here parts rest}, followParts t floor here parts = .link origin target rest →
      follow t floor links here parts = .failed e) ∨
    ∃ n start, links = n + 1 ∧ (start = [] ∨ start = origin) ∧
      ∀ {t here parts rest}, followParts t floor here parts = .link origin target rest →
        follow t floor links here parts = follow t floor n start (pathParts target ++ rest) := by
  cases links with
  | zero => exact Or.inl ⟨.tooManyLinks, fun h => by rw [follow, h]⟩
  | succ links =>
      by_cases hempty : target.isEmpty = true
      · exact Or.inl ⟨.notFound, fun h => by simp [follow, h, hempty]⟩
      · by_cases habs : Path.isAbsolute target = true
        · by_cases hfloor : floor.isSome = true
          · exact Or.inl ⟨.outside, fun h => by simp [follow, h, hempty, habs, hfloor]⟩
          · exact Or.inr ⟨links, [], rfl, Or.inl rfl,
              fun h => by simp [follow, h, hempty, habs, hfloor]⟩
        · exact Or.inr ⟨links, origin, rfl, Or.inr rfl,
            fun h => by simp [follow, h, hempty, habs]⟩

/-- After a link the way starts off the mark again. -/
theorem start_ne_mark (hmark : ∀ e, t.get? (dir ++ [name]) = some e → ∃ c, e = .file c)
    {origin start : Place} {target : String}
    (hentry : t.get? (origin ++ [part]) = some (.link target))
    (hstart : start = [] ∨ start = origin) : start ≠ dir ++ [name] := by
  rcases hstart with rfl | rfl
  · simp
  · rintro rfl
    obtain ⟨es, hdir⟩ := Entry.exists_directory_of_get? (by simp) hentry
    obtain ⟨c, hc⟩ := hmark _ hdir
    cases hc

/-- A path that leads to a place in one tree leads there in the other. -/
theorem follow_place (h : SameBut (dir ++ [name]) t u) (hname : Path.isIdle name = false)
    (hup : name ≠ "..") {links : Nat} {q : Place} (hhere : here ≠ dir ++ [name])
    (hq : q = dir ++ [name] → ∃ e, u.get? (dir ++ [name]) = some e)
    (hplace : follow t floor links here parts = .place q) :
    follow u floor links here parts = .place q := by
  induction links using Nat.strongRecOn generalizing here parts with
  | ind links ih =>
      match hstop : followParts t floor here parts with
      | .failed e => rw [follow_of_stop hstop (by simp)] at hplace; cases hplace
      | .absent p n => rw [follow_of_stop hstop (by simp)] at hplace; cases hplace
      | .place p =>
          rw [follow_of_stop hstop (by simp)] at hplace
          cases hplace
          have hon : (followParts t floor here parts).Onward (dir ++ [name]) u := by
            rw [hstop]
            exact hq
          exact follow_of_stop ((followParts_onward h hname hup hhere hon).trans hstop) (by simp)
      | .link origin target rest =>
          have hon : (followParts t floor here parts).Onward (dir ++ [name]) u := by
            rw [hstop]
            trivial
          obtain ⟨⟨part, hentry⟩, -⟩ := followParts_link hstop
          have hsame := (followParts_onward h hname hup hhere hon).trans hstop
          rcases follow_of_link floor links origin target with
            ⟨e, hfailed⟩ | ⟨n, start, rfl, hstart, hnext⟩
          · rw [hfailed hstop] at hplace
            cases hplace
          · rw [hnext hstop] at hplace
            rw [hnext hsame]
            exact ih n (Nat.lt_succ_self n) (start_ne_mark h.left hentry hstart) hplace

theorem follow_mark (hmark : ∀ e, t.get? (dir ++ [name]) = some e → ∃ c, e = .file c)
    (hlinks : t.Unlinked name) {links : Nat} (hhere : here ≠ dir ++ [name])
    (hplace : follow t floor links here parts = .place (dir ++ [name])) :
    parts.getLast? = some name := by
  induction links using Nat.strongRecOn generalizing here parts with
  | ind links ih =>
      match hstop : followParts t floor here parts with
      | .failed e => rw [follow_of_stop hstop (by simp)] at hplace; cases hplace
      | .absent p n => rw [follow_of_stop hstop (by simp)] at hplace; cases hplace
      | .place p =>
          rw [follow_of_stop hstop (by simp)] at hplace
          cases hplace
          exact followParts_mark hmark hhere hstop
      | .link origin target rest =>
          obtain ⟨⟨part, hentry⟩, hrest⟩ := followParts_link hstop
          rcases follow_of_link floor links origin target with
            ⟨e, hfailed⟩ | ⟨n, start, rfl, hstart, hnext⟩
          · rw [hfailed hstop] at hplace
            cases hplace
          · rw [hnext hstop] at hplace
            have hlast := ih n (Nat.lt_succ_self n) (start_ne_mark hmark hentry hstart) hplace
            -- The last part is one of the path, since the target has not that name.
            have hne : rest ≠ [] := by
              rintro rfl
              rw [List.append_nil] at hlast
              exact hlinks _ _ hentry (List.mem_of_getLast? hlast)
            rw [List.getLast?_append_of_ne_nil _ hne] at hlast
            obtain ⟨front, rfl⟩ := hrest
            rw [List.getLast?_append_of_ne_nil _ hne, hlast]

/-- A path that is free of the name comes to the same, failures included. -/
theorem follow_eq (h : SameBut (dir ++ [name]) t u) (hlinks : t.Unlinked name) {links : Nat}
    (hhere : here ≠ dir ++ [name]) (hparts : name ∉ parts) :
    follow u floor links here parts = follow t floor links here parts := by
  induction links using Nat.strongRecOn generalizing here parts with
  | ind links ih =>
      have hsame : followParts u floor here parts = followParts t floor here parts :=
        followParts_eq h hhere hparts
      match hstop : followParts t floor here parts with
      | .failed e =>
          rw [follow_of_stop hstop (by simp), follow_of_stop (hsame.trans hstop) (by simp)]
      | .absent p n =>
          rw [follow_of_stop hstop (by simp), follow_of_stop (hsame.trans hstop) (by simp)]
      | .place p =>
          rw [follow_of_stop hstop (by simp), follow_of_stop (hsame.trans hstop) (by simp)]
      | .link origin target rest =>
          obtain ⟨⟨part, hentry⟩, hrest⟩ := followParts_link hstop
          rcases follow_of_link floor links origin target with
            ⟨e, hfailed⟩ | ⟨n, start, rfl, hstart, hnext⟩
          · rw [hfailed hstop, hfailed (hsame.trans hstop)]
          · rw [hnext hstop, hnext (hsame.trans hstop)]
            refine ih n (Nat.lt_succ_self n) (start_ne_mark h.left hentry hstart) ?_
            intro hmem
            rcases List.mem_append.mp hmem with htarget | hmem
            · exact hlinks _ _ hentry htarget
            · exact hparts (hrest.subset hmem)

/-- From its directory the name leads to the mark or to nothing. -/
theorem follow_name (hmark : ∀ e, t.get? (dir ++ [name]) = some e → ∃ c, e = .file c)
    (hname : Path.isIdle name = false) (hup : name ≠ "..") {links : Nat} {q : Place}
    (hplace : follow t floor links dir [name] = .place q) : q = dir ++ [name] := by
  by_contra hq
  have hmove : (followParts t floor dir [name]).Onward (dir ++ [name]) t →
      followParts t floor dir [name] = .place (dir ++ [name]) := by
    intro hon
    rw [followParts_cons, (move_of_mark hmark hname hup hon).2]
    rfl
  match hstop : followParts t floor dir [name] with
  | .failed e => rw [follow_of_stop hstop (by simp)] at hplace; cases hplace
  | .absent p n => rw [follow_of_stop hstop (by simp)] at hplace; cases hplace
  | .link origin target rest =>
      rw [hstop] at hmove
      cases hmove trivial
  | .place p =>
      rw [follow_of_stop hstop (by simp)] at hplace
      cases hplace
      rw [hstop] at hmove
      injection hmove fun heq => absurd heq hq with heq
      exact hq heq

/-! ## What is where following stops -/

/-- Something stands at the place, and it is no link. -/
def Entry.Stands (t : Entry) (q : Place) : Prop :=
  ∃ e, t.get? q = some e ∧ ∀ target, e ≠ .link target

theorem stands_directory {es : List (String × Entry)}
    (h : t.get? here = some (.directory es)) : t.Stands here :=
  ⟨_, h, by simp⟩

theorem Moves.stands {next : Place} (h : Moves t here part (.onto next)) : t.Stands next := by
  cases h with
  | stay es hdir _ => exact stands_directory hdir
  | down es e _ he hlink => exact ⟨e, he, hlink⟩
  | up es hdir _ =>
      by_cases hnil : here = []
      · rw [hnil] at hdir ⊢
        exact stands_directory hdir
      · rw [← List.dropLast_concat_getLast hnil] at hdir
        obtain ⟨up, hup⟩ := Entry.exists_directory_of_get? (by simp) hdir
        exact stands_directory hup

/-- The place has something, and where a name is missing there is a directory. -/
def Stop.Sound (t : Entry) : Stop → Prop
  | .place q => t.Stands q
  | .absent q n => (∃ es, t.get? q = some (.directory es)) ∧ t.get? (q ++ [n]) = none
  | .link .. => True
  | .failed _ => True

theorem followParts_sound (hhere : t.Stands here) :
    (followParts t floor here parts).Sound t := by
  induction parts generalizing here with
  | nil => exact hhere
  | cons part rest ih =>
      have hmoves := moves_move t floor here part
      rw [followParts_cons]
      match hmove : move t floor here part with
      | .onto next =>
          rw [hmove] at hmoves
          exact ih hmoves.stands
      | .link target => trivial
      | .fail e => trivial
      | .missing =>
          rw [hmove] at hmoves
          cases hmoves with
          | missing es hdir hnone =>
              simp only
              split
              · exact ⟨⟨es, hdir⟩, hnone⟩
              · trivial

theorem follow_sound {links : Nat} (hhere : t.Stands here) :
    (follow t floor links here parts).Sound t := by
  induction links using Nat.strongRecOn generalizing here parts with
  | ind links ih =>
      have hsound : (followParts t floor here parts).Sound t := followParts_sound hhere
      match hstop : followParts t floor here parts with
      | .failed e => rw [follow_of_stop hstop (by simp)]; trivial
      | .absent p n => rw [follow_of_stop hstop (by simp), ← hstop]; exact hsound
      | .place p => rw [follow_of_stop hstop (by simp), ← hstop]; exact hsound
      | .link origin target rest =>
          obtain ⟨⟨part, hentry⟩, -⟩ := followParts_link hstop
          rcases follow_of_link floor links origin target with
            ⟨e, hfailed⟩ | ⟨n, start, rfl, hstart, hnext⟩
          · rw [hfailed hstop]
            trivial
          · rw [hnext hstop]
            refine ih n (Nat.lt_succ_self n) ?_
            rcases hstart with rfl | rfl
            · obtain ⟨es, hroot⟩ : ∃ es, t.get? [] = some (.directory es) :=
                Entry.exists_directory_of_get? (by simp) (List.nil_append _ ▸ hentry)
              exact stands_directory hroot
            · obtain ⟨es, hdir⟩ := Entry.exists_directory_of_get? (by simp) hentry
              exact stands_directory hdir

/-! ## Longer paths, and paths with dots in them -/

theorem followParts_append_place {q : Place} (more : List String)
    (hplace : followParts t floor here parts = .place q) :
    followParts t floor here (parts ++ more) = followParts t floor q more := by
  induction parts generalizing here with
  | nil =>
      rw [followParts] at hplace
      cases hplace
      rfl
  | cons part rest ih =>
      rw [followParts_cons] at hplace
      rw [List.cons_append, followParts_cons]
      match hmove : move t floor here part with
      | .onto next => rw [hmove] at hplace; exact ih hplace
      | .link target => simp only [hmove] at hplace; cases hplace
      | .missing =>
          simp only [hmove] at hplace
          split at hplace <;> cases hplace
      | .fail e => simp only [hmove] at hplace; cases hplace

theorem followParts_append_link {origin : Place} {target : String} (more : List String)
    (hlink : followParts t floor here parts = .link origin target rest) :
    followParts t floor here (parts ++ more) = .link origin target (rest ++ more) := by
  induction parts generalizing here with
  | nil => cases hlink
  | cons part rest' ih =>
      rw [followParts_cons] at hlink
      rw [List.cons_append, followParts_cons]
      match hmove : move t floor here part with
      | .onto next => rw [hmove] at hlink; exact ih hlink
      | .link target' => rw [hmove] at hlink; cases hlink; rfl
      | .missing =>
          simp only [hmove] at hlink
          split at hlink <;> cases hlink
      | .fail e => simp only [hmove] at hlink; cases hlink

/-- What comes after a path that leads to a place is followed from there. -/
theorem follow_append {links : Nat} {q : Place} (more : List String)
    (hplace : follow t floor links here parts = .place q) :
    ∃ n, follow t floor links here (parts ++ more) = follow t floor n q more := by
  induction links using Nat.strongRecOn generalizing here parts with
  | ind links ih =>
      match hstop : followParts t floor here parts with
      | .failed e => rw [follow_of_stop hstop (by simp)] at hplace; cases hplace
      | .absent p n => rw [follow_of_stop hstop (by simp)] at hplace; cases hplace
      | .place p =>
          rw [follow_of_stop hstop (by simp)] at hplace
          cases hplace
          refine ⟨links, ?_⟩
          have hparts := followParts_append_place more hstop
          cases links <;> rw [follow, follow, hparts]
      | .link origin target rest =>
          have hmore := followParts_append_link more hstop
          rcases follow_of_link floor links origin target with
            ⟨e, hfailed⟩ | ⟨n, start, rfl, hstart, hnext⟩
          · rw [hfailed hstop] at hplace
            cases hplace
          · rw [hnext hstop] at hplace
            obtain ⟨m, hm⟩ := ih n (Nat.lt_succ_self n) hplace
            exact ⟨m, by rw [hnext hmore, ← List.append_assoc, hm]⟩

/-- Some parts that say nothing are left out. -/
inductive Thins : List String → List String → Prop
  | nil : Thins [] []
  | keep {l l' : List String} (part : String) : Thins l l' → Thins (part :: l) (part :: l')
  | drop {l l' : List String} (part : String) : Path.isIdle part = true → Thins l l' →
      Thins (part :: l) l'

theorem thins_refl (l : List String) : Thins l l := by
  induction l with
  | nil => exact .nil
  | cons part l ih => exact .keep part ih

theorem thins_filter (l : List String) : Thins l (l.filter (!Path.isIdle ·)) := by
  induction l with
  | nil => exact .nil
  | cons part l ih =>
      rw [List.filter_cons]
      split
      · exact .keep part ih
      · next hidle => exact .drop part (by simpa using hidle) ih

theorem Thins.append {a a' b b' : List String} (ha : Thins a a') (hb : Thins b b') :
    Thins (a ++ b) (a' ++ b') := by
  induction ha with
  | nil => exact hb
  | keep part _ ih => exact .keep part ih
  | drop part hidle _ ih => exact .drop part hidle ih

/-- Following starts in a directory if it ends in one, or at a link. -/
theorem exists_directory_of_followParts
    (h : (∃ q es, followParts t floor here parts = .place q ∧
        t.get? q = some (.directory es)) ∨
      ∃ p s r, followParts t floor here parts = .link p s r) :
    ∃ es, t.get? here = some (.directory es) := by
  cases parts with
  | nil =>
      rcases h with ⟨q, es, hplace, hq⟩ | ⟨p, s, r, hlink⟩
      · rw [followParts] at hplace
        cases hplace
        exact ⟨es, hq⟩
      · cases hlink
  | cons part rest =>
      rw [followParts] at h
      match hhere : t.get? here with
      | some (.directory es) => exact ⟨es, rfl⟩
      | none => simp [hhere] at h
      | some (.file c) => simp [hhere] at h
      | some (.link target) => simp [hhere] at h

theorem followParts_idle {es : List (String × Entry)}
    (hhere : t.get? here = some (.directory es)) (hidle : Path.isIdle part = true) :
    followParts t floor here (part :: rest) = followParts t floor here rest := by
  rw [followParts, hhere]
  simp [hidle]

theorem followParts_thin_place {q : Place} {es : List (String × Entry)} {thin : List String}
    (hthin : Thins parts thin) (hplace : followParts t floor here thin = .place q)
    (hq : t.get? q = some (.directory es)) : followParts t floor here parts = .place q := by
  induction hthin generalizing here with
  | nil => exact hplace
  | drop part hidle _ ih =>
      obtain ⟨es', hhere⟩ := exists_directory_of_followParts (Or.inl ⟨q, es, hplace, hq⟩)
      rw [followParts_idle hhere hidle]
      exact ih hplace
  | keep part hrest ih =>
      rw [followParts_cons] at hplace ⊢
      match hmove : move t floor here part with
      | .onto next => rw [hmove] at hplace; exact ih hplace
      | .link target => simp only [hmove] at hplace; cases hplace
      | .missing =>
          simp only [hmove] at hplace
          split at hplace <;> cases hplace
      | .fail e => simp only [hmove] at hplace; cases hplace

theorem followParts_thin_link {origin : Place} {target : String} {thin : List String}
    (hthin : Thins parts thin)
    (hlink : followParts t floor here thin = .link origin target rest) :
    ∃ rest', followParts t floor here parts = .link origin target rest' ∧ Thins rest' rest := by
  induction hthin generalizing here with
  | nil => cases hlink
  | drop part hidle _ ih =>
      obtain ⟨es', hhere⟩ := exists_directory_of_followParts (Or.inr ⟨_, _, _, hlink⟩)
      rw [followParts_idle hhere hidle]
      exact ih hlink
  | keep part hrest ih =>
      rw [followParts_cons] at hlink ⊢
      match hmove : move t floor here part with
      | .onto next => rw [hmove] at hlink; exact ih hlink
      | .link target' =>
          rw [hmove] at hlink
          cases hlink
          exact ⟨_, rfl, hrest⟩
      | .missing =>
          simp only [hmove] at hlink
          split at hlink <;> cases hlink
      | .fail e => simp only [hmove] at hlink; cases hlink

/-- Dots on the way to a directory make no difference. -/
theorem follow_thin {links : Nat} {q : Place} {es : List (String × Entry)} {thin : List String}
    (hthin : Thins parts thin) (hplace : follow t floor links here thin = .place q)
    (hq : t.get? q = some (.directory es)) : follow t floor links here parts = .place q := by
  induction links using Nat.strongRecOn generalizing here parts thin with
  | ind links ih =>
      match hstop : followParts t floor here thin with
      | .failed e => rw [follow_of_stop hstop (by simp)] at hplace; cases hplace
      | .absent p n => rw [follow_of_stop hstop (by simp)] at hplace; cases hplace
      | .place p =>
          rw [follow_of_stop hstop (by simp)] at hplace
          cases hplace
          exact follow_of_stop (followParts_thin_place hthin hstop hq) (by simp)
      | .link origin target rest =>
          obtain ⟨rest', hlink, hrest⟩ := followParts_thin_link hthin hstop
          rcases follow_of_link floor links origin target with
            ⟨e, hfailed⟩ | ⟨n, start, rfl, hstart, hnext⟩
          · rw [hfailed hstop] at hplace
            cases hplace
          · rw [hnext hstop] at hplace
            rw [hnext hlink]
            exact ih n (Nat.lt_succ_self n) ((thins_refl _).append hrest) hplace

end Following

end Overlay.Files
