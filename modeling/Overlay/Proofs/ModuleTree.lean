import Overlay.Generate.Import
import Overlay.Proofs.CrateNames

/-!
# The tree of modules that a graph keeps

A graph keeps modules under texts: the name of a crate, and for a child the name
of its parent, two colons and its own name. Nothing else ties what is kept to the
modules it was read from. If only modules are asked about that the graph itself
has given, and only for identifiers, then the texts are as good as the modules.
Two colons divide such a name in one way, so what is kept for a child was found
as the child of the module that is kept for its parent.

`graph_keeps_tree` is what follows: every module is kept under its own name,
beside its parent, and with the directory that its name says; nothing that is
kept is ever replaced; and the answer for a child is the one that its parent
gives without the graph (`child_answer`).
-/

namespace Overlay.Generate

open Files (FileSystem Path)
open Text (isIdent isIdentStart isContinue)

/-! ## Identifiers and the names of modules -/

/-- An identifier as it is written, which may be a raw one. -/
def IsIdentifier (name : String) : Prop := isIdent (Source.unraw name).toList = true

instance (name : String) : Decidable (IsIdentifier name) :=
  inferInstanceAs (Decidable (_ = true))

theorem mem_of_isIdent {cs : List Char} (h : isIdent cs = true) {d : Char} (hd : d ∈ cs) :
    isIdentStart d = true ∨ isContinue d = true := by
  cases cs with
  | nil => cases hd
  | cons c rest =>
      rw [isIdent, Bool.and_eq_true] at h
      rcases List.mem_cons.mp hd with rfl | hd
      · exact Or.inl h.1
      · exact Or.inr (List.all_eq_true.mp h.2 d hd)

theorem IsIdentifier.mem_cases {name : String} (h : IsIdentifier name) {d : Char}
    (hd : d ∈ name.toList) :
    d = '#' ∨ isIdentStart d = true ∨ isContinue d = true := by
  rw [IsIdentifier, Source.unraw] at h
  split at h
  · next rest hname =>
    rw [hname] at hd
    rw [String.toList_ofList] at h
    rcases List.mem_cons.mp hd with rfl | hd
    · exact Or.inr (by decide)
    · rcases List.mem_cons.mp hd with rfl | hd
      · exact Or.inl rfl
      · exact Or.inr (mem_of_isIdent h hd)
  · exact Or.inr (mem_of_isIdent h hd)

theorem IsIdentifier.no_colon {name : String} (h : IsIdentifier name) :
    ':' ∉ name.toList := by
  intro hd
  exact absurd (h.mem_cases hd) (by decide)

theorem IsIdentifier.no_slash {name : String} (h : IsIdentifier name) :
    '/' ∉ name.toList := by
  intro hd
  exact absurd (h.mem_cases hd) (by decide)

theorem IsIdentifier.ne_empty {name : String} (h : IsIdentifier name) : name ≠ "" := by
  rintro rfl
  exact absurd h (by decide)

/-- The last two colons of a name divide it in one way. -/
theorem colons_inj {a b s t : List Char} (hs : ':' ∉ s) (ht : ':' ∉ t)
    (h : a ++ ':' :: ':' :: s = b ++ ':' :: ':' :: t) : a = b ∧ s = t := by
  have hgap : ∀ {gap s t : List Char}, ':' ∉ s →
      ':' :: ':' :: s = gap ++ ':' :: ':' :: t → gap = [] ∧ s = t := by
    intro gap s t hs h
    match gap with
    | [] => simpa using h
    | [c] =>
        rw [List.singleton_append, List.cons.injEq, List.cons.injEq] at h
        rw [h.2.2] at hs
        exact absurd (List.mem_cons_self ..) hs
    | c :: d :: gap =>
        rw [List.cons_append, List.cons_append, List.cons.injEq, List.cons.injEq] at h
        rw [h.2.2] at hs
        exact absurd (List.mem_append_right gap (List.mem_cons_self ..)) hs
  rcases List.append_eq_append_iff.mp h with ⟨gap, hb, hrest⟩ | ⟨gap, ha, hrest⟩
  · obtain ⟨rfl, rfl⟩ := hgap hs hrest
    exact ⟨by simpa using hb.symm, rfl⟩
  · obtain ⟨rfl, rfl⟩ := hgap ht hrest
    exact ⟨by simpa using ha, rfl⟩

theorem segment_inj {a b s t : String} (hs : ':' ∉ s.toList) (ht : ':' ∉ t.toList)
    (h : a ++ "::" ++ s = b ++ "::" ++ t) : a = b ∧ s = t := by
  have hlist : a.toList ++ ':' :: ':' :: s.toList =
      b.toList ++ ':' :: ':' :: t.toList := by
    simpa using congrArg String.toList h
  obtain ⟨hname, hlast⟩ := colons_inj hs ht hlist
  exact ⟨String.toList_inj.mp hname, String.toList_inj.mp hlast⟩

theorem FlatImport.path_snoc (root : String) (segs : List String) (s : String) :
    path (root :: (segs ++ [s])) = path (root :: segs) ++ "::" ++ s := by
  rw [path, path, ← List.cons_append,
    String.intercalate_append_of_ne_nil (by simp) (by simp), String.intercalate_singleton]

/-! ## Directories -/

/-- A path that has something before and after each of its slashes. -/
structure IsStem (p : Path) : Prop where
  relative : ∃ c, p.toList.head? = some c ∧ c ≠ '/'
  closed : ∃ c, p.toList.getLast? = some c ∧ c ≠ '/'

theorem isStem_of_identifier {s : String} (h : IsIdentifier s) : IsStem s := by
  have hne : s.toList ≠ [] := by simpa using h.ne_empty
  refine ⟨⟨_, List.head?_eq_some_head hne, ?_⟩, ⟨_, List.getLast?_eq_some_getLast hne, ?_⟩⟩
  · intro hslash
    exact h.no_slash (hslash ▸ List.head_mem hne)
  · intro hslash
    exact h.no_slash (hslash ▸ List.getLast_mem hne)

theorem isStem_append {p q : Path} (hp : IsStem p) (hq : IsStem q) :
    IsStem (p ++ "/" ++ q) := by
  obtain ⟨⟨c, hc, hne⟩, -⟩ := hp
  obtain ⟨-, ⟨d, hd, hned⟩⟩ := hq
  refine ⟨⟨c, ?_, hne⟩, ⟨d, ?_, hned⟩⟩
  · simp [List.head?_append, hc]
  · rw [String.toList_append, List.getLast?_append, hd, Option.some_or]

theorem isStem_intercalate {segs : List String} (hne : segs ≠ [])
    (h : ∀ s ∈ segs, IsIdentifier s) : IsStem ("/".intercalate segs) := by
  induction segs with
  | nil => exact absurd rfl hne
  | cons s rest ih =>
      have hs := isStem_of_identifier (h s (List.mem_cons_self ..))
      cases rest with
      | nil =>
          rw [String.intercalate_singleton]
          exact hs
      | cons t rest =>
          rw [String.intercalate_cons_cons]
          exact isStem_append hs
            (ih (by simp) fun u hu => h u (List.mem_cons_of_mem s hu))

theorem join_of_stem (base : Path) {p : Path} (hp : IsStem p) :
    base.join p = if base.isEmpty || base.toList.getLast? == some '/' then base ++ p
      else base ++ "/" ++ p := by
  obtain ⟨c, hc, hne⟩ := hp.relative
  have hrelative : Path.isAbsolute p = false := by
    rw [Path.isAbsolute, hc]
    simpa using hne
  rw [Path.join, hrelative]
  simp

theorem join_join (base : Path) {p q : Path} (hp : IsStem p) (hq : IsStem q) :
    (base.join p).join q = base.join (p ++ "/" ++ q) := by
  obtain ⟨c, hc, hne⟩ := hp.closed
  have hlast : (base.join p).toList.getLast? = some c := by
    rw [join_of_stem base hp]
    split
    · rw [String.toList_append, List.getLast?_append, hc, Option.some_or]
    · rw [String.toList_append, List.getLast?_append, hc, Option.some_or]
  have hnonempty : base.join p ≠ "" := by
    intro hempty
    rw [hempty] at hlast
    cases hlast
  have hopen : ((base.join p).isEmpty ||
      (base.join p).toList.getLast? == some '/') = false := by
    rw [hlast, Bool.or_eq_false_iff]
    exact ⟨by simpa using hnonempty, by simpa using hne⟩
  rw [join_of_stem _ hq, hopen, if_neg Bool.false_ne_true, join_of_stem base hp,
    join_of_stem base (isStem_append hp hq)]
  split
  · rw [String.append_assoc, String.append_assoc, String.append_assoc]
  · simp only [String.append_assoc]

/-! ## Questions about modules that were answers -/

/-- A crate whose own name and those of its dependencies are without colons, as
they have to be in a path. -/
structure Crate.Named (c : Crate) : Prop where
  ident : ':' ∉ c.ident.toList
  dependencies : ∀ d ∈ c.dependencies, ':' ∉ d.name.toList

/-- The module in the answer to a question. -/
def Request.reply? (fs : FileSystem) (g : CrateGraph) : Request → Option Module
  | crateRoot name =>
    match ((CrateGraph.crateRoot fs name).runOn g).1 with
    | .ok (some (.readable m)) => some m
    | _ => none
  | child parent name =>
    match ((CrateGraph.child fs parent name).runOn g).1 with
    | .ok found => found
    | .error _ => none

namespace CrateGraph

open Explore Request

/-- The module was the answer to one of the questions. -/
def Returned (fs : FileSystem) (c : Crate) (h : List Request) (m : Module) : Prop :=
  ∃ before r rest, h = before ++ r :: rest ∧ r.reply? fs (after fs c before) = some m

/-- The questions for children are about modules that the graph has given before,
and for identifiers. -/
inductive Grounded (fs : FileSystem) (c : Crate) : List Request → Prop
  | nil : Grounded fs c []
  | crateRoot {h : List Request} (n : String) :
      Grounded fs c h → Grounded fs c (h ++ [.crateRoot n])
  | child {h : List Request} {p : Module} {n : String} :
      Grounded fs c h → Returned fs c h p → IsIdentifier n →
        Grounded fs c (h ++ [.child p n])

section Kept

variable {fs : FileSystem} {c : Crate} {h : List Request} {m p : Module} {k n : String}

theorem ownChild_eq_some (hown : p.ownChild fs n = .ok (some m)) :
    m.name = p.childName n ∧ m.dir = p.dir.join n := by
  rw [Module.ownChild] at hown
  split at hown
  · cases hown
  · cases hown
    exact ⟨rfl, rfl⟩
  · rcases hfile : firstSource fs [p.dir.join (n ++ ".rs"), (p.dir.join n).join "mod.rs"]
      with f | (_ | source)
    · rw [hfile] at hown; cases hown
    · rw [hfile] at hown; cases hown
    · rw [hfile] at hown
      cases hown
      exact ⟨rfl, rfl⟩

theorem ownRoot_eq_readable (hown : c.ownRoot fs n = .ok (some (.readable m))) :
    m.name = c.rootKey n := by
  rw [Crate.ownRoot] at hown
  split at hown
  · cases hown
  · rw [Crate.readRoot] at hown
    split at hown
    · cases hown
    · cases hown
    · cases hown
    · split at hown
      · cases hown
      · cases hown
      · cases hown
        rfl

theorem ownChild_of_found (hfound : (Request.child p n).found? fs c = some m) :
    p.ownChild fs n = .ok (some m) := by
  rw [found?] at hfound
  split at hfound
  · next hown => rw [hown, hfound]
  · cases hfound

theorem found?_name {r : Request} (hfound : r.found? fs c = some m) : m.name = r.key c := by
  cases r with
  | crateRoot n =>
      rw [found?] at hfound
      split at hfound
      · next hown =>
        cases hfound
        exact ownRoot_eq_readable hown
      · cases hfound
  | child p n => exact (ownChild_eq_some (ownChild_of_found hfound)).1

/-- What is kept was found by one of the questions, and for its name. -/
theorem exists_found (hkept : (after fs c h).module? k = some m) :
    ∃ r ∈ h, r.key c = k ∧ r.found? fs c = some m := by
  rw [module?_after] at hkept
  obtain ⟨r, hr, hfound⟩ := List.exists_of_findSome?_eq_some hkept
  rw [foundAs?] at hfound
  split at hfound
  · next hkey => exact ⟨r, hr, hkey, hfound⟩
  · cases hfound

theorem kept_name (hkept : (after fs c h).module? k = some m) : m.name = k := by
  obtain ⟨r, -, rfl, hfound⟩ := exists_found hkept
  exact found?_name hfound

theorem kept_append (hkept : (after fs c h).module? k = some m) (later : List Request) :
    (after fs c (h ++ later)).module? k = some m := by
  rw [module?_after] at hkept
  rw [module?_after, List.findSome?_append, hkept, Option.some_or]

theorem kept_of_child
    (hr : (Request.child p n).reply? fs (after fs c h) = some m) :
    (after fs c (h ++ [.child p n])).module? m.name = some m := by
  rw [reply?, (leads_child_after fs c h p n).answer] at hr
  cases hkept : h.findSome? (foundAs? fs c (p.childName n)) with
  | some x =>
      rw [hkept] at hr
      cases hr
      rw [← module?_after] at hkept
      rw [kept_name hkept]
      exact kept_append hkept _
  | none =>
      rw [hkept] at hr
      have hfound : (Request.child p n).found? fs c = some m := hr
      rw [found?_name hfound, key, module?_after, List.findSome?_append, hkept,
        Option.none_or, List.findSome?_singleton, foundAs?, key, if_pos rfl]
      exact hfound

theorem kept_of_crateRoot
    (hr : (Request.crateRoot n).reply? fs (after fs c h) = some m) :
    (after fs c (h ++ [.crateRoot n])).module? m.name = some m := by
  cases htools : toolchainCrates.contains n with
  | true =>
      rw [reply?, (leads_crateRoot_toolchain fs c h htools).answer, Crate.ownRoot,
        if_pos htools] at hr
      cases hr
  | false =>
      obtain ⟨hleads, hroot⟩ := leads_crateRoot (trusted_after fs c h) htools
      rw [reply?, hleads.answer] at hr
      rw [← after_snoc] at hroot
      have hreadable :
          (after fs c (h ++ [.crateRoot n])).root? n = some (.readable m) := by
        rw [hroot]
        rcases hbefore : (after fs c h).root? n with _ | (x | _)
        · rw [hbefore] at hr
          simp only at hr
          split at hr
          · next hown => cases hr; rw [hown]; rfl
          · cases hr
        · rw [hbefore] at hr; cases hr; rfl
        · rw [hbefore] at hr; cases hr
      rw [root?] at hreadable
      split at hreadable
      · cases hreadable
      · obtain ⟨x, hx, hx'⟩ := Option.map_eq_some_iff.mp hreadable
        cases hx'
        rw [kept_name hx]
        exact hx

theorem kept_of_reply {r : Request} (hr : r.reply? fs (after fs c h) = some m) :
    (after fs c (h ++ [r])).module? m.name = some m := by
  cases r with
  | child p n => exact kept_of_child hr
  | crateRoot n => exact kept_of_crateRoot hr

theorem Returned.append (hp : Returned fs c h p) (later : List Request) :
    Returned fs c (h ++ later) p := by
  obtain ⟨before, r, rest, rfl, hr⟩ := hp
  exact ⟨before, r, rest ++ later, by simp, hr⟩

/-- A module that was an answer is kept under its name. -/
theorem Returned.kept (hp : Returned fs c h p) :
    (after fs c h).module? p.name = some p := by
  obtain ⟨before, r, rest, rfl, hr⟩ := hp
  have hkept := kept_append (kept_of_reply hr) rest
  rwa [List.append_assoc, List.singleton_append] at hkept

theorem Grounded.returned (hh : Grounded fs c h) (hmem : .child p n ∈ h) :
    Returned fs c h p ∧ IsIdentifier n := by
  induction hh with
  | nil => cases hmem
  | crateRoot k hh ih =>
      rcases List.mem_append.mp hmem with hmem | hmem
      · exact ⟨(ih hmem).1.append _, (ih hmem).2⟩
      · rw [List.mem_singleton] at hmem
        cases hmem
  | child hh hp hn ih =>
      rcases List.mem_append.mp hmem with hmem | hmem
      · exact ⟨(ih hmem).1.append _, (ih hmem).2⟩
      · rw [List.mem_singleton] at hmem
        cases hmem
        exact ⟨hp.append _, hn⟩

theorem no_colon_of_found (hc : c.Named)
    (hfound : (Request.crateRoot n).found? fs c = some m) :
    ':' ∉ (c.rootKey n).toList := by
  have hknown : c.Knows n := by
    by_contra hunknown
    rw [found?, Crate.ownRoot_eq_none_iff.mpr hunknown] at hfound
    cases hfound
  by_cases hself : n = selfName
  · rw [hself, Crate.rootKey_self]
    exact hc.ident
  · rw [Crate.rootKey_of_ne hself]
    rcases hknown with hself' | htools | ⟨d, hd, rfl⟩
    · exact absurd hself' hself
    · rw [found?, Crate.ownRoot, if_pos (List.contains_iff_mem.mpr htools)] at hfound
      cases hfound
    · exact hc.dependencies d hd

/-- A module kept under a name with colons is the own child of an answer. -/
theorem kept_cases (hc : c.Named) (hh : Grounded fs c h)
    (hkept : (after fs c h).module? k = some m) :
    ':' ∉ k.toList ∨ ∃ p n, (after fs c h).module? p.name = some p ∧ IsIdentifier n ∧
      k = p.childName n ∧ p.ownChild fs n = .ok (some m) := by
  obtain ⟨r, hr, rfl, hfound⟩ := exists_found hkept
  cases r with
  | crateRoot n => exact Or.inl (no_colon_of_found hc hfound)
  | child p n =>
      obtain ⟨hp, hn⟩ := hh.returned hr
      exact Or.inr ⟨p, n, hp.kept, hn, rfl, ownChild_of_found hfound⟩

/-- What is kept for the child of a module that is kept is its own child. -/
theorem kept_child (hc : c.Named) (hh : Grounded fs c h)
    (hp : (after fs c h).module? p.name = some p) (hn : ':' ∉ n.toList)
    (hkept : (after fs c h).module? (p.childName n) = some m) :
    IsIdentifier n ∧ p.ownChild fs n = .ok (some m) := by
  rcases kept_cases hc hh hkept with hcolon | ⟨q, k, hq, hk, hname, hown⟩
  · exact absurd (p.mem_childName n) hcolon
  -- It was found as a child of `q`, which has the name of `p` and is kept as `p` is.
  · obtain ⟨hpq, rfl⟩ := segment_inj hn hk.no_colon hname
    rw [hpq, hq] at hp
    cases hp
    exact ⟨hk, hown⟩

theorem child_answer (hc : c.Named) (hh : Grounded fs c h) (hp : Returned fs c h p)
    (hn : IsIdentifier n) :
    ((child fs p n).runOn (after fs c h)).1 = p.ownChild fs n := by
  rw [(leads_child_after fs c h p n).answer, ← module?_after]
  cases hkept : (after fs c h).module? (p.childName n) with
  | none => rfl
  | some m => exact (kept_child hc hh hp.kept hn.no_colon hkept).2.symm

theorem kept_parent (hc : c.Named) (hh : Grounded fs c h) {root s : String}
    {segs : List String} (hs : ':' ∉ s.toList)
    (hkept : (after fs c h).module? (FlatImport.path (root :: (segs ++ [s]))) = some m) :
    ∃ p, (after fs c h).module? (FlatImport.path (root :: segs)) = some p ∧
      m.dir = p.dir.join s := by
  rw [FlatImport.path_snoc] at hkept
  rcases kept_cases hc hh hkept with hcolon | ⟨p, n, hp, hn, hname, hown⟩
  · exact absurd (by simp) hcolon
  · obtain ⟨hpath, rfl⟩ := segment_inj hs hn.no_colon hname
    rw [hpath]
    exact ⟨p, hp, (ownChild_eq_some hown).2⟩

theorem kept_dir (hc : c.Named) (hh : Grounded fs c h) {root : String} {segs : List String}
    (hsegs : ∀ s ∈ segs, IsIdentifier s) (hne : segs ≠ [])
    (hkept : (after fs c h).module? (FlatImport.path (root :: segs)) = some m) :
    ∃ r, (after fs c h).module? root = some r ∧
      m.dir = r.dir.join ("/".intercalate segs) := by
  induction segs using List.reverseRecOn generalizing m with
  | nil => exact absurd rfl hne
  | append_singleton segs s ih =>
      have hs : IsIdentifier s := hsegs s (by simp)
      have hinit : ∀ t ∈ segs, IsIdentifier t := fun t ht => hsegs t (by simp [ht])
      obtain ⟨p, hp, hdir⟩ := kept_parent hc hh hs.no_colon hkept
      by_cases hnil : segs = []
      · subst hnil
        exact ⟨p, hp, hdir⟩
      · obtain ⟨r, hr, hpdir⟩ := ih hinit hnil hp
        refine ⟨r, hr, ?_⟩
        rw [hdir, hpdir,
          join_join _ (isStem_intercalate hnil hinit) (isStem_of_identifier hs),
          String.intercalate_append_of_ne_nil hnil (by simp), String.intercalate_singleton]

theorem kept_path (hc : c.Named) (hh : Grounded fs c h)
    (hkept : (after fs c h).module? k = some m) :
    ∃ root segs, ':' ∉ root.toList ∧ (∀ s ∈ segs, IsIdentifier s) ∧
      k = FlatImport.path (root :: segs) := by
  induction hlen : k.length using Nat.strongRecOn generalizing k m with
  | ind len ih =>
  -- A name with colons is that of a child, and its parent has a shorter one.
  rcases kept_cases hc hh hkept with hcolon | ⟨p, n, hp, hn, rfl, -⟩
  · exact ⟨k, [], hcolon, by simp, (String.intercalate_singleton).symm⟩
  · have hshorter : p.name.length < len := by
      rw [← hlen, Module.childName, String.length_append, String.length_append]
      have : "::".length = 2 := rfl
      omega
    obtain ⟨root, segs, hroot, hsegs, hname⟩ := ih _ hshorter hp rfl
    refine ⟨root, segs ++ [n], hroot, ?_, ?_⟩
    · intro s hs
      rcases List.mem_append.mp hs with hs | hs
      · exact hsegs s hs
      · rw [List.mem_singleton.mp hs]
        exact hn
    · rw [FlatImport.path_snoc, ← hname, Module.childName]

end Kept

/-- What a graph keeps if it is only asked about its own answers, and for
identifiers: each module under its name, beside its parent and with its directory,
for good; and its answers are those of the modules themselves. -/
theorem graph_keeps_tree {fs : FileSystem} {c : Crate} {h : List Request}
    (hc : c.Named) (hh : Grounded fs c h) :
    (∀ k m, (after fs c h).module? k = some m → m.name = k ∧
      ∃ root segs, ':' ∉ root.toList ∧ (∀ s ∈ segs, IsIdentifier s) ∧
        k = FlatImport.path (root :: segs)) ∧
    (∀ root segs s m, (∀ t ∈ segs ++ [s], IsIdentifier t) →
      (after fs c h).module? (FlatImport.path (root :: (segs ++ [s]))) = some m →
      (∃ p, (after fs c h).module? (FlatImport.path (root :: segs)) = some p) ∧
      ∃ r, (after fs c h).module? root = some r ∧
        m.dir = r.dir.join ("/".intercalate (segs ++ [s]))) ∧
    (∀ later k m, (after fs c h).module? k = some m →
      (after fs c (h ++ later)).module? k = some m) ∧
    (∀ p n, Returned fs c h p → IsIdentifier n →
      ((child fs p n).runOn (after fs c h)).1 = p.ownChild fs n) := by
  refine ⟨?_, ?_, ?_, ?_⟩
  · intro k m hkept
    exact ⟨kept_name hkept, kept_path hc hh hkept⟩
  · intro root segs s m hsegs hkept
    obtain ⟨p, hp, -⟩ := kept_parent hc hh (hsegs s (by simp)).no_colon hkept
    exact ⟨⟨p, hp⟩, kept_dir hc hh hsegs (by simp) hkept⟩
  · intro later k m hkept
    exact kept_append hkept later
  · intro p n hp hn
    exact child_answer hc hh hp hn

def nested : Crate := ⟨"demo", "/demo", some "/demo/lib.rs", [], .default⟩

def nestedFiles : FileSystem :=
  ⟨.directory [("demo", .directory
    [("lib.rs", .file (.text "mod net;")),
      ("net.rs", .file (.text "mod http {}"))])], []⟩

/-- The child of the root of the crate, asked for after the root. -/
def nestedNet? : Option Module :=
  ((Request.crateRoot "crate").reply? nestedFiles (after nestedFiles nested [])).bind
    fun p => (Request.child p "net").reply? nestedFiles
      (after nestedFiles nested [.crateRoot "crate"])

theorem graph_keeps_tree_nested :
    ∃ h p m, Grounded nestedFiles nested h ∧ Returned nestedFiles nested h m ∧
      (after nestedFiles nested h).module? "demo" = some p ∧
      (after nestedFiles nested h).module? "demo::net" = some m ∧
      m.dir = p.dir.join "net" ∧
      ((child nestedFiles m "http").runOn (after nestedFiles nested h)).1 =
        m.ownChild nestedFiles "http" := by
  have hnet : nestedNet?.map Module.name = some "demo::net" := by decide +kernel
  obtain ⟨m, hm, hname⟩ := Option.map_eq_some_iff.mp hnet
  obtain ⟨p, hp, hm⟩ := Option.bind_eq_some_iff.mp hm
  have hgrounded : Grounded nestedFiles nested [.crateRoot "crate", .child p "net"] :=
    .child (.crateRoot "crate" .nil) ⟨[], _, [], rfl, hp⟩ (by decide)
  have hreturned : Returned nestedFiles nested [.crateRoot "crate", .child p "net"] m :=
    ⟨[.crateRoot "crate"], _, [], rfl, hm⟩
  have hkept := hreturned.kept
  rw [hname] at hkept
  have hall := graph_keeps_tree (c := nested) ⟨by decide, by simp [nested]⟩ hgrounded
  obtain ⟨r, hr, hdir⟩ := (hall.2.1 "demo" [] "net" m (by decide) hkept).2
  exact ⟨_, r, m, hgrounded, hreturned, hr, hkept, hdir,
    hall.2.2.2 m "http" hreturned (by decide)⟩

end CrateGraph
end Overlay.Generate
