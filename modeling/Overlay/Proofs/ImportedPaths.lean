import Mathlib.Data.List.TakeWhile
import Overlay.Proofs.LocalPaths

/-!
# Imports and full paths

A path can be written out in an argument, or its beginning can be imported under
a name of its own. Imports and arguments are followed by functions of their own,
and each has its own way with local paths, sealed crates and names that are no
modules.

Both start in the same place, the local module or a crate (`Crate.start`), and go
on with the same names (`remaining`). So an import binds the module in which the
full path passes from the imported names to the others, and if there is none,
neither way finds a module (`alias_lookup`). `import_agrees_with_path` says this
of arguments: one that uses the import and one that is written out come to the
same declaration, or neither has one.

There is one exception. The name `self` at the end of an import stands for what
is before it, while in an argument it is a name like others
(`trailing_self_differs`).
-/

namespace Overlay.Generate

open Source (Node SourceFile UseTree)
open Files (FileSystem)

/-! ## The import of one path -/

namespace FlatImport

/-- The import of a path under another name. -/
def aliasTree (last bound : String) : List String → UseTree
  | [] => .rename last bound
  | s :: rest => .path s (aliasTree last bound rest)

/-- The names that such an import is about. -/
def aliased (init : List String) (last : String) : List String :=
  if last == "self" then init else init ++ [last]

theorem flattenBelow_aliasTree {bound : String} (hbound : bound ≠ "_") (last : String)
    (init base : List String) :
    flattenBelow base (aliasTree last bound init) =
      ([⟨aliased (base ++ init) last, bound⟩], []) := by
  induction init generalizing base with
  | nil =>
      rw [aliasTree, flattenBelow, if_neg (by simpa using hbound), List.append_nil, aliased]
  | cons s rest ih =>
      rw [aliasTree, flattenBelow, ih, List.append_assoc, List.singleton_append]

theorem flatten_aliasTree {bound : String} (hbound : bound ≠ "_") (last : String)
    (init : List String) :
    flatten (aliasTree last bound init) = ([⟨aliased init last, bound⟩], []) :=
  flattenBelow_aliasTree hbound last init []

theorem aliased_of_ne {last : String} (h : last ≠ "self") (init : List String) :
    aliased init last = init ++ [last] := by
  rw [aliased, if_neg (by simpa using h)]

theorem aliased_self (init : List String) : aliased init "self" = init := rfl

end FlatImport

/-- A name that an import can bind and a path can then start with. -/
structure IsAlias (name : String) : Prop where
  named : name ≠ "_"
  not_crate : name ≠ CrateGraph.selfName
  not_local : isLocalSegment name = false

/-! ## Where paths start -/

/-- What a path starts in: the local module or a crate. -/
def Crate.start (fs : FileSystem) (c : Crate) (here : Module) :
    List String → Except Failure (Option CrateRoot)
  | [] => .ok none
  | first :: _ =>
    if isLocalSegment first then .ok (some (.readable here)) else c.ownRoot fs first

/-- The names that are followed from there. -/
def remaining : List String → List String
  | [] => []
  | first :: rest =>
    if isLocalSegment first then (first :: rest).dropWhile isLocalSegment else rest

/-- The questions that are asked until there. -/
def Request.starting : List String → List Request
  | [] => []
  | first :: _ => if isLocalSegment first then [] else [.crateRoot first]

/-- What an import refers to. -/
def Crate.ownImport (fs : FileSystem) (c : Crate) (here : Module) (segs : List String) :
    Except Failure ImportTarget :=
  match c.start fs here segs with
  | .error f => .error f
  | .ok none => .error (.importNotFound (FlatImport.path segs))
  | .ok (some .sealed) => .ok .sealed
  | .ok (some (.readable m)) => m.ownTarget fs (FlatImport.path segs) (remaining segs)

/-- Where a path leads that uses no import. -/
def Crate.ownPath (fs : FileSystem) (c : Crate) (here : Module) (written : String)
    (segs : List String) : Except Failure Resolution.Lookup :=
  match c.start fs here segs with
  | .error f => .error f
  | .ok none => .ok (.skip (.unknownAlias (segs.headD "")))
  | .ok (some .sealed) => .ok (.skip (.declarationNotFound (segs.headD "")))
  | .ok (some (.readable m)) => m.ownLookup fs written (remaining segs)

/-- All questions that are asked for either. -/
def Crate.visits (fs : FileSystem) (c : Crate) (here : Module) (segs : List String) :
    List Request :=
  Request.starting segs ++
    match c.start fs here segs with
    | .ok (some (.readable m)) => m.descents fs (remaining segs)
    | _ => []

theorem Crate.start_append (fs : FileSystem) (c : Crate) (here : Module)
    {a : List String} (ha : a ≠ []) (b : List String) :
    c.start fs here (a ++ b) = c.start fs here a := by
  cases a with
  | nil => exact absurd rfl ha
  | cons first rest => rfl

theorem remaining_append {a : List String} (ha : a ≠ []) {b : List String}
    (hb : (∀ s ∈ a, isLocalSegment s = true) → ∀ s ∈ b, isLocalSegment s = false) :
    remaining (a ++ b) = remaining a ++ b := by
  cases a with
  | nil => exact absurd rfl ha
  | cons first rest =>
      rw [List.cons_append, remaining, remaining, ← List.cons_append]
      split
      · rw [List.dropWhile_append]
        split
        · next hempty =>
          -- The path so far is local as a whole.
          have hnil := List.isEmpty_iff.mp hempty
          rw [hnil, List.nil_append]
          have hb := hb (List.dropWhile_eq_nil_iff.mp hnil)
          cases b with
          | nil => rfl
          | cons s b =>
              exact List.dropWhile_cons_of_neg (by simpa using hb s (List.mem_cons_self ..))
        · rfl
      · rfl

theorem remaining_snoc {a : List String} (ha : a ≠ []) {s : String}
    (hs : ¬ ∀ t ∈ a ++ [s], isLocalSegment t = true) :
    remaining (a ++ [s]) = remaining a ++ [s] := by
  refine remaining_append ha ?_
  intro hlocal t ht
  rw [List.mem_singleton.mp ht]
  by_contra hlast
  refine hs ?_
  intro u hu
  rcases List.mem_append.mp hu with hu | hu
  · exact hlocal u hu
  · rw [List.mem_singleton.mp hu]
    simpa using hlast

theorem start_local (fs : FileSystem) (c : Crate) (here : Module) {segs : List String}
    (hsegs : segs ≠ []) (hlocal : ∀ s ∈ segs, isLocalSegment s = true) :
    c.start fs here segs = .ok (some (.readable here)) ∧ remaining segs = [] := by
  cases segs with
  | nil => exact absurd rfl hsegs
  | cons first rest =>
      have hfirst := hlocal first (List.mem_cons_self ..)
      rw [Crate.start, remaining, if_pos hfirst, if_pos hfirst]
      exact ⟨rfl, List.dropWhile_eq_nil_iff.mpr hlocal⟩

namespace CrateGraph

open Explore Request Module

section Starting

variable {fs : FileSystem} {c : Crate} {here m : Module} {segs path : List String}
  {written bound : String}

theorem undisturbed_crate {first : String}
    (hown : c.ownRoot fs first = .ok (some (.readable m))) :
    Undisturbed fs c [.crateRoot first] m path := by
  refine undisturbed_snoc (h := []) ?_ undisturbed_nil
  rw [ownRoot_eq_readable hown]
  exact Nat.le_refl _

theorem undisturbed_starting (hstart : c.start fs here segs = .ok (some (.readable m))) :
    Undisturbed fs c (starting segs) m path := by
  cases segs with
  | nil => cases hstart
  | cons first rest =>
      rw [Crate.start] at hstart
      rw [starting]
      split at hstart
      · next hlocal =>
        rw [if_pos hlocal]
        exact undisturbed_nil
      · next hlocal =>
        rw [if_neg hlocal]
        exact undisturbed_crate hstart

theorem leads_import (fs : FileSystem) (c : Crate) (here : Module) (bound : String)
    (segs : List String) :
    Leads (Import.resolve fs here ⟨segs, bound⟩) (new c) (c.ownImport fs here segs)
      (after fs c (c.visits fs here segs)) := by
  rw [Crate.ownImport, Crate.visits]
  cases segs with
  | nil => exact leads_throw _ _
  | cons first rest =>
      cases hlocal : isLocalSegment first with
      | true =>
          simp only [Crate.start, remaining, starting, hlocal, if_true]
          exact leads_resolve_local hlocal undisturbed_nil
      | false =>
          have hroot := leads_crateRoot_new fs c first
          rw [Import.resolve]
          simp only [Crate.start, remaining, starting, hlocal, Bool.false_eq_true, if_false]
          rcases hown : c.ownRoot fs first with f | (_ | (m | _))
          · rw [hown] at hroot
            exact hroot.bind_error
          · rw [hown] at hroot
            exact hroot.bind (leads_throw _ _)
          · rw [hown] at hroot
            exact hroot.bind (leads_targetIn (undisturbed_crate hown))
          · rw [hown] at hroot
            exact hroot.bind (leads_pure _ _)

theorem leads_crateLookup (fs : FileSystem) (c : Crate) (first : String) :
    Leads (Resolution.crateLookup fs first) (new c)
      ((c.ownRoot fs first).map fun
        | none => .skip (.unknownAlias first)
        | some .sealed => .skip (.declarationNotFound first)
        | some (.readable m) => .found m)
      (after fs c [.crateRoot first]) := by
  refine (leads_crateRoot_new fs c first).map ?_
  rintro (_ | _ | _) <;> rfl

theorem leads_path (hsegs : segs ≠ []) :
    Leads (Resolution.qualified fs here .empty written segs) (new c)
      (c.ownPath fs here written segs) (after fs c (c.visits fs here segs)) := by
  rw [Crate.ownPath, Crate.visits]
  cases segs with
  | nil => exact absurd rfl hsegs
  | cons first rest =>
      cases hlocal : isLocalSegment first with
      | true =>
          simp only [Crate.start, remaining, starting, hlocal, if_true]
          exact leads_qualified_local hlocal undisturbed_nil
      | false =>
          have hlookup := leads_crateLookup fs c first
          have halias : Resolution.aliasRoot fs .empty first =
              Resolution.crateLookup fs first := by
            rw [Resolution.aliasRoot]
            exact ite_self _
          rw [Resolution.qualified]
          simp only [Crate.start, remaining, starting, hlocal, Bool.false_eq_true, if_false]
          rw [halias]
          rcases hown : c.ownRoot fs first with f | (_ | (m | _))
          · rw [hown] at hlookup
            exact hlookup.bind_error
          · rw [hown] at hlookup
            exact hlookup.bind (leads_pure _ _)
          · rw [hown] at hlookup
            exact hlookup.bind (leads_below (undisturbed_crate hown))
          · rw [hown] at hlookup
            exact hlookup.bind (leads_pure _ _)

end Starting

/-! ## Names that are bound -/

section Bound

variable {fs : FileSystem} {c : Crate} {h : List Request} {here m q : Module}
  {table : ImportTable} {target : ImportTarget} {g g' : CrateGraph}
  {path rest : List String} {written bound s : String}

theorem ownDescend_snoc (hq : m.ownDescend fs (path ++ [s]) = .ok (some q)) :
    ∃ p, m.ownDescend fs path = .ok (some p) ∧ p.ownChild fs s = .ok (some q) := by
  rw [ownDescend_append] at hq
  match hp : m.ownDescend fs path with
  | .error f => rw [hp] at hq; cases hq
  | .ok none => rw [hp] at hq; cases hq
  | .ok (some p) =>
      rw [hp] at hq
      simp only [ownDescend] at hq
      match hs : p.ownChild fs s with
      | .error f => rw [hs] at hq; cases hq
      | .ok none => rw [hs] at hq; cases hq
      | .ok (some found) =>
          rw [hs] at hq
          exact ⟨p, rfl, by rw [hs]; exact hq⟩

/-- An import binds a module to which its names lead, or a name in such a module
that has no child of this name. -/
theorem ownTarget_eq_ok (htarget : m.ownTarget fs written path = .ok target) :
    (∃ q, target = .module q ∧ m.ownDescend fs path = .ok (some q)) ∨
    ∃ q init s, target = .item q s ∧ path = init ++ [s] ∧
      m.ownDescend fs init = .ok (some q) ∧ q.ownChild fs s = .ok none := by
  rw [ownTarget] at htarget
  rcases List.eq_nil_or_concat path with rfl | ⟨init, last, hpath⟩
  · cases htarget
    exact Or.inl ⟨m, rfl, rfl⟩
  · rw [List.concat_eq_append] at hpath
    subst hpath
    simp only [List.getLast?_concat, List.dropLast_concat] at htarget
    rcases hinit : m.ownDescend fs init with f | (_ | q)
    · rw [hinit] at htarget; cases htarget
    · rw [hinit] at htarget; cases htarget
    · rw [hinit] at htarget
      simp only at htarget
      rcases hlast : q.ownChild fs last with f | (_ | found)
      · rw [hlast] at htarget; cases htarget
      · rw [hlast] at htarget
        cases htarget
        exact Or.inr ⟨q, init, last, rfl, rfl, hinit, hlast⟩
      · rw [hlast] at htarget
        cases htarget
        refine Or.inl ⟨found, rfl, ?_⟩
        rw [ownDescend_append, hinit]
        simp only [ownDescend, hlast]

theorem leads_bound_module (halias : IsAlias bound)
    (hget : table.get? bound = some (.module q)) (hu : Undisturbed fs c h q rest) :
    Leads (Resolution.qualified fs here table written (bound :: rest)) (after fs c h)
      (q.ownLookup fs written rest) (after fs c (h ++ q.descents fs rest)) := by
  rw [Resolution.qualified]
  simp only [halias.not_local, Bool.false_eq_true, if_false]
  rw [Resolution.aliasRoot, if_neg (by simpa using halias.not_crate), hget]
  exact (leads_pure _ _).bind (leads_below hu)

theorem leads_bound_item (halias : IsAlias bound)
    (hget : table.get? bound = some (.item q s))
    (hchild : Leads (child fs q s) g (.ok none) g') :
    Leads (Resolution.qualified fs here table written (bound :: rest)) g
      (.ok (.skip (.declarationNotFound bound))) g' := by
  rw [Resolution.qualified]
  simp only [halias.not_local, Bool.false_eq_true, if_false]
  rw [Resolution.aliasRoot, if_neg (by simpa using halias.not_crate), hget]
  refine Leads.bind (a := .skip (.declarationNotFound bound)) ?_ (leads_pure _ _)
  exact hchild.bind (leads_pure _ _)

theorem leads_bound_sealed (halias : IsAlias bound)
    (hget : table.get? bound = some .sealed) :
    Leads (Resolution.qualified fs here table written (bound :: rest)) g
      (.ok (.skip (.declarationNotFound bound))) g := by
  rw [Resolution.qualified]
  simp only [halias.not_local, Bool.false_eq_true, if_false]
  rw [Resolution.aliasRoot, if_neg (by simpa using halias.not_crate), hget]
  exact (leads_pure _ _).bind (leads_pure _ _)

/-- A path stays undisturbed when its first step is taken. -/
theorem undisturbed_again (hu : Undisturbed fs c h q (s :: path)) :
    Undisturbed fs c (h ++ [.child q s]) q (s :: path) := by
  refine ⟨?_, fun p hp => undisturbed_child hu hp⟩
  intro x hx
  rw [List.findSome?_append, List.findSome?_singleton] at hx
  cases hkept : h.findSome? (foundAs? fs c (q.childName s)) with
  | some y =>
      rw [hkept, Option.some_or] at hx
      exact hu.1 x (hkept.trans hx)
  | none =>
      rw [hkept, Option.none_or, foundAs?, key, if_pos rfl] at hx
      exact ownChild_of_found hx

/-- What an import binds in a new graph. In the graph that it leaves, the paths below
a module that it binds are undisturbed, and so is a name that is no module. -/
theorem import_cases {segs : List String}
    (himport : Leads (Import.resolve fs here ⟨segs, bound⟩) (new c) (.ok target) g) :
    (target = .sealed ∧ c.start fs here segs = .ok (some .sealed)) ∨
    ∃ m h, c.start fs here segs = .ok (some (.readable m)) ∧ g = after fs c h ∧
      ((∃ q, target = .module q ∧ m.ownDescend fs (remaining segs) = .ok (some q) ∧
        ∀ path, Undisturbed fs c h q path) ∨
      ∃ q init s, target = .item q s ∧ remaining segs = init ++ [s] ∧
        m.ownDescend fs init = .ok (some q) ∧ q.ownChild fs s = .ok none ∧
        Undisturbed fs c h q [s]) := by
  obtain ⟨htarget, hg⟩ := himport.unique (leads_import fs c here bound segs)
  rw [Crate.ownImport] at htarget
  rw [Crate.visits] at hg
  match hstart : c.start fs here segs with
  | .error f => rw [hstart] at htarget; cases htarget
  | .ok none => rw [hstart] at htarget; cases htarget
  | .ok (some .sealed) =>
      rw [hstart] at htarget
      cases htarget
      exact Or.inl ⟨rfl, rfl⟩
  | .ok (some (.readable m)) =>
      rw [hstart] at htarget hg
      refine Or.inr ⟨m, _, rfl, hg, ?_⟩
      rcases ownTarget_eq_ok htarget.symm with
        ⟨q, rfl, hq⟩ | ⟨q, init, s, rfl, hinit, hq, hnone⟩
      · exact Or.inl ⟨q, rfl, hq, fun path =>
          undisturbed_descend (undisturbed_starting hstart) hq⟩
      · -- The question for the last name has been asked, and found nothing.
        refine Or.inr ⟨q, init, s, rfl, hinit, hq, hnone, ?_⟩
        have hlast : Undisturbed fs c (starting segs ++ m.descents fs init) q [s] :=
          undisturbed_descend (undisturbed_starting hstart) hq
        have hasked := undisturbed_again hlast
        simp only [hinit, descents_append, hq, descents, hnone]
        rwa [List.append_assoc] at hasked

end Bound

end CrateGraph

/-! ## Agreement -/

namespace Resolution

/-- The same module, none in either case, or one failure. -/
inductive SameLookup : Except Failure Lookup → Except Failure Lookup → Prop
  | found (m : Module) : SameLookup (.ok (.found m)) (.ok (.found m))
  | skipped (a b : SkipReason) : SameLookup (.ok (.skip a)) (.ok (.skip b))
  | failed (f : Failure) : SameLookup (.error f) (.error f)

/-- The same declaration, whatever the literals are, none in either case, or one
failure. -/
def SameOutcome : Except Failure (Except SkipReason Declaration) →
    Except Failure (Except SkipReason Declaration) → Prop
  | .ok (.ok d), .ok (.ok e) =>
    d.name = e.name ∧ d.module = e.module ∧ d.fields = e.fields ∧
      d.derivesDefault = e.derivesDefault ∧ d.declaredIn = e.declaredIn
  | .ok (.error _), .ok (.error _) => True
  | .error f, .error f' => f = f'
  | _, _ => False

/-- The declaration of an imported name, for a literal of this name alone. -/
def declareTarget (script : SourceFile) (literal : Node) (bound : String) :
    ImportTarget → Except SkipReason Declaration
  | .item m name => declare script literal (FlatImport.path [bound]) m name
  | .module _ => .error (.declarationNotFound bound)
  | .sealed => .error (.declarationNotFound bound)

section Agreement

variable {script script' : SourceFile} {literal literal' : Node} {written written' : String}

theorem sameOutcome_declare (m : Module) (name : String) :
    SameOutcome (.ok (declare script literal written m name))
      (.ok (declare script' literal' written' m name)) := by
  rw [declare, declare]
  cases m.declaration? name with
  | none => trivial
  | some d =>
      cases hshape : isStructShaped d.2 with
      | true =>
          simp only [hshape, if_true]
          exact ⟨rfl, rfl, rfl, rfl, rfl⟩
      | false =>
          simp only [hshape, Bool.false_eq_true, if_false]
          trivial

theorem SameLookup.declare {a b : Except Failure Lookup} (h : SameLookup a b)
    (name : String) :
    SameOutcome (a.map (Lookup.declare script literal written name))
      (b.map (Lookup.declare script' literal' written' name)) := by
  cases h with
  | found m => exact sameOutcome_declare m name
  | skipped a b => trivial
  | failed f => exact rfl

theorem sameLookup_ownLookup {fs : FileSystem} {m q : Module} {a b : List String}
    (hq : m.ownDescend fs a = .ok (some q)) :
    SameLookup (q.ownLookup fs written b) (m.ownLookup fs written' (a ++ b)) := by
  have hpassed : m.ownDescend fs (a ++ b) = q.ownDescend fs b := by
    rw [Module.ownDescend_append, hq]
  rw [Module.ownLookup, Module.ownLookup, hpassed]
  rcases q.ownDescend fs b with f | (_ | p)
  · exact .failed f
  · exact .skipped _ _
  · exact .found p

end Agreement

end Resolution

namespace CrateGraph

open Explore Request Module Resolution

section Aliases

variable {fs : FileSystem} {c : Crate} {here : Module} {table : ImportTable}
  {target : ImportTarget} {g g' : CrateGraph} {full segs rest : List String}
  {bound written written' : String}

/-- A path through an import and the same path written out. -/
theorem alias_lookup (hfull : full ≠ [])
    (hsame : c.start fs here full = c.start fs here segs)
    (hrest : remaining full = remaining segs ++ rest) (halias : IsAlias bound)
    (himport : Leads (Import.resolve fs here ⟨segs, bound⟩) (new c) (.ok target) g)
    (hget : table.get? bound = some target) (hg' : g' = g ∨ g' = new c) :
    ∃ x y g₁ g₂, Leads (qualified fs here table written (bound :: rest)) g' x g₁ ∧
      Leads (qualified fs here .empty written' full) (new c) y g₂ ∧ SameLookup x y := by
  have hpath : Leads (qualified fs here .empty written' full) (new c) _ _ :=
    leads_path hfull
  rw [Crate.ownPath, hsame, hrest] at hpath
  rcases import_cases himport with ⟨rfl, hstart⟩ | ⟨m, h, hstart, rfl, hcases⟩
  · rw [hstart] at hpath
    exact ⟨_, _, _, _, leads_bound_sealed halias hget, hpath, .skipped _ _⟩
  · rw [hstart] at hpath
    obtain ⟨h', rfl, hh'⟩ : ∃ h', g' = after fs c h' ∧ (h' = h ∨ h' = []) := by
      rcases hg' with hg' | hg'
      · exact ⟨h, hg', Or.inl rfl⟩
      · exact ⟨[], hg', Or.inr rfl⟩
    have hstill : ∀ {q path}, Undisturbed fs c h q path → Undisturbed fs c h' q path := by
      intro q path hu
      rcases hh' with rfl | rfl
      · exact hu
      · exact undisturbed_nil
    rcases hcases with ⟨q, rfl, hq, hu⟩ | ⟨q, init, s, rfl, hinit, hq, hnone, hu⟩
    · exact ⟨_, _, _, _, leads_bound_module halias hget (hstill (hu rest)), hpath,
        sameLookup_ownLookup hq⟩
    · have hmissing : m.ownDescend fs (remaining segs ++ rest) = .ok none := by
        rw [hinit, ownDescend_append, ownDescend_append, hq]
        simp only [ownDescend, hnone]
      have hagain := leads_child_own (hstill hu).1
      rw [hnone] at hagain
      simp only [ownLookup_missing hmissing] at hpath
      exact ⟨_, _, _, _, leads_bound_item halias hget hagain, hpath, .skipped _ _⟩

/-- The item that an import binds is the one that the path written out ends in, if
that has no module of the name beside it. -/
theorem alias_item {init : List String} {last : String} (hinit : init ≠ [])
    (hlast : isLocalSegment last = true → here.declaration? last = none)
    (himport : Leads (Import.resolve fs here ⟨init ++ [last], bound⟩) (new c)
      (.ok target) g)
    (howner : ∀ m, ((qualified fs here .empty written init).runOn (new c)).1 =
      .ok (.found m) → ∀ q, m.ownChild fs last ≠ .ok (some q))
    {script script' : SourceFile} {literal literal' : Node} :
    ∃ y g', Leads (qualified fs here .empty written init) (new c) y g' ∧
      SameOutcome (.ok (declareTarget script literal bound target))
        (y.map (Lookup.declare script' literal' written last)) := by
  have hsegs : init ++ [last] ≠ [] := by simp
  have hpath : Leads (qualified fs here .empty written init) (new c) _ _ :=
    leads_path hinit
  refine ⟨_, _, hpath, ?_⟩
  rw [hpath.answer, Crate.ownPath] at howner
  rw [Crate.ownPath]
  rcases import_cases himport with ⟨rfl, hstart⟩ | ⟨m, h, hstart, -, hcases⟩
  · rw [Crate.start_append fs c here hinit] at hstart
    rw [hstart]
    trivial
  · rw [Crate.start_append fs c here hinit] at hstart
    rw [hstart] at howner ⊢
    simp only at howner ⊢
    by_cases hall : ∀ s ∈ init ++ [last], isLocalSegment s = true
    · -- The path is local to its end and names nothing in the local module.
      obtain ⟨hhere, hnil⟩ := start_local fs c here hinit fun s hs =>
        hall s (List.mem_append_left [last] hs)
      rw [hstart] at hhere
      cases hhere
      rw [(start_local fs c here hsegs hall).2] at hcases
      rcases hcases with ⟨q, rfl, -⟩ | ⟨q, init', s, -, hempty, -⟩
      · rw [hnil, ownLookup_found rfl]
        simp only [Except.map, Lookup.declare, declare, hlast (hall last (by simp))]
        trivial
      · exact absurd hempty.symm (by simp)
    · rw [remaining_snoc hinit hall] at hcases
      rcases hcases with ⟨q, rfl, hq, -⟩ | ⟨q, init', s, rfl, hsame, hq, -, -⟩
      · obtain ⟨p, hp, hchild⟩ := ownDescend_snoc hq
        exact absurd hchild (howner p (ownLookup_found hp written) q)
      · obtain ⟨rfl, hs⟩ := List.append_inj' hsame rfl
        cases hs
        rw [ownLookup_found hq]
        exact sameOutcome_declare q last

end Aliases

/-! ## The table of one import -/

section Table

variable {fs : FileSystem} {c : Crate} {here : Module} {item : Node} {init : List String}
  {last bound : String} {g g' : CrateGraph} {r : Except Failure ImportTarget}

theorem leads_attempt {α : Type} {step : Explore α} {r : Except Failure α}
    (h : Leads step g r g') : Leads (Import.attempt step) g (.ok r) g' := by
  intro events
  obtain ⟨events', hrun⟩ := h events
  refine ⟨events', ?_⟩
  change ((.ok (step.run.run ⟨g, events⟩).1, (step.run.run ⟨g, events⟩).2) :
    Except Failure (Except Failure α) × Exploration) = _
  rw [hrun]

theorem get?_insert_self (t : ImportTable) (name : String) (target : ImportTarget) :
    (t.insert name target).get? name = some target := by
  simp [ImportTable.insert, ImportTable.get?]

theorem leads_build (hitem : item.role = .useDecl (FlatImport.aliasTree last bound init))
    (hbound : bound ≠ "_")
    (hresolve : Leads (Import.resolve fs here ⟨FlatImport.aliased init last, bound⟩)
      g r g') :
    Leads (ImportTable.build fs here [item]) g
      (r.map (ImportTable.empty.insert bound)) g' := by
  have htree : [item].filterMap Import.treeOf? =
      [FlatImport.aliasTree last bound init] := by
    simp [Import.treeOf?, hitem]
  rw [ImportTable.build, htree, Import.bindItems, FlatImport.flatten_aliasTree hbound]
  cases r with
  | ok target =>
      have hbind : Leads (Import.bindAll fs here .empty [⟨FlatImport.aliased init last, bound⟩]) g
          (.ok (ImportTable.empty.insert bound target, [])) g' := by
        rw [Import.bindAll]
        exact (leads_attempt hresolve).bind ((leads_report _ _).bind (leads_pure _ _))
      refine Leads.bind (a := (ImportTable.empty.insert bound target, [])) ?_
        (leads_pure _ _)
      exact (leads_reportAll _ _).bind (hbind.bind ((leads_pure _ _).bind (leads_pure _ _)))
  | error f =>
      have hbind : Leads (Import.bindAll fs here .empty [⟨FlatImport.aliased init last, bound⟩]) g
          (.ok (.empty, [f])) g' := by
        rw [Import.bindAll]
        exact (leads_attempt hresolve).bind ((leads_pure _ _).bind (leads_pure _ _))
      refine Leads.bind (a := (ImportTable.empty, [f])) ?_ (leads_throw _ _)
      exact (leads_reportAll _ _).bind (hbind.bind ((leads_pure _ _).bind (leads_pure _ _)))

/-- If the table can be built, the import has been resolved. -/
theorem import_of_build {table : ImportTable} {events : List Event}
    (hitem : item.role = .useDecl (FlatImport.aliasTree last bound init))
    (hbound : bound ≠ "_")
    (hbuild : (ImportTable.build fs here [item]).runOn (new c) = (.ok table, g, events)) :
    FlatImport.aliased init last ≠ [] ∧ ∃ target,
      Leads (Import.resolve fs here ⟨FlatImport.aliased init last, bound⟩) (new c)
        (.ok target) g ∧ table.get? bound = some target := by
  have hresolve := leads_import fs c here bound (FlatImport.aliased init last)
  obtain ⟨events', hrun⟩ := (leads_build hitem hbound hresolve).runOn
  rw [hbuild, Prod.mk.injEq, Prod.mk.injEq] at hrun
  obtain ⟨htable, hg, -⟩ := hrun
  cases hown : c.ownImport fs here (FlatImport.aliased init last) with
  | error f =>
      rw [hown] at htable
      cases htable
  | ok target =>
      rw [hown] at htable hresolve
      cases htable
      rw [hg]
      refine ⟨?_, target, hresolve, get?_insert_self _ bound target⟩
      intro hnil
      rw [hnil] at hown
      cases hown

theorem leads_resolve_bare {script : SourceFile} {table : ImportTable}
    {target : ImportTarget} {argument literal : Node}
    (hliteral : literal? argument = some (literal, [bound]))
    (hhere : here.declaration? bound = none) (hget : table.get? bound = some target) :
    Leads (Resolution.resolve fs script here table argument) g
      (.ok (declareTarget script literal bound target)) g := by
  have hlocated : Resolution.locate fs here table (FlatImport.path [bound]) [] bound =
      return Resolution.unqualified here table bound := rfl
  rw [Resolution.resolve, hliteral]
  simp only [List.getLast?_singleton, List.dropLast_singleton]
  rw [hlocated, Resolution.unqualified, hhere, hget]
  refine (leads_pure _ _).bind ?_
  cases target <;> exact leads_pure _ _

end Table

theorem alias_resolve {fs : FileSystem} {c : Crate} {here : Module} {table : ImportTable}
    {target : ImportTarget} {g g' : CrateGraph} {full segs rest : List String}
    {bound name : String} {script script' : SourceFile} {x y literal literal' : Node}
    (hfull : full ≠ []) (hsame : c.start fs here full = c.start fs here segs)
    (hrest : remaining full = remaining segs ++ rest) (halias : IsAlias bound)
    (himport : Leads (Import.resolve fs here ⟨segs, bound⟩) (new c) (.ok target) g)
    (hget : table.get? bound = some target) (hg' : g' = g ∨ g' = new c)
    (hx : literal? x = some (literal, bound :: rest ++ [name]))
    (hy : literal? y = some (literal', full ++ [name])) :
    SameOutcome ((Resolution.resolve fs script here table x).runOn g').1
      ((Resolution.resolve fs script' here .empty y).runOn (new c)).1 := by
  obtain ⟨a, b, g₁, g₂, ha, hb, hlookup⟩ :=
    alias_lookup hfull hsame hrest halias himport hget hg'
  rw [(leads_resolve hx (List.cons_ne_nil bound rest) ha).answer,
    (leads_resolve hy hfull hb).answer]
  exact hlookup.declare name

/-- An argument that uses an import and the one that is written out come to the
same, in the graph that the import left or in a new one. This holds for paths that
go on below what is imported, and if the import ends in `self`, for the path before
it. It holds for an imported type too, unless a module of its name stands beside
it. -/
theorem import_agrees_with_path (fs : FileSystem) (c : Crate) (here : Module) (item : Node)
    {init : List String} {last bound : String} {table : ImportTable} {g : CrateGraph}
    {events : List Event}
    (hitem : item.role = .useDecl (FlatImport.aliasTree last bound init))
    (halias : IsAlias bound)
    (hbuild : (ImportTable.build fs here [item]).runOn (new c) = (.ok table, g, events))
    {g' : CrateGraph} (hg' : g' = g ∨ g' = new c)
    {script script' : SourceFile} {x y literal literal' : Node} :
    (∀ rest name, (∀ s ∈ rest, isLocalSegment s = false) →
      (last = "self" → ∀ s ∈ init, isLocalSegment s = true) →
      literal? x = some (literal, bound :: rest ++ [name]) →
      literal? y = some (literal', init ++ [last] ++ rest ++ [name]) →
      SameOutcome ((Resolution.resolve fs script here table x).runOn g').1
        ((Resolution.resolve fs script' here .empty y).runOn (new c)).1) ∧
    (∀ rest name, (∀ s ∈ rest, isLocalSegment s = false) → last = "self" →
      literal? x = some (literal, bound :: rest ++ [name]) →
      literal? y = some (literal', init ++ rest ++ [name]) →
      SameOutcome ((Resolution.resolve fs script here table x).runOn g').1
        ((Resolution.resolve fs script' here .empty y).runOn (new c)).1) ∧
    (init ≠ [] → last ≠ "self" → (last = "super" → here.declaration? last = none) →
      here.declaration? bound = none →
      (∀ m, ((qualified fs here .empty (FlatImport.path (init ++ [last])) init).runOn
        (new c)).1 = .ok (.found m) → ∀ q, m.ownChild fs last ≠ .ok (some q)) →
      literal? x = some (literal, [bound]) →
      literal? y = some (literal', init ++ [last]) →
      SameOutcome ((Resolution.resolve fs script here table x).runOn g').1
        ((Resolution.resolve fs script' here .empty y).runOn (new c)).1) := by
  obtain ⟨hsegs, target, himport, hget⟩ := import_of_build hitem halias.named hbuild
  refine ⟨?_, ?_, ?_⟩
  · intro rest name hrest hinit hx hy
    have hfull : init ++ [last] ++ rest ≠ [] := by simp
    by_cases hlast : last = "self"
    · -- The imported path and the one with the last name are local as a whole.
      have hall : ∀ s ∈ init ++ [last], isLocalSegment s = true := by
        intro s hs
        rcases List.mem_append.mp hs with hs | hs
        · exact hinit hlast s hs
        · rw [List.mem_singleton.mp hs, hlast]
          rfl
      subst hlast
      rw [FlatImport.aliased_self] at hsegs himport
      have hne : init ++ ["self"] ≠ [] := by simp
      refine alias_resolve hfull ?_ ?_ halias himport hget hg' hx hy
      · rw [Crate.start_append fs c here hne, Crate.start_append fs c here hsegs]
      · rw [remaining_append hne fun _ => hrest, (start_local fs c here hne hall).2,
          (start_local fs c here hsegs (hinit rfl)).2]
    · rw [FlatImport.aliased_of_ne hlast] at hsegs himport
      refine alias_resolve hfull ?_ ?_ halias himport hget hg' hx hy
      · exact Crate.start_append fs c here hsegs rest
      · exact remaining_append hsegs fun _ => hrest
  · rintro rest name hrest rfl hx hy
    rw [FlatImport.aliased_self] at hsegs himport
    refine alias_resolve (by simp [hsegs]) ?_ ?_ halias himport hget hg' hx hy
    · exact Crate.start_append fs c here hsegs rest
    · exact remaining_append hsegs fun _ => hrest
  · intro hinit hlast hsuper hhere howner hx hy
    rw [FlatImport.aliased_of_ne hlast] at himport
    have hkeyword : isLocalSegment last = true → here.declaration? last = none := by
      intro hlocal
      rw [isLocalSegment, Bool.or_eq_true, beq_iff_eq, beq_iff_eq] at hlocal
      exact hsuper (hlocal.resolve_left hlast)
    obtain ⟨r, g', hpath, hsame⟩ := alias_item hinit hkeyword himport howner
    rw [(leads_resolve_bare hx hhere hget).answer, (leads_resolve hy hinit hpath).answer]
    exact hsame

/-- A local module with modules and types in it. -/
def sectioned : Module :=
  ⟨"demo::settings", "/demo/settings", [⟨⟨"config.rs", "", ⟨[], []⟩⟩,
    [.mk (.structDecl "Conf" false .named) [] [],
      .mk (.modDecl "db" true) []
        [.mk (.structDecl "Pool" false .named) [] [],
          .mk (.modDecl "inner" true) [] [.mk (.structDecl "Db" false .named) [] []]]]⟩]⟩

def sectionedScript : SourceFile := ⟨"config.rs", "", ⟨[], []⟩⟩

def importOf (init : List String) (last bound : String) : Node :=
  .mk (.useDecl (FlatImport.aliasTree last bound init)) [] []

def literalOf (segs : List String) : Node := .mk (.record segs) [] []

/-- What a literal comes to in this module, with the table of an import and in the
graph that is left after it. -/
def sectionedOutcome (imports : List Node) (segs : List String) :
    Except Failure (Except SkipReason Declaration) :=
  match (ImportTable.build solitaryFiles sectioned imports).runOn (new solitary) with
  | (.ok table, g, _) =>
    ((Resolution.resolve solitaryFiles sectionedScript sectioned table
      (literalOf segs)).runOn g).1
  | (.error f, _, _) => .error f

theorem import_agrees_with_path_sectioned :
    (∃ d, sectionedOutcome [importOf ["super"] "db" "a"] ["a", "inner", "Db"] =
      .ok (.ok d)) ∧
    SameOutcome (sectionedOutcome [importOf ["super"] "db" "a"] ["a", "inner", "Db"])
      (sectionedOutcome [] ["super", "db", "inner", "Db"]) ∧
    SameOutcome (sectionedOutcome [importOf ["self", "db"] "self" "a"] ["a", "Pool"])
      (sectionedOutcome [] ["self", "db", "Pool"]) ∧
    (∃ d, sectionedOutcome [importOf ["self", "db"] "Pool" "A"] ["A"] = .ok (.ok d)) ∧
    SameOutcome (sectionedOutcome [importOf ["self", "db"] "Pool" "A"] ["A"])
      (sectionedOutcome [] ["self", "db", "Pool"]) := by
  refine ⟨⟨_, rfl⟩, ?_, ?_, ⟨_, rfl⟩, ?_⟩
  · exact (import_agrees_with_path solitaryFiles solitary sectioned
      (importOf ["super"] "db" "a") rfl ⟨by decide, by decide, rfl⟩ rfl (Or.inl rfl)).1
      ["inner"] "Db" (by decide) (by decide) rfl rfl
  · exact (import_agrees_with_path solitaryFiles solitary sectioned
      (importOf ["self", "db"] "self" "a") rfl ⟨by decide, by decide, rfl⟩ rfl (Or.inl rfl)).2.1
      [] "Pool" (by decide) rfl rfl rfl
  · refine (import_agrees_with_path solitaryFiles solitary sectioned
      (importOf ["self", "db"] "Pool" "A") rfl ⟨by decide, by decide, rfl⟩ rfl (Or.inl rfl)).2.2
      (by decide) (by decide) (by decide) rfl ?_ rfl rfl
    intro m hm q hq
    cases hm
    cases hq

/-- An import that ends in `self`, of a module and of a type. What it binds leads to
a declaration, and the same path written out does not. -/
theorem trailing_self_differs :
    (∃ d reason,
      sectionedOutcome [importOf ["self", "db"] "self" "a"] ["a", "Pool"] = .ok (.ok d) ∧
      sectionedOutcome [] ["self", "db", "self", "Pool"] = .ok (.error reason)) ∧
    ∃ d reason,
      sectionedOutcome [importOf ["self", "Conf"] "self" "A"] ["A"] = .ok (.ok d) ∧
      sectionedOutcome [] ["self", "Conf", "self"] = .ok (.error reason) :=
  ⟨⟨_, _, rfl, rfl⟩, ⟨_, _, rfl, rfl⟩⟩

end CrateGraph

end Overlay.Generate
