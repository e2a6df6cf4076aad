import Overlay.Generate.Generation
import Overlay.Proofs.ModuleTree

/-!
# Paths through the local module

A path that starts in the module of the script goes from module to child. Each
step may be answered by what the graph keeps, and the graph keeps modules by
their names alone. The module of the script has the name of a directory, which
can be the name of a module of the crate too: what was read as the child of one
is then found as the child of the other.

The other way round, a path is safe as long as nothing is kept under the name of
a module on it but that module itself. `Undisturbed` says so for one path, and
`leads_descend` that such a path leads where the declarations on it lead
(`Module.ownDescend`). A path on which nothing is kept stays so while it is
followed, since the names on it get longer.

`localPath_by_history` puts the two sides together: what the local module's
children are after any questions, and that paths in it do not depend on the
questions if none of them was about another module of the same name.
-/

namespace Overlay.Generate

open Files (FileSystem)

/-! ## Where declarations lead -/

namespace Module

/-- Follows names through the child modules that are declared. -/
def ownDescend (fs : FileSystem) : Module → List String → Except Failure (Option Module)
  | m, [] => .ok (some m)
  | m, s :: rest =>
    match m.ownChild fs s with
    | .ok (some q) => ownDescend fs q rest
    | .ok none => .ok none
    | .error f => .error f

/-- The questions that are asked on the way. -/
def descents (fs : FileSystem) : Module → List String → List Request
  | _, [] => []
  | m, s :: rest =>
    .child m s ::
      match m.ownChild fs s with
      | .ok (some q) => descents fs q rest
      | .ok none => []
      | .error _ => []

/-- What an import of some names in a module refers to. -/
def ownTarget (fs : FileSystem) (written : String) (m : Module) (path : List String) :
    Except Failure ImportTarget :=
  match path.getLast? with
  | none => .ok (.module m)
  | some last =>
    match m.ownDescend fs path.dropLast with
    | .error f => .error f
    | .ok none => .error (.importNotFound written)
    | .ok (some q) =>
      match q.ownChild fs last with
      | .error f => .error f
      | .ok (some found) => .ok (.module found)
      | .ok none => .ok (.item q last)

/-- Where an argument with some names in a module leads. -/
def ownLookup (fs : FileSystem) (written : String) (m : Module) (path : List String) :
    Except Failure Resolution.Lookup :=
  (m.ownDescend fs path).map fun
    | some q => .found q
    | none => .skip (.declarationNotFound written)

variable (fs : FileSystem) (m : Module) (a b : List String)

theorem ownDescend_append :
    m.ownDescend fs (a ++ b) =
      match m.ownDescend fs a with
      | .ok (some q) => q.ownDescend fs b
      | .ok none => .ok none
      | .error f => .error f := by
  induction a generalizing m with
  | nil => rfl
  | cons s rest ih =>
      rw [List.cons_append, ownDescend, ownDescend]
      match m.ownChild fs s with
      | .ok (some q) => exact ih q
      | .ok none => rfl
      | .error f => rfl

theorem descents_append :
    m.descents fs (a ++ b) = m.descents fs a ++
      match m.ownDescend fs a with
      | .ok (some q) => q.descents fs b
      | .ok none => []
      | .error _ => [] := by
  induction a generalizing m with
  | nil => rfl
  | cons s rest ih =>
      rw [List.cons_append, descents, descents, ownDescend]
      match m.ownChild fs s with
      | .ok (some q) => exact congrArg (Request.child m s :: ·) (ih q)
      | .ok none => rfl
      | .error f => rfl

theorem ownLookup_found {fs : FileSystem} {m q : Module} {path : List String}
    (h : m.ownDescend fs path = .ok (some q)) (written : String) :
    m.ownLookup fs written path = .ok (.found q) := by
  rw [ownLookup, h]
  rfl

theorem ownLookup_missing {fs : FileSystem} {m : Module} {path : List String}
    (h : m.ownDescend fs path = .ok none) (written : String) :
    m.ownLookup fs written path = .ok (.skip (.declarationNotFound written)) := by
  rw [ownLookup, h]
  rfl

theorem length_lt_childName (s : String) : m.name.length < (m.childName s).length := by
  have hcolons : "::".length = 2 := rfl
  rw [childName, String.length_append, String.length_append]
  omega

end Module

namespace CrateGraph

open Explore Request Module

/-! ## Paths on which no other module is kept -/

/-- What is kept for a module on the way is the one that its parent declares. -/
def Undisturbed (fs : FileSystem) (c : Crate) (h : List Request) :
    Module → List String → Prop
  | _, [] => True
  | m, s :: rest =>
    (∀ x, h.findSome? (foundAs? fs c (m.childName s)) = some x →
      m.ownChild fs s = .ok (some x)) ∧
    ∀ q, m.ownChild fs s = .ok (some q) → Undisturbed fs c h q rest

section Descent

variable {fs : FileSystem} {c : Crate} {h : List Request} {m q : Module}
  {s written : String} {path : List String}

theorem leads_child_own
    (hown : ∀ x, h.findSome? (foundAs? fs c (m.childName s)) = some x →
      m.ownChild fs s = .ok (some x)) :
    Leads (child fs m s) (after fs c h) (m.ownChild fs s)
      (after fs c (h ++ [.child m s])) := by
  have hleads := leads_child_after fs c h m s
  cases hkept : h.findSome? (foundAs? fs c (m.childName s)) with
  | none => rwa [hkept] at hleads
  | some x =>
      rw [hkept] at hleads
      rw [hown x hkept]
      exact hleads

/-- A question for a name that is not longer stays off the path. -/
theorem undisturbed_snoc {r : Request} (hr : (r.key c).length ≤ m.name.length)
    (hu : Undisturbed fs c h m path) : Undisturbed fs c (h ++ [r]) m path := by
  induction path generalizing m with
  | nil => trivial
  | cons s rest ih =>
      -- Names grow along the path, so the bound passes on to the next module.
      have hlonger := m.length_lt_childName s
      obtain ⟨hkept, hrest⟩ := hu
      refine ⟨?_, ?_⟩
      · intro x hx
        have hkey : r.key c ≠ m.childName s := by
          intro heq
          rw [heq] at hr
          omega
        rw [List.findSome?_append, List.findSome?_singleton, foundAs?, if_neg hkey,
          Option.or_none] at hx
        exact hkept x hx
      · intro q hq
        refine ih ?_ (hrest q hq)
        rw [(ownChild_eq_some hq).1]
        omega

theorem undisturbed_nil : Undisturbed fs c [] m path := by
  induction path generalizing m with
  | nil => trivial
  | cons s rest ih =>
      refine ⟨?_, fun q _ => ih⟩
      intro x hx
      cases hx

/-- The first step of an undisturbed path leaves the rest undisturbed. -/
theorem undisturbed_child (hu : Undisturbed fs c h m (s :: path))
    (hq : m.ownChild fs s = .ok (some q)) :
    Undisturbed fs c (h ++ [.child m s]) q path := by
  refine undisturbed_snoc ?_ (hu.2 q hq)
  rw [(ownChild_eq_some hq).1]
  exact Nat.le_refl _

theorem undisturbed_descend {a b : List String} (hu : Undisturbed fs c h m (a ++ b))
    (hq : m.ownDescend fs a = .ok (some q)) :
    Undisturbed fs c (h ++ m.descents fs a) q b := by
  induction a generalizing m h with
  | nil =>
      cases hq
      rw [descents, List.append_nil]
      exact hu
  | cons s rest ih =>
      rw [ownDescend] at hq
      rw [descents]
      match hs : m.ownChild fs s with
      | .error f => rw [hs] at hq; cases hq
      | .ok none => rw [hs] at hq; cases hq
      | .ok (some p) =>
          rw [hs] at hq
          have hnext := ih (undisturbed_child hu hs) hq
          rwa [List.append_assoc, List.singleton_append] at hnext

theorem undisturbed_left {a b : List String} (hu : Undisturbed fs c h m (a ++ b)) :
    Undisturbed fs c h m a := by
  induction a generalizing m with
  | nil => trivial
  | cons s rest ih => exact ⟨hu.1, fun q hq => ih (hu.2 q hq)⟩

theorem leads_descend (hu : Undisturbed fs c h m path) :
    Leads (Import.descend fs m path) (after fs c h) (m.ownDescend fs path)
      (after fs c (h ++ m.descents fs path)) := by
  induction path generalizing m h with
  | nil =>
      rw [descents, List.append_nil]
      exact leads_pure _ _
  | cons s rest ih =>
      have hchild := leads_child_own hu.1
      rw [Import.descend, ownDescend, descents]
      match hs : m.ownChild fs s with
      | .error f =>
          rw [hs] at hchild
          exact hchild.bind_error
      | .ok none =>
          rw [hs] at hchild
          exact hchild.bind (leads_pure _ _)
      | .ok (some q) =>
          rw [hs] at hchild
          have hnext := ih (undisturbed_child hu hs)
          rw [List.append_assoc, List.singleton_append] at hnext
          exact hchild.bind hnext

theorem leads_targetIn (hu : Undisturbed fs c h m path) :
    Leads (Import.targetIn fs written m path) (after fs c h)
      (m.ownTarget fs written path) (after fs c (h ++ m.descents fs path)) := by
  rw [Import.targetIn, ownTarget]
  rcases List.eq_nil_or_concat path with rfl | ⟨init, last, hpath⟩
  · rw [descents, List.append_nil]
    exact leads_pure _ _
  · rw [List.concat_eq_append] at hpath
    subst hpath
    have hinit := leads_descend (undisturbed_left hu)
    simp only [List.getLast?_concat, List.dropLast_concat]
    rw [descents_append, ← List.append_assoc]
    match hq : m.ownDescend fs init with
    | .error f =>
        rw [hq] at hinit
        rw [List.append_nil]
        exact hinit.bind_error
    | .ok none =>
        rw [hq] at hinit
        rw [List.append_nil]
        exact hinit.bind (leads_throw _ _)
    | .ok (some q) =>
        rw [hq] at hinit
        refine hinit.bind ?_
        have hlast := leads_child_own (undisturbed_descend hu hq).1
        simp only [descents]
        match hfound : q.ownChild fs last with
        | .error f =>
            rw [hfound] at hlast
            exact hlast.bind_error
        | .ok none =>
            rw [hfound] at hlast
            exact hlast.bind (leads_pure _ _)
        | .ok (some found) =>
            rw [hfound] at hlast
            exact hlast.bind (leads_pure _ _)

theorem leads_below (hu : Undisturbed fs c h m path) :
    Leads (Resolution.below fs written m path) (after fs c h)
      (m.ownLookup fs written path) (after fs c (h ++ m.descents fs path)) := by
  refine (leads_descend hu).map ?_
  intro found
  cases found <;> rfl

/-- A path that starts in the local module, as an import. -/
theorem leads_resolve_local {here : Module} {first bound : String} {more : List String}
    (hfirst : isLocalSegment first = true)
    (hu : Undisturbed fs c h here ((first :: more).dropWhile isLocalSegment)) :
    Leads (Import.resolve fs here ⟨first :: more, bound⟩) (after fs c h)
      (here.ownTarget fs (FlatImport.path (first :: more))
        ((first :: more).dropWhile isLocalSegment))
      (after fs c (h ++
        here.descents fs ((first :: more).dropWhile isLocalSegment))) := by
  rw [Import.resolve]
  simp only [hfirst, if_true]
  exact leads_targetIn hu

/-- A path that starts in the local module, in an argument. -/
theorem leads_qualified_local {here : Module} {imports : ImportTable} {first : String}
    {more : List String} (hfirst : isLocalSegment first = true)
    (hu : Undisturbed fs c h here ((first :: more).dropWhile isLocalSegment)) :
    Leads (Resolution.qualified fs here imports written (first :: more)) (after fs c h)
      (here.ownLookup fs written ((first :: more).dropWhile isLocalSegment))
      (after fs c (h ++
        here.descents fs ((first :: more).dropWhile isLocalSegment))) := by
  rw [Resolution.qualified]
  simp only [hfirst, if_true]
  exact leads_below hu

end Descent

end CrateGraph

/-! ## Arguments -/

namespace Resolution

open Source (Node SourceFile)

/-- The declaration of a name where a lookup led, for a literal. -/
def Lookup.declare (script : SourceFile) (literal : Node) (written name : String) :
    Lookup → Except SkipReason Declaration
  | .found m => Resolution.declare script literal written m name
  | .skip reason => .error reason

theorem leads_resolve {fs : FileSystem} {script : SourceFile} {here : Module}
    {imports : ImportTable} {argument literal : Node} {qualifier : List String}
    {name : String} {g g' : CrateGraph} {r : Except Failure Lookup}
    (hliteral : literal? argument = some (literal, qualifier ++ [name]))
    (hne : qualifier ≠ [])
    (hr : Explore.Leads (qualified fs here imports
      (FlatImport.path (qualifier ++ [name])) qualifier) g r g') :
    Explore.Leads (resolve fs script here imports argument) g
      (r.map (Lookup.declare script literal (FlatImport.path (qualifier ++ [name])) name))
      g' := by
  have hqualified : qualifier.isEmpty = false := by simpa using hne
  rw [resolve, hliteral]
  simp only [List.getLast?_concat, List.dropLast_concat]
  rw [locate, hqualified]
  simp only [Bool.false_eq_true, if_false]
  match r with
  | .error f => exact hr.bind_error.bind_error
  | .ok (.skip reason) =>
      refine Explore.Leads.bind (a := Except.error reason)
        (hr.bind (Explore.leads_pure _ _)) ?_
      exact Explore.leads_pure _ _
  | .ok (.found m) =>
      refine Explore.Leads.bind (a := Except.ok (m, name))
        (hr.bind (Explore.leads_pure _ _)) ?_
      exact Explore.leads_pure _ _

end Resolution

/-! ## Modules with a name of their own -/

namespace CrateGraph

open Explore Request Module

/-- The module itself, and what is declared in it at any depth. -/
inductive Within (fs : FileSystem) (here : Module) : Module → Prop
  | self : Within fs here here
  | child {p q : Module} {n : String} : Within fs here p → ':' ∉ n.toList →
      p.ownChild fs n = .ok (some q) → Within fs here q

/-- The questions are for names without colons, and none is about another module
with the name of the given one or of a module in it. -/
def Unrivalled (fs : FileSystem) (here : Module) (h : List Request) : Prop :=
  ∀ p n, .child p n ∈ h → ':' ∉ n.toList ∧
    ∀ q, Within fs here q → p.name = q.name → p = q

section Local

variable {fs : FileSystem} {c : Crate} {h : List Request} {here m q : Module}
  {n : String} {path : List String}

theorem Within.length_le (hq : Within fs here q) : here.name.length ≤ q.name.length := by
  induction hq with
  | self => exact Nat.le_refl _
  | child hp hn hown ih =>
      rw [(ownChild_eq_some hown).1]
      exact Nat.le_trans ih (Nat.le_of_lt (length_lt_childName _ _))

theorem kept_own
    (hh : ∀ r ∈ h, r.key c = m.childName n → (r.found? fs c).isSome → r = .child m n)
    (hkept : h.findSome? (foundAs? fs c (m.childName n)) = some q) :
    m.ownChild fs n = .ok (some q) := by
  rw [← module?_after] at hkept
  obtain ⟨r, hr, hkey, hfound⟩ := exists_found hkept
  rw [hh r hr hkey (Option.isSome_of_eq_some hfound)] at hfound
  exact ownChild_of_found hfound

/-- What finds a child of a module without rivals is the question for it. -/
theorem Unrivalled.request (hu : Unrivalled fs here h) (hc : c.Named)
    (hm : Within fs here m) (hn : ':' ∉ n.toList) {r : Request} (hr : r ∈ h)
    (hkey : r.key c = m.childName n) (hfound : (r.found? fs c).isSome) :
    r = .child m n := by
  cases r with
  | crateRoot k =>
      obtain ⟨x, hx⟩ := Option.isSome_iff_exists.mp hfound
      have hcolon := no_colon_of_found hc hx
      rw [key] at hkey
      rw [hkey] at hcolon
      exact absurd (m.mem_childName n) hcolon
  | child p k =>
      -- One text for two children means one name for their parents.
      obtain ⟨hk, hsame⟩ := hu p k hr
      obtain ⟨hname, rfl⟩ := segment_inj hk hn hkey
      rw [hsame m hm hname]

theorem Unrivalled.undisturbed (hu : Unrivalled fs here h) (hc : c.Named)
    (hm : Within fs here m) (hpath : ∀ s ∈ path, ':' ∉ s.toList) :
    Undisturbed fs c h m path := by
  induction path generalizing m with
  | nil => trivial
  | cons s rest ih =>
      have hs := hpath s (List.mem_cons_self ..)
      refine ⟨fun x hx => kept_own (fun r => hu.request hc hm hs) hx, ?_⟩
      intro q hq
      exact ih (hm.child hs hq) fun t ht => hpath t (List.mem_cons_of_mem s ht)

theorem Unrivalled.undisturbed_local (hu : Unrivalled fs here h) (hc : c.Named)
    {first : String} {more : List String} (hfirst : isLocalSegment first = true)
    (hmore : ∀ s ∈ more, ':' ∉ s.toList) :
    Undisturbed fs c h here ((first :: more).dropWhile isLocalSegment) := by
  refine hu.undisturbed hc .self ?_
  intro s hs
  rw [List.dropWhile_cons_of_pos hfirst] at hs
  exact hmore s ((List.dropWhile_sublist _).subset hs)

end Local

/-- Where paths in the local module lead after any questions. A child is what the
first question found that found something for its name, and only then what the
module itself declares. The two agree unless a question was about the child of
something else; and as long as no question was about another module that has the
name of a module in this one, an import or an argument that starts with `self` or
`super` comes to what it comes to in a new graph. -/
theorem localPath_by_history (fs : FileSystem) (c : Crate) (here : Module)
    (h : List Request) :
    (∀ n, ((child fs here n).runOn (after fs c h)).1 =
      match h.findSome? (foundAs? fs c (here.childName n)) with
      | some m => .ok (some m)
      | none => here.ownChild fs n) ∧
    (∀ n, (∀ r ∈ h, r.key c = here.childName n → r = .child here n) →
      ((child fs here n).runOn (after fs c h)).1 = here.ownChild fs n) ∧
    (c.Named → Unrivalled fs here h →
      (∀ first more bound, isLocalSegment first = true →
        (∀ s ∈ more, ':' ∉ s.toList) →
        ((Import.resolve fs here ⟨first :: more, bound⟩).runOn (after fs c h)).1 =
          ((Import.resolve fs here ⟨first :: more, bound⟩).runOn (new c)).1) ∧
      (∀ script imports argument literal first more name,
        Resolution.literal? argument = some (literal, first :: more ++ [name]) →
        isLocalSegment first = true → (∀ s ∈ more, ':' ∉ s.toList) →
        ((Resolution.resolve fs script here imports argument).runOn (after fs c h)).1 =
          ((Resolution.resolve fs script here imports argument).runOn (new c)).1)) := by
  refine ⟨?_, ?_, ?_⟩
  · intro n
    exact (leads_child_after fs c h here n).answer
  · intro n hown
    refine (leads_child_own fun x hx => kept_own ?_ hx).answer
    intro r hr hkey _
    exact hown r hr hkey
  · intro hc hu
    refine ⟨?_, ?_⟩
    · intro first more bound hfirst hmore
      rw [(leads_resolve_local hfirst (hu.undisturbed_local hc hfirst hmore)).answer]
      exact (leads_resolve_local hfirst undisturbed_nil).answer.symm
    · intro script imports argument literal first more name hliteral hfirst hmore
      have hpath := hu.undisturbed_local hc hfirst hmore
      have hne : first :: more ≠ [] := List.cons_ne_nil first more
      rw [(Resolution.leads_resolve hliteral hne
        (leads_qualified_local hfirst hpath)).answer]
      exact (Resolution.leads_resolve hliteral hne
        (leads_qualified_local hfirst undisturbed_nil)).answer.symm

/-- A script in the directory of a module that the crate declares too. -/
def crossingFiles : FileSystem :=
  ⟨.directory [("demo", .directory
    [("lib.rs", .file (.text "mod net;")),
      ("net.rs", .file (.text "mod http {}")),
      ("net", .directory [("config.rs", .file (.text "mod ftp {}"))])])], []⟩

/-- The module of the script. -/
def crossingHere? : Option Module :=
  (LocalModule.load crossingFiles "/demo/net/config.rs"
    (Generation.moduleName nested "/demo/net")).toOption

def crossingRoot? : Option Module :=
  (Request.crateRoot "crate").reply? crossingFiles (after crossingFiles nested [])

/-- The module of the crate. -/
def crossingNet? : Option Module :=
  crossingRoot?.bind fun root => (Request.child root "net").reply? crossingFiles
    (after crossingFiles nested [.crateRoot "crate"])

/-- The script declares no module `http`. Once the module of the crate has been
asked for its own, the script has one too; before that its paths are its own. -/
theorem localPath_by_history_crossing :
    ∃ root net here m, crossingRoot? = some root ∧ crossingNet? = some net ∧
      crossingHere? = some here ∧
      here.ownChild crossingFiles "http" = .ok none ∧
      ((child crossingFiles here "http").runOn (after crossingFiles nested
        [.crateRoot "crate", .child root "net", .child net "http"])).1 = .ok (some m) ∧
      Unrivalled crossingFiles here [.crateRoot "crate", .child root "net"] ∧
      ((Import.resolve crossingFiles here ⟨["self", "ftp"], "ftp"⟩).runOn
        (after crossingFiles nested [.crateRoot "crate", .child root "net"])).1 =
      ((Import.resolve crossingFiles here ⟨["self", "ftp"], "ftp"⟩).runOn
        (new nested)).1 := by
  have hroot : crossingRoot?.map Module.name = some "demo" := by decide +kernel
  have hnet : crossingNet?.map
      (fun m => (m.name, (m.childDeclaration? "http").map (·.2.2))) =
        some ("demo::net", some true) := by decide +kernel
  have hhere : crossingHere?.map
      (fun m => (m.name, (m.childDeclaration? "http").isNone)) =
        some ("demo::net", true) := by decide +kernel
  obtain ⟨root, hroot, hrootName⟩ := Option.map_eq_some_iff.mp hroot
  obtain ⟨net, hnet, hnetIs⟩ := Option.map_eq_some_iff.mp hnet
  obtain ⟨here, hhere, hhereIs⟩ := Option.map_eq_some_iff.mp hhere
  rw [Prod.mk.injEq] at hnetIs hhereIs
  obtain ⟨⟨source, item, isInline⟩, hdecl, rfl⟩ := Option.map_eq_some_iff.mp hnetIs.2
  have hnone := Option.isNone_iff_eq_none.mp hhereIs.2
  obtain ⟨m, hown⟩ : ∃ m, net.ownChild crossingFiles "http" = .ok (some m) := by
    rw [Module.ownChild, hdecl]
    exact ⟨_, rfl⟩
  have hkeys : net.childName "http" = here.childName "http" ∧
      root.childName "net" ≠ here.childName "http" ∧
      nested.rootKey "crate" ≠ here.childName "http" := by
    simp only [Module.childName, hrootName, hnetIs.1, hhereIs.1]
    decide
  have hunrivalled : Unrivalled crossingFiles here
      [.crateRoot "crate", .child root "net"] := by
    intro p n hmem
    simp only [List.mem_cons, List.not_mem_nil, or_false, reduceCtorEq, false_or,
      Request.child.injEq] at hmem
    obtain ⟨rfl, rfl⟩ := hmem
    refine ⟨by decide, ?_⟩
    intro q hq hname
    have hlonger := hq.length_le
    rw [← hname, hrootName, hhereIs.1] at hlonger
    exact absurd hlonger (by decide)
  refine ⟨root, net, here, m, hroot, hnet, hhere, ?_, ?_, hunrivalled, ?_⟩
  · rw [Module.ownChild, hnone]
  · rw [(localPath_by_history crossingFiles nested here _).1 "http"]
    simp only [List.findSome?_cons, foundAs?, key, hkeys, if_false, if_true, found?, hown]
  · exact ((localPath_by_history crossingFiles nested here _).2.2
      ⟨by decide, by simp [nested]⟩ hunrivalled).1 "self" ["ftp"] "ftp" (by decide)
      (by decide)

end CrateGraph

end Overlay.Generate
