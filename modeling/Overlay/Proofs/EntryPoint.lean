import Overlay.Generate.Script

/-!
# Which function is the entry point

The entry point is looked for on a walk through the whole script, in which a node
comes before what is inside of it and after everything that stands before it. A function
called `main` at the top level therefore need not be the one that is found: one inside of
an earlier module, of the body of an earlier function, or of the value of an attribute
comes first. What is inside of the function at the top level or behind it never matters.

`entry_point` says both. From the function that is found everything else follows in the
same way, and `Uses` states it: an empty body is refused, and otherwise the last
statement that is an aggregation call gives the arguments.
-/

namespace Overlay.Generate.Script

open Source

/-! ## The walk -/

theorem walkAll_append (ns ms : List Node) :
    Node.walkAll (ns ++ ms) = Node.walkAll ns ++ Node.walkAll ms := by
  induction ns with
  | nil => rfl
  | cons n ns ih => rw [List.cons_append, Node.walkAll, Node.walkAll, ih, List.append_assoc]

theorem walk_eq (n : Node) : n.walk = n :: Node.walkAll n.children := by
  cases n
  rw [Node.walk]
  rfl

/-- Of a function at the top level and what is inside of it or behind it, the function
itself comes first. -/
theorem find?_allNodes {file : File} {before after : List Node} {main : Node}
    (hitems : file.items = before ++ main :: after) (hmain : isEntryPoint main = true) :
    (allNodes file).find? isEntryPoint =
      ((Node.walkAll (file.attributes ++ before)).find? isEntryPoint).or (some main) := by
  have hwalk : allNodes file = Node.walkAll (file.attributes ++ before) ++
      main :: (Node.walkAll main.children ++ Node.walkAll after) := by
    rw [allNodes, hitems, ← List.append_assoc, walkAll_append, Node.walkAll, walk_eq,
      List.cons_append]
  rw [hwalk, List.find?_append, List.find?_cons_of_pos hmain]

/-! ## What a function gives -/

/-- The arguments of a call with their places. -/
def numbered (arguments : List Node) : List Argument := arguments.mapIdx fun i e => ⟨i, e⟩

/-- The extraction goes by the statements of this function. -/
structure Uses (script : SourceFile) (entry : Node) : Prop where
  /-- It is refused exactly if there are none. -/
  refused : (extract script).2 = .error (.invalidEntryPoint script.path) ↔
    statements entry = []
  /-- Without an aggregation call among them there are no arguments. -/
  silent : statements entry ≠ [] → (∀ s ∈ statements entry, statementCall? s = none) →
    (extract script).2.map Extraction.arguments = .ok []
  /-- The last aggregation call gives the arguments, or the complaint about them. -/
  called : ∀ earlier s later call, statements entry = earlier ++ s :: later →
    statementCall? s = some call → (∀ s' ∈ later, statementCall? s' = none) →
    (extract script).2.map Extraction.arguments = (call.arguments script.path).map numbered

theorem findSome?_last {α β : Type} {f : α → Option β} {l earlier later : List α} {a : α}
    {b : β} (hl : l = earlier ++ a :: later) (ha : f a = some b)
    (hlater : ∀ x ∈ later, f x = none) : l.reverse.findSome? f = some b := by
  have hnone : later.reverse.findSome? f = none := by
    rw [List.findSome?_eq_none_iff]
    intro x hx
    exact hlater x (List.mem_reverse.mp hx)
  rw [hl, List.reverse_append, List.reverse_cons, List.findSome?_append,
    List.findSome?_append, hnone, List.findSome?_singleton, ha]
  rfl

/-- A call is never refused for the entry point. -/
theorem diagnostics_of_arguments {call : Call} {path : String} {failure : Failure}
    (h : call.arguments path = .error failure) : ∃ ds, failure = .diagnostics ds := by
  cases call with
  | function arguments => cases h
  | macroCall call =>
      rw [Call.arguments] at h
      cases hcall : call.arguments with
      | ok arguments => rw [hcall] at h; cases h
      | error f =>
          rw [hcall] at h
          cases h
          exact ⟨_, rfl⟩

section Found

variable {script : SourceFile} {entry : Node}
  (hentry : (allNodes script.tree).find? isEntryPoint = some entry)

include hentry

theorem extract_refused (h : statements entry = []) :
    (extract script).2 = .error (.invalidEntryPoint script.path) := by
  simp [extract, hentry, h]

theorem extract_silent (hne : statements entry ≠ [])
    (h : (statements entry).reverse.findSome? statementCall? = none) :
    (extract script).2 = .ok (.of script.tree []) := by
  simp [extract, hentry, hne, h]

theorem extract_called (hne : statements entry ≠ []) {call : Call}
    (h : (statements entry).reverse.findSome? statementCall? = some call) :
    (extract script).2 = (call.arguments script.path).map (.of script.tree) := by
  simp [extract, hentry, hne, h]

theorem not_refused (hne : statements entry ≠ []) :
    (extract script).2 ≠ .error (.invalidEntryPoint script.path) := by
  intro hrefused
  cases hfound : (statements entry).reverse.findSome? statementCall? with
  | none =>
      rw [extract_silent hentry hne hfound] at hrefused
      cases hrefused
  | some call =>
      rw [extract_called hentry hne hfound] at hrefused
      cases harguments : call.arguments script.path with
      | ok arguments => rw [harguments] at hrefused; cases hrefused
      | error failure =>
          obtain ⟨ds, rfl⟩ := diagnostics_of_arguments harguments
          rw [harguments] at hrefused
          cases hrefused

theorem uses_found : Uses script entry := by
  refine ⟨⟨fun hrefused => ?_, extract_refused hentry⟩, ?_, ?_⟩
  · cases hs : statements entry with
    | nil => rfl
    | cons s rest => exact absurd hrefused (not_refused hentry (by simp [hs]))
  · intro hne hnone
    rw [extract_silent hentry hne (by simpa using hnone)]
    rfl
  · intro earlier s later call hsplit hcall hlater
    have hne : statements entry ≠ [] := by simp [hsplit]
    rw [extract_called hentry hne (findSome?_last hsplit hcall hlater)]
    cases call.arguments script.path <;> rfl

end Found

/-- The entry point of a script with a function called `main` at the top level. It is this
function if none of that name is inside of what stands before it, and else the first one
there. -/
theorem entry_point {script : SourceFile} {before after : List Node} {main : Node}
    (hitems : script.tree.items = before ++ main :: after) (hmain : isEntryPoint main = true) :
    ((∀ n ∈ Node.walkAll (script.tree.attributes ++ before), isEntryPoint n = false) →
      Uses script main) ∧
    ∀ nested,
      (Node.walkAll (script.tree.attributes ++ before)).find? isEntryPoint = some nested →
        Uses script nested := by
  have hfind := find?_allNodes hitems hmain
  constructor
  · intro hfree
    have hnone : (Node.walkAll (script.tree.attributes ++ before)).find? isEntryPoint = none := by
      simpa using hfree
    exact uses_found (by rw [hfind, hnone]; rfl)
  · intro nested hnested
    exact uses_found (by rw [hfind, hnested]; rfl)

/-! ## Two scripts -/

theorem parsed_of_map {α : Type} {text : String} {f : SourceFile → α} {a : α}
    (h : (SourceFile.parse scriptName text).toOption.map f = some a) :
    ∃ script, SourceFile.parse scriptName text = .ok script ∧ f script = a := by
  cases hparse : SourceFile.parse scriptName text with
  | error d => rw [hparse] at h; cases h
  | ok script =>
      rw [hparse] at h
      exact ⟨script, rfl, Option.some.inj h⟩

/-- A script that has a function called `main` inside of the one at the top level, and one
in a module behind it. -/
def overgrown : String :=
  "fn main() \x7b\n    fn main() \x7b\x7d\n    x::build_configs(A \x7b\x7d, B \x7b\x7d);\n\x7d\n"
    ++ "mod a \x7b\n    fn main() \x7b\x7d\n\x7d\n"

theorem entry_point_overgrown :
    ∃ script main rest, SourceFile.parse scriptName overgrown = .ok script ∧
      script.tree.items = main :: rest ∧ isEntryPoint main = true ∧
      statements main ≠ [] ∧ Uses script main ∧
      (extract script).2 ≠ .error (.invalidEntryPoint script.path) := by
  have hrun : (SourceFile.parse scriptName overgrown).toOption.map (fun script =>
      (script.tree.attributes.isEmpty, script.tree.items.map fun n =>
        (isEntryPoint n, (statements n).isEmpty))) =
        some (true, [(true, false), (false, false)]) := by decide +kernel
  obtain ⟨script, hparse, hshape⟩ := parsed_of_map hrun
  obtain ⟨hattributes, hitems⟩ := Prod.mk.inj hshape
  obtain ⟨main, rest, hsplit, hmain, -⟩ := List.map_eq_cons_iff.mp hitems
  obtain ⟨hentry, hbody⟩ := Prod.mk.inj hmain
  have hne : statements main ≠ [] := by simpa using hbody
  have huses : Uses script main := by
    have hfirst : script.tree.items = [] ++ main :: rest := hsplit
    refine (entry_point hfirst hentry).1 ?_
    rw [List.isEmpty_iff.mp hattributes]
    simp [Node.walkAll]
  exact ⟨script, main, rest, hparse, hsplit, hentry, hne, huses, fun h => hne (huses.refused.mp h)⟩

/-- A script that has a function called `main` in a module before the one at the top level,
which is empty. -/
def overshadowed : String :=
  "mod a \x7b\n    fn main() \x7b\n        let x = 1;\n    \x7d\n\x7d\nfn main() \x7b\x7d\n"

/-- The first function called `main` at the top level is not always the one that counts. -/
theorem nested_main_first :
    ¬ ∀ (text : String) (script : SourceFile) (before after : List Node) (main : Node),
      SourceFile.parse scriptName text = .ok script →
      script.tree.items = before ++ main :: after → isEntryPoint main = true →
      (∀ n ∈ before, isEntryPoint n = false) → Uses script main := by
  intro hall
  have hrun : (SourceFile.parse scriptName overshadowed).toOption.map (fun script =>
      ((extract script).2.toOption.isSome, script.tree.items.map fun n =>
        (isEntryPoint n, (statements n).isEmpty))) =
        some (true, [(false, false), (true, true)]) := by decide +kernel
  obtain ⟨script, hparse, hshape⟩ := parsed_of_map hrun
  obtain ⟨hok, hitems⟩ := Prod.mk.inj hshape
  obtain ⟨a, rest, hsplit, ha, hrest⟩ := List.map_eq_cons_iff.mp hitems
  obtain ⟨main, after, rfl, hmain, -⟩ := List.map_eq_cons_iff.mp hrest
  have huses : Uses script main := by
    refine hall overshadowed script [a] after main hparse hsplit (Prod.mk.inj hmain).1 ?_
    simpa using (Prod.mk.inj ha).1
  have hrefused := huses.refused.mpr (List.isEmpty_iff.mp (Prod.mk.inj hmain).2)
  rw [hrefused] at hok
  cases hok

end Overlay.Generate.Script
