import Mathlib.Data.List.Forall2
import Overlay.Generate.Generation
import Overlay.Proofs.Histories
import Overlay.Proofs.SectionKeys

/-!
# Every argument is a section or is skipped

The arguments of the aggregation call are resolved one after another, and the
graph that finds the modules of one is the start for the next. An argument that
resolves gives a declaration, any other one an entry in the list of those that
are skipped. Declarations become the fields of the aggregate, the copies of the
sections and the initializers of the defaults; the fields are paired with the
declarations again when the initializers are written, by nothing but their order.

So what has to be shown is that the order is kept all the way. `Resolved` is one
run over the arguments with the graphs between them, and everything about the two
lists is an induction over it. What is laid out from the declarations is known
already. Being strict comes in after the arguments have been resolved and changes
nothing before, so a strict run can be told from the other one.
-/

namespace Overlay.Generate

open Source (SourceFile Node)
open Files (FileSystem Path)

namespace Resolution

section Runs

variable (fs : FileSystem) (script : SourceFile) (here : Module) (imports : ImportTable)

/-- The arguments resolved one after another: the declarations, the entries for
those that are skipped, and what has been explored before and after. -/
inductive Resolved :
    Exploration → List Script.Argument → List Declaration → List Skipped → Exploration → Prop
  | nil (s : Exploration) : Resolved s [] [] [] s
  | taken {s t u : Exploration} {a : Script.Argument} {rest : List Script.Argument}
      {d : Declaration} {ds : List Declaration} {skipped : List Skipped}
      (hresolve : (resolve fs script here imports a.expr).run.run s = (.ok (.ok d), t))
      (hrest : Resolved t rest ds skipped u) :
      Resolved s (a :: rest) (d :: ds) skipped u
  | skip {s t u : Exploration} {a : Script.Argument} {rest : List Script.Argument}
      {reason : SkipReason} {ds : List Declaration} {skipped : List Skipped}
      (hresolve : (resolve fs script here imports a.expr).run.run s =
        (.ok (.error reason), t))
      (hrest : Resolved { t with events := t.events ++ [skipping ⟨a.index, reason⟩] }
        rest ds skipped u) :
      Resolved s (a :: rest) ds (⟨a.index, reason⟩ :: skipped) u

end Runs

variable {fs : FileSystem} {script : SourceFile} {here : Module} {imports : ImportTable}
  {s u : Exploration} {arguments : List Script.Argument} {ds : List Declaration}
  {skipped : List Skipped}

/-- The declaration is what resolving the argument gives. -/
structure ComesFrom (fs : FileSystem) (script : SourceFile) (here : Module)
    (imports : ImportTable) (a : Script.Argument) (d : Declaration) : Prop where
  literal : ∃ segments, literal? a.expr = some (d.literal, segments)
  resolved : ∃ s t, (resolve fs script here imports a.expr).run.run s = (.ok (.ok d), t)

/-- The argument does not resolve, for the given reason. -/
def LeftOut (fs : FileSystem) (script : SourceFile) (here : Module)
    (imports : ImportTable) (a : Script.Argument) (skipped : Skipped) : Prop :=
  skipped.index = a.index ∧
    ∃ s t, (resolve fs script here imports a.expr).run.run s =
      (.ok (.error skipped.reason), t)

/-- The arguments whose places are not among those that are skipped. -/
def kept (skipped : List Skipped) (arguments : List Script.Argument) :
    List Script.Argument :=
  arguments.filter fun a => decide (a.index ∉ skipped.map (·.index))

namespace Resolved

theorem length_eq (h : Resolved fs script here imports s arguments ds skipped u) :
    ds.length + skipped.length = arguments.length := by
  induction h with
  | nil => rfl
  | taken _ _ ih => rw [List.length_cons, List.length_cons]; omega
  | skip _ _ ih => rw [List.length_cons, List.length_cons]; omega

theorem sublist (h : Resolved fs script here imports s arguments ds skipped u) :
    (skipped.map (·.index)).Sublist (arguments.map (·.index)) := by
  induction h with
  | nil => exact .slnil
  | taken _ _ ih => exact ih.cons _
  | skip _ _ ih => exact ih.cons_cons _

end Resolved

end Resolution

/-! ## The places of arguments -/

namespace Script.Extraction

end Script.Extraction

namespace Generation

open Section Resolution

variable {fs : FileSystem} {root : Path} {setup : Setup} {e : Script.Extraction}
  {r : Rendered}

/-! ## Being strict -/

/-- What the text of a setup is made from. -/
def inputOf (setup : Setup) (e : Script.Extraction) (declarations : List Declaration)
    (aggregate : List AggregateField) : Render.Input where
  sourceLabel := setup.sourceLabel
  module := setup.here.name
  script := setup.script
  imports := e.topLevelImports
  declarations
  aggregate

theorem sections_eq (ds : List Declaration) :
    ∃ opening closing, Render.sections (ds.map tagFields) =
      opening ++ (ds.flatMap fun d => Render.sectionStruct (tagFields d)) ++ closing := by
  cases ds with
  | nil => exact ⟨[], [], rfl⟩
  | cons d ds =>
      rw [Render.sections, if_neg (by simp), List.flatMap_map]
      exact ⟨_, _, rfl⟩

/-- What a generated module makes of the arguments: those that are skipped, and the
declarations `ds` of all others, from which the fields of the aggregate, the copies
of the sections and the initializers are made one by one. -/
structure Accounts (fs : FileSystem) (setup : Setup) (e : Script.Extraction)
    (imports : ImportTable) (ds : List Declaration) (r : Rendered) : Prop where
  increasing : (r.skipped.map (·.index)).Pairwise (· < ·)
  below : ∀ x ∈ r.skipped, x.index < e.arguments.length
  skipped : ∀ x ∈ r.skipped, ∃ a ∈ e.arguments,
    LeftOut fs setup.script setup.here imports a x
  total : (sectionFields r.aggregate).length + r.skipped.length = e.arguments.length
  declared : List.Forall₂ (ComesFrom fs setup.script setup.here imports)
    (kept r.skipped e.arguments) ds
  fields : sectionFields r.aggregate = ds.map sectionOf
  text : r.text = Render.text (inputOf setup e (ds.map tagFields) r.aggregate)
  copies : ∃ opening closing, Render.sections (ds.map tagFields) =
    opening ++ (ds.flatMap fun d => Render.sectionStruct (tagFields d)) ++ closing
  defaults : Render.initializers (inputOf setup e (ds.map tagFields) r.aggregate) =
    ds.flatMap fun d => Render.initializer (sectionOf d).ident (tagFields d)

end Generation

end Overlay.Generate
