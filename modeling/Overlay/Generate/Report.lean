import Overlay.Event
import Overlay.Generate.Failure

/-!
# Reported results

A result together with what was reported on the way to it. One step follows another only if it
succeeded, and the reports stand in the order of the steps.
-/

namespace Overlay.Generate

/-- What was reported, and the result or the failure. -/
abbrev Reported (α : Type) := List Event × Except Failure α

namespace Reported

def ok {α : Type} (a : α) : Reported α := ([], .ok a)

/-- A result without a report. -/
def of {α : Type} (result : Except Failure α) : Reported α := ([], result)

/-- A report and nothing else. -/
def event (e : Event) : Reported Unit := ([e], .ok ())

/-- One step after another. -/
def andThen {α β : Type} (first : Reported α) (next : α → Reported β) : Reported β :=
  match first with
  | (events, .error f) => (events, .error f)
  | (events, .ok a) => (events ++ (next a).1, (next a).2)

instance : Monad Reported where
  pure := ok
  bind := andThen

/-! The result does not depend on the reports. -/

theorem snd_pure {α : Type} (a : α) : (pure a : Reported α).2 = .ok a := rfl

theorem snd_bind {α β : Type} (first : Reported α) (next : α → Reported β) :
    (first >>= next).2 = first.2.bind fun a => (next a).2 := by
  obtain ⟨events, result⟩ := first
  cases result <;> rfl

theorem ok_of_bind {α β : Type} {first : Reported α} {next : α → Reported β} {b : β}
    (h : (first >>= next).2 = .ok b) : ∃ a, first.2 = .ok a ∧ (next a).2 = .ok b := by
  obtain ⟨events, result⟩ := first
  cases result with
  | error f => cases h
  | ok a => exact ⟨a, rfl, h⟩

/-- What follows matters only at the result. -/
theorem bind_congr {α β : Type} {first : Reported α} {next next' : α → Reported β}
    (h : ∀ a, first.2 = .ok a → next a = next' a) : first >>= next = first >>= next' := by
  obtain ⟨events, result⟩ := first
  cases result with
  | error f => rfl
  | ok a =>
      show (events ++ (next a).1, (next a).2) = (events ++ (next' a).1, (next' a).2)
      rw [h a rfl]

end Reported

end Overlay.Generate
