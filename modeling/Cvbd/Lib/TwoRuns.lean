import Mathlib.Data.List.Forall2
import Cvbd.Lib.Machine

/-!
Two runs of one machine side by side, on labels that need not be equal but are
related, for properties of pairs of runs. The unwinding rule reduces what such
runs emit to a relation between states that every pair of steps keeps.
-/

namespace Cvbd

namespace Machine

variable {State Label Event : Type}

/-- Two runs of the same length, from `left` and `right`. What is `same` about two labels may depend
on the states in which they are taken. -/
inductive TwoRuns (machine : Machine State Label Event) (allowed : State → Label → Prop)
    (same : State → State → Label → Label → Prop) (left right : State) :
    List Event → List Event → State → State → Prop
  | start : TwoRuns machine allowed same left right [] [] left right
  | next {traceLeft traceRight stateLeft stateRight labelLeft labelRight afterLeft afterRight
      eventsLeft eventsRight} :
      TwoRuns machine allowed same left right traceLeft traceRight stateLeft stateRight →
      same stateLeft stateRight labelLeft labelRight →
      allowed stateLeft labelLeft → allowed stateRight labelRight →
      machine.step stateLeft labelLeft = some (afterLeft, eventsLeft) →
      machine.step stateRight labelRight = some (afterRight, eventsRight) →
      TwoRuns machine allowed same left right (traceLeft ++ eventsLeft) (traceRight ++ eventsRight)
        afterLeft afterRight

variable {machine : Machine State Label Event} {allowed : State → Label → Prop}
variable {same : State → State → Label → Label → Prop} {left right stateLeft stateRight : State}
variable {traceLeft traceRight : List Event}

/-- Unwinding: if related states stay related and emit events that are alike, the traces of two runs
from related states are alike. -/
theorem TwoRuns.unwind (related : State → State → Prop) (alike : Event → Event → Prop)
    (base : related left right)
    (keeps : ∀ stateLeft stateRight labelLeft labelRight afterLeft afterRight eventsLeft eventsRight,
      related stateLeft stateRight → same stateLeft stateRight labelLeft labelRight →
      allowed stateLeft labelLeft → allowed stateRight labelRight →
      machine.step stateLeft labelLeft = some (afterLeft, eventsLeft) →
      machine.step stateRight labelRight = some (afterRight, eventsRight) →
      related afterLeft afterRight ∧ List.Forall₂ alike eventsLeft eventsRight)
    (runs : TwoRuns machine allowed same left right traceLeft traceRight stateLeft stateRight) :
    related stateLeft stateRight ∧ List.Forall₂ alike traceLeft traceRight := by
  induction runs with
  | start => exact ⟨base, List.Forall₂.nil⟩
  | next _ similar allowedLeft allowedRight stepLeft stepRight ih =>
      obtain ⟨kept, emitted⟩ := keeps _ _ _ _ _ _ _ _ ih.1 similar allowedLeft allowedRight
        stepLeft stepRight
      exact ⟨kept, List.rel_append ih.2 emitted⟩

theorem TwoRuns.exec {check : State → Label → Bool}
    (sound : ∀ state label, check state label = true → allowed state label)
    (reflexive : ∀ stateLeft stateRight label, same stateLeft stateRight label label)
    {labels : List Label} {lastLeft lastRight : State} {eventsLeft eventsRight : List Event}
    (runs : TwoRuns machine allowed same left right traceLeft traceRight stateLeft stateRight)
    (executedLeft : machine.exec check stateLeft labels = some (lastLeft, eventsLeft))
    (executedRight : machine.exec check stateRight labels = some (lastRight, eventsRight)) :
    TwoRuns machine allowed same left right (traceLeft ++ eventsLeft) (traceRight ++ eventsRight)
      lastLeft lastRight := by
  induction labels generalizing traceLeft traceRight stateLeft stateRight eventsLeft eventsRight with
  | nil =>
      simp only [Machine.exec, Option.some.injEq, Prod.mk.injEq] at executedLeft executedRight
      obtain ⟨rfl, rfl⟩ := executedLeft
      obtain ⟨rfl, rfl⟩ := executedRight
      simpa using runs
  | cons label labels ih =>
      obtain ⟨passesLeft, afterLeft, firstLeft, restLeft, stepLeft, thenLeft, rfl⟩ :=
        exec_cons executedLeft
      obtain ⟨passesRight, afterRight, firstRight, restRight, stepRight, thenRight, rfl⟩ :=
        exec_cons executedRight
      have extended := ih (TwoRuns.next runs (reflexive _ _ label) (sound _ _ passesLeft)
        (sound _ _ passesRight) stepLeft stepRight) thenLeft thenRight
      simpa [List.append_assoc] using extended

/-- A schedule that executes from both states gives two runs, and what they emit can be tested. -/
theorem TwoRuns.of_exec (machine : Machine State Label Event) (left right : State)
    (check : State → Label → Bool)
    (sound : ∀ state label, check state label = true → allowed state label)
    (reflexive : ∀ stateLeft stateRight label, same stateLeft stateRight label label)
    (labels : List Label) (test : List Event → List Event → Bool)
    (executed : ((machine.exec check left labels).any fun outcomeLeft =>
      (machine.exec check right labels).any fun outcomeRight =>
        test outcomeLeft.2 outcomeRight.2) = true) :
    ∃ traceLeft traceRight stateLeft stateRight,
      TwoRuns machine allowed same left right traceLeft traceRight stateLeft stateRight ∧
        test traceLeft traceRight = true := by
  obtain ⟨⟨lastLeft, eventsLeft⟩, equalLeft, rest⟩ := (Option.any_eq_true _ _).mp executed
  obtain ⟨⟨lastRight, eventsRight⟩, equalRight, passes⟩ := (Option.any_eq_true _ _).mp rest
  exact ⟨[] ++ eventsLeft, [] ++ eventsRight, lastLeft, lastRight,
    TwoRuns.exec sound reflexive TwoRuns.start equalLeft equalRight, passes⟩

end Machine

end Cvbd
