import Mathlib.Data.List.Forall2
import Mathlib.Logic.Relation

/-!
Labelled machines: a partial step function that may emit events. The module
gives the runs of a machine under a condition on its steps, the invariant and
simulation rules for them, execution of a given schedule, and inevitability
(every schedule reaches the goal).
-/

namespace Cvbd

structure Machine (State Label Event : Type) where
  step : State → Label → Option (State × List Event)

namespace Machine

variable {State Label Event : Type}

/-- `Run machine allowed initial trace state`: some schedule of allowed labels leads from
`initial` to `state` and emits `trace`. -/
inductive Run (machine : Machine State Label Event) (allowed : State → Label → Prop)
    (initial : State) : List Event → State → Prop
  | start : Run machine allowed initial [] initial
  | next {trace state label after events} : Run machine allowed initial trace state →
      allowed state label → machine.step state label = some (after, events) →
      Run machine allowed initial (trace ++ events) after

variable {machine : Machine State Label Event} {allowed : State → Label → Prop}
variable {initial : State}

/-- What holds initially and is kept by every allowed step holds along every run. -/
theorem Run.invariant (property : List Event → State → Prop) (base : property [] initial)
    (keeps : ∀ trace state label after events, property trace state → allowed state label →
      machine.step state label = some (after, events) → property (trace ++ events) after)
    {trace : List Event} {state : State} (run : Run machine allowed initial trace state) :
    property trace state := by
  induction run with
  | start => exact base
  | next _ permitted stepped ih => exact keeps _ _ _ _ _ ih permitted stepped

theorem Run.mono (wider : State → Label → Prop)
    (weaker : ∀ state label, allowed state label → wider state label)
    {trace : List Event} {state : State} (run : Run machine allowed initial trace state) :
    Run machine wider initial trace state := by
  induction run with
  | start => exact Run.start
  | next _ permitted stepped ih => exact Run.next ih (weaker _ _ permitted) stepped

/-- The step of a run that has emitted a given event. -/
theorem Run.at_event {trace : List Event} {state : State}
    (run : Run machine allowed initial trace state) {before after : List Event} {event : Event}
    (split : trace = before ++ event :: after) :
    ∃ earlier reached label next events first rest, Run machine allowed initial earlier reached ∧
      allowed reached label ∧ machine.step reached label = some (next, events) ∧
      events = first ++ event :: rest ∧ before = earlier ++ first := by
  induction run generalizing after with
  | start => simp at split
  | @next trace reached label next events run permitted stepped ih =>
      rcases List.append_eq_append_iff.mp split with ⟨first, rfl, own⟩ | ⟨rest, old, own⟩
      · exact ⟨trace, reached, label, next, events, first, after, run, permitted, stepped, own, rfl⟩
      · cases rest with
        | nil =>
            rw [List.append_nil] at old
            exact ⟨trace, reached, label, next, events, [], after, run, permitted, stepped, own.symm,
              by rw [old, List.append_nil]⟩
        | cons head rest =>
            obtain ⟨rfl, _⟩ := List.cons.inj own
            exact ih old

/-- A run taken apart at the step that has emitted a given event. -/
theorem Run.through {trace : List Event} {state : State}
    (run : Run machine allowed initial trace state) {event : Event} (member : event ∈ trace) :
    ∃ earlier reached label next events later, Run machine allowed initial earlier reached ∧
      allowed reached label ∧ machine.step reached label = some (next, events) ∧ event ∈ events ∧
      Run machine allowed next later state ∧ trace = earlier ++ events ++ later := by
  induction run with
  | start => simp at member
  | @next trace reached label next events run permitted stepped ih =>
      rcases List.mem_append.mp member with old | own
      · obtain ⟨earlier, before, first, middle, told, later, past, valid, moved, here, rest, rfl⟩ :=
          ih old
        exact ⟨earlier, before, first, middle, told, later ++ events, past, valid, moved, here,
          Run.next rest permitted stepped, by rw [← List.append_assoc]⟩
      · exact ⟨trace, reached, label, next, events, [], run, permitted, stepped, own, Run.start,
          by rw [List.append_nil]⟩

/-- Simulation with stuttering. `abstraction` sends each concrete step to a step of the abstract
machine or to no step at all, and `visible` sends its events to the abstract step's events. -/
theorem Run.simulate {AbstractState AbstractLabel AbstractEvent : Type}
    {abstract : Machine AbstractState AbstractLabel AbstractEvent}
    {abstractAllowed : AbstractState → AbstractLabel → Prop}
    (abstraction : State → AbstractState) (visible : Event → List AbstractEvent)
    (follows : ∀ state label after events, allowed state label →
      machine.step state label = some (after, events) →
      (abstraction after = abstraction state ∧ events.flatMap visible = []) ∨
        ∃ abstractLabel, abstractAllowed (abstraction state) abstractLabel ∧
          abstract.step (abstraction state) abstractLabel =
            some (abstraction after, events.flatMap visible))
    {trace : List Event} {state : State} (run : Run machine allowed initial trace state) :
    Run abstract abstractAllowed (abstraction initial) (trace.flatMap visible)
      (abstraction state) := by
  induction run with
  | start => exact Run.start
  | next _ permitted stepped ih =>
      rw [List.flatMap_append]
      rcases follows _ _ _ _ permitted stepped with ⟨same, silent⟩ | ⟨_, permitted', stepped'⟩
      · rw [same, silent, List.append_nil]
        exact ih
      · exact Run.next ih permitted' stepped'

/-- Simulation step by step: related states stay related, and the events of two matching steps are
alike one by one. -/
theorem Run.related {OtherState OtherLabel OtherEvent : Type}
    {other : Machine OtherState OtherLabel OtherEvent}
    {otherAllowed : OtherState → OtherLabel → Prop} {otherInitial : OtherState}
    (related : State → OtherState → Prop) (alike : Event → OtherEvent → Prop)
    (base : related initial otherInitial)
    (follows : ∀ state otherState label after events, related state otherState →
      allowed state label → machine.step state label = some (after, events) →
      ∃ otherLabel otherAfter otherEvents, otherAllowed otherState otherLabel ∧
        other.step otherState otherLabel = some (otherAfter, otherEvents) ∧
        related after otherAfter ∧ List.Forall₂ alike events otherEvents)
    {trace : List Event} {state : State} (run : Run machine allowed initial trace state) :
    ∃ otherTrace otherState, Run other otherAllowed otherInitial otherTrace otherState ∧
      related state otherState ∧ List.Forall₂ alike trace otherTrace := by
  induction run with
  | start => exact ⟨[], otherInitial, Run.start, base, List.Forall₂.nil⟩
  | next _ permitted stepped ih =>
      obtain ⟨otherTrace, otherState, otherRun, kept, matched⟩ := ih
      obtain ⟨_, _, otherEvents, otherPermitted, otherStepped, keptAfter, emitted⟩ :=
        follows _ _ _ _ _ kept permitted stepped
      exact ⟨otherTrace ++ otherEvents, _, Run.next otherRun otherPermitted otherStepped, keptAfter,
        List.rel_append matched emitted⟩

/-- Two runs one after the other. -/
theorem Run.trans {first second : List Event} {middle state : State}
    (earlier : Run machine allowed initial first middle)
    (later : Run machine allowed middle second state) :
    Run machine allowed initial (first ++ second) state := by
  induction later with
  | start => simpa using earlier
  | next _ permitted stepped ih =>
      rw [← List.append_assoc]
      exact Run.next ih permitted stepped

/-- Refinement: each step keeps the states related to those of an abstract run that emits what is
`visible` of the step's events. -/
theorem Run.refine {AbstractState AbstractLabel AbstractEvent : Type}
    {abstract : Machine AbstractState AbstractLabel AbstractEvent}
    {abstractAllowed : AbstractState → AbstractLabel → Prop} {abstractInitial : AbstractState}
    (related : State → AbstractState → Prop) (visible : Event → List AbstractEvent)
    (base : related initial abstractInitial)
    (follows : ∀ state abstractState label after events, related state abstractState →
      allowed state label → machine.step state label = some (after, events) →
      ∃ abstractAfter, Run abstract abstractAllowed abstractState (events.flatMap visible)
        abstractAfter ∧ related after abstractAfter)
    {trace : List Event} {state : State} (run : Run machine allowed initial trace state) :
    ∃ abstractState, Run abstract abstractAllowed abstractInitial (trace.flatMap visible)
      abstractState ∧ related state abstractState := by
  induction run with
  | start => exact ⟨abstractInitial, Run.start, base⟩
  | next _ permitted stepped ih =>
      obtain ⟨abstractState, earlier, kept⟩ := ih
      obtain ⟨abstractAfter, later, keptAfter⟩ := follows _ _ _ _ _ kept permitted stepped
      rw [List.flatMap_append]
      exact ⟨abstractAfter, earlier.trans later, keptAfter⟩

/-- An invariant of the states may be added to what a run allows. -/
theorem Run.strengthen (property : State → Prop) (base : property initial)
    (keeps : ∀ state label after events, property state → allowed state label →
      machine.step state label = some (after, events) → property after)
    {trace : List Event} {state : State} (run : Run machine allowed initial trace state) :
    Run machine (fun state label => allowed state label ∧ property state) initial trace state ∧
      property state := by
  induction run with
  | start => exact ⟨Run.start, base⟩
  | next _ permitted stepped ih =>
      exact ⟨Run.next ih.1 ⟨permitted, ih.2⟩ stepped, keeps _ _ _ _ ih.2 permitted stepped⟩

/-- The outcome of one given schedule, if every label of it passes the check and is enabled in
turn. -/
def exec (machine : Machine State Label Event) (check : State → Label → Bool) :
    State → List Label → Option (State × List Event)
  | state, [] => some (state, [])
  | state, label :: labels =>
      if check state label then
        match machine.step state label with
        | none => none
        | some (after, events) =>
            match exec machine check after labels with
            | none => none
            | some (last, rest) => some (last, events ++ rest)
      else none

theorem exec_cons {check : State → Label → Bool} {state last : State} {label : Label}
    {labels : List Label} {events : List Event}
    (executed : machine.exec check state (label :: labels) = some (last, events)) :
    check state label = true ∧ ∃ after first rest, machine.step state label = some (after, first) ∧
      machine.exec check after labels = some (last, rest) ∧ events = first ++ rest := by
  simp only [Machine.exec] at executed
  by_cases passes : check state label = true
  · refine ⟨passes, ?_⟩
    cases stepped : machine.step state label with
    | none => simp [passes, stepped] at executed
    | some result =>
        obtain ⟨after, first⟩ := result
        simp only [passes, if_true, stepped] at executed
        cases continued : machine.exec check after labels with
        | none => simp [continued] at executed
        | some outcome =>
            obtain ⟨final, rest⟩ := outcome
            simp only [continued, Option.some.injEq, Prod.mk.injEq] at executed
            obtain ⟨rfl, rfl⟩ := executed
            exact ⟨after, first, rest, rfl, continued, rfl⟩
  · simp [passes] at executed

/-- A schedule that executes is a run, if the check is sound in the states that can occur. -/
theorem Run.exec (property : State → Prop) {check : State → Label → Bool}
    (sound : ∀ state label, property state → check state label = true → allowed state label)
    (keeps : ∀ state label after events, property state → allowed state label →
      machine.step state label = some (after, events) → property after)
    {labels : List Label} {trace : List Event} {state : State}
    (run : Run machine allowed initial trace state) (holds : property state)
    {last : State} {events : List Event}
    (executed : machine.exec check state labels = some (last, events)) :
    Run machine allowed initial (trace ++ events) last := by
  induction labels generalizing trace state events with
  | nil =>
      simp only [Machine.exec, Option.some.injEq, Prod.mk.injEq] at executed
      obtain ⟨rfl, rfl⟩ := executed
      simpa using run
  | cons label labels ih =>
      obtain ⟨passes, after, first, rest, stepped, continued, rfl⟩ := exec_cons executed
      have permitted := sound state label holds passes
      have extended := ih (Run.next run permitted stepped) (keeps _ _ _ _ holds permitted stepped)
        continued
      simpa [List.append_assoc] using extended

/-- A schedule that executes is a run whose end can be tested; the check is sound where `property`
holds. -/
theorem Run.of_exec_invariant (machine : Machine State Label Event) (initial : State)
    (property : State → Prop) (base : property initial) (check : State → Label → Bool)
    (sound : ∀ state label, property state → check state label = true → allowed state label)
    (keeps : ∀ state label after events, property state → allowed state label →
      machine.step state label = some (after, events) → property after)
    (labels : List Label) (test : List Event → State → Bool)
    (executed : (machine.exec check initial labels).any
      (fun outcome => test outcome.2 outcome.1) = true) :
    ∃ trace state, Run machine allowed initial trace state ∧ test trace state = true := by
  obtain ⟨⟨last, events⟩, equal, passes⟩ := (Option.any_eq_true _ _).mp executed
  refine ⟨[] ++ events, last, ?_, passes⟩
  exact Run.exec property sound keeps Run.start base equal

theorem Run.of_exec (machine : Machine State Label Event) (initial : State)
    (check : State → Label → Bool)
    (sound : ∀ state label, check state label = true → allowed state label)
    (labels : List Label) (test : List Event → State → Bool)
    (executed : (machine.exec check initial labels).any
      (fun outcome => test outcome.2 outcome.1) = true) :
    ∃ trace state, Run machine allowed initial trace state ∧ test trace state = true :=
  Run.of_exec_invariant machine initial (fun _ => True) trivial check
    (fun state label _ => sound state label) (fun _ _ _ _ _ _ _ => trivial) labels test executed

/-- Every schedule of allowed labels reaches the goal: no infinite schedule avoids it and none
gets stuck before it. -/
inductive Settles (machine : Machine State Label Event) (allowed : State → Label → Prop)
    (goal : State → Prop) : State → Prop
  | done {state} : goal state → Settles machine allowed goal state
  | step {state} :
      (∃ label after events, allowed state label ∧
        machine.step state label = some (after, events)) →
      (∀ label after events, allowed state label →
        machine.step state label = some (after, events) → Settles machine allowed goal after) →
      Settles machine allowed goal state

/-- A measure that every step from an unfinished state lowers, and a step being enabled there,
make the goal inevitable. -/
theorem Settles.of_measure {goal : State → Prop} (property : State → Prop) (measure : State → Nat)
    (enabled : ∀ state, property state → ¬goal state → ∃ label after events,
      allowed state label ∧ machine.step state label = some (after, events))
    (lowers : ∀ state label after events, property state → ¬goal state → allowed state label →
      machine.step state label = some (after, events) →
      property after ∧ measure after < measure state)
    {state : State} (holds : property state) : Settles machine allowed goal state := by
  induction size : measure state using Nat.strongRecOn generalizing state with
  | ind size ih =>
      by_cases reached : goal state
      · exact Settles.done reached
      · refine Settles.step (enabled state holds reached) ?_
        intro label after events permitted stepped
        obtain ⟨kept, smaller⟩ := lowers _ _ _ _ holds reached permitted stepped
        exact ih (measure after) (by omega) kept rfl

theorem Settles.mono {goal weaker : State → Prop} (implied : ∀ state, goal state → weaker state)
    {state : State} (settles : Settles machine allowed goal state) :
    Settles machine allowed weaker state := by
  induction settles with
  | done reached => exact Settles.done (implied _ reached)
  | step enabled _ ih => exact Settles.step enabled ih

theorem Settles.strengthen {goal : State → Prop} (property : State → Prop)
    (keeps : ∀ state label after events, property state → allowed state label →
      machine.step state label = some (after, events) → property after)
    {state : State} (settles : Settles machine allowed goal state) (holds : property state) :
    Settles machine allowed (fun state => goal state ∧ property state) state := by
  induction settles with
  | done reached => exact Settles.done ⟨reached, holds⟩
  | step enabled _ ih =>
      refine Settles.step enabled ?_
      intro label after events permitted stepped
      exact ih label after events permitted stepped (keeps _ _ _ _ holds permitted stepped)

theorem Settles.reached {goal : State → Prop} {state : State}
    (settles : Settles machine allowed goal state) {trace : List Event}
    (run : Run machine allowed initial trace state) :
    ∃ trace last, Run machine allowed initial trace last ∧ goal last := by
  induction settles generalizing trace with
  | done reached => exact ⟨trace, _, run, reached⟩
  | step enabled _ ih =>
      obtain ⟨label, after, events, permitted, stepped⟩ := enabled
      exact ih label after events permitted stepped (Run.next run permitted stepped)

end Machine

end Cvbd
