import RPGLearnGame.Semantics.EventMachine

/-!
# What events a view depends on

A view shows part of a state. `Unwinding` says that some events are all it depends
on: any other event leaves the view alone, and one of these events takes equal views
to equal views. Over a run the others can then be left out, wherever they stand, and
two runs that differ in nothing else end with the same view.

The conditions are asked of single steps between supported states only, and the
support is kept by every event, admitted or not, so that it also holds along the
shortened run.
-/

universe u v w

namespace EventMachine

variable {State : Type u} {Event : Type v} {View : Type w}

/-- Between supported states, a view depends on the relevant events only. -/
structure Unwinding (machine : EventMachine State Event) (support : State → Prop)
    (view : State → View) (relevant : Event → Prop) : Prop where
  supported : ∀ {state}, support state → ∀ event, support (machine.next state event)
  silent : ∀ {state event}, support state → ¬ relevant event →
    view (machine.next state event) = view state
  determined : ∀ {first second event}, support first → support second →
    view first = view second → relevant event →
      view (machine.next first event) = view (machine.next second event)

variable {machine : EventMachine State Event} {support : State → Prop} {view : State → View}
  {relevant : Event → Prop}

variable [DecidablePred relevant]

/-- Equal views stay equal when one of the runs leaves out what is not relevant. -/
theorem Unwinding.run_filter (unwinding : machine.Unwinding support view relevant)
    {first second : State} (firstSupported : support first) (secondSupported : support second)
    (same : view first = view second) (events : List Event) :
    view (machine.run first events) =
      view (machine.run second (events.filter fun event => relevant event)) := by
  induction events generalizing first second with
  | nil => exact same
  | cons event rest inductionHypothesis =>
      have firstNext := unwinding.supported firstSupported event
      by_cases matters : relevant event
      · rw [List.filter_cons_of_pos (by simpa using matters), run_cons, run_cons]
        exact inductionHypothesis firstNext (unwinding.supported secondSupported event)
          (unwinding.determined firstSupported secondSupported same matters)
      · rw [List.filter_cons_of_neg (by simpa using matters), run_cons]
        exact inductionHypothesis firstNext secondSupported
          ((unwinding.silent firstSupported matters).trans same)

/-- Runs with the same relevant events, in the same order among themselves, end with
the same view. -/
theorem Unwinding.run_eq (unwinding : machine.Unwinding support view relevant)
    {first second : State} (firstSupported : support first) (secondSupported : support second)
    (same : view first = view second) {events others : List Event}
    (sameEvents : (events.filter fun event => relevant event) =
      others.filter fun event => relevant event) :
    view (machine.run first events) = view (machine.run second others) := by
  rw [unwinding.run_filter firstSupported secondSupported same events, sameEvents]
  exact (unwinding.run_filter secondSupported secondSupported rfl others).symm

end EventMachine
