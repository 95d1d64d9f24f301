import RPGLearnGame.Semantics.Accounting
import Mathlib.Tactic.Linarith
import Mathlib.Tactic.Ring

/-!
# Periodic timers

A countdown falls with the time that passes and is put back by one period whenever its
timer fires. It stays between zero and the period, so the firings of a run account for
the time that passed in it up to the part of a period that was left at either end.
-/

universe u v w

namespace EventMachine

variable {State : Type u} {Event : Type v} {K : Type w}
  [CommRing K] [LinearOrder K] [IsStrictOrderedRing K]

/-- A timer with a fixed period inside a machine. -/
structure Periodic (machine : EventMachine State Event) (support : State → Prop)
    (elapsed : State → Event → K) (fires : State → Event → Prop)
    [∀ state event, Decidable (fires state event)] (countdown : State → K) (period : K) :
    Prop where
  supported : machine.Invariant support
  within : ∀ {state}, support state → 0 ≤ countdown state ∧ countdown state ≤ period
  runs : ∀ {state event}, support state → machine.Admits state event →
    countdown (machine.next state event) =
      countdown state - elapsed state event + period * if fires state event then 1 else 0

variable {machine : EventMachine State Event} {support : State → Prop}
  {elapsed : State → Event → K} {fires : State → Event → Prop}
  [∀ state event, Decidable (fires state event)] {countdown : State → K} {period : K}

omit [IsStrictOrderedRing K] in
/-- A timer keeps its period in a smaller environment. -/
theorem Periodic.guarded {guard : State → Event → Prop}
    (periodic : machine.Periodic support elapsed fires countdown period) :
    (machine.guarded guard).Periodic support elapsed fires countdown period where
  supported := periodic.supported.guarded
  within := periodic.within
  runs := fun holds admits => periodic.runs holds admits.1

/-- The firings of a run and the time that passed in it differ by what the countdown has
moved. -/
theorem Periodic.count_eq
    (periodic : machine.Periodic support elapsed fires countdown period)
    {state : State} {events : List Event} (holds : support state)
    (admissible : machine.Admissible state events) :
    period * machine.count fires state events =
      machine.total elapsed state events + countdown (machine.run state events) -
        countdown state := by
  have moved := machine.total_telescope
    (fun state event => period * (if fires state event then 1 else 0) + -1 * elapsed state event)
    periodic.supported countdown (fun holds admits => ?_) holds admissible
  · rw [total_add, total_mul_left, total_mul_left, ← cast_count] at moved
    linarith
  · rw [periodic.runs holds admits]
    ring

/-- In a run the timer fires at most once for each period that passes, and once for what
had already run down. -/
theorem Periodic.count_le
    (periodic : machine.Periodic support elapsed fires countdown period)
    {state : State} {events : List Event} (holds : support state)
    (admissible : machine.Admissible state events) :
    period * machine.count fires state events ≤
      machine.total elapsed state events + period := by
  have exact := periodic.count_eq holds admissible
  obtain ⟨startNonneg, startLe⟩ := periodic.within holds
  obtain ⟨finalNonneg, finalLe⟩ :=
    periodic.within (periodic.supported.throughout holds admissible).final
  linarith

/-- In a run the timer fires for each whole period that passes. -/
theorem Periodic.le_count
    (periodic : machine.Periodic support elapsed fires countdown period)
    {state : State} {events : List Event} (holds : support state)
    (admissible : machine.Admissible state events) :
    machine.total elapsed state events ≤
      period * machine.count fires state events + period := by
  have exact := periodic.count_eq holds admissible
  obtain ⟨startNonneg, startLe⟩ := periodic.within holds
  obtain ⟨finalNonneg, finalLe⟩ :=
    periodic.within (periodic.supported.throughout holds admissible).final
  linarith

end EventMachine
