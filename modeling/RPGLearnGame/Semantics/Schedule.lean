import RPGLearnGame.Semantics.EventMachine
import Mathlib.Algebra.Order.Group.Defs
import Mathlib.Algebra.Order.Sub.Basic
import Mathlib.Tactic.Abel

/-!
# Runs and their schedules

Some events of a machine only let time pass. When two such events in a row do what one
of them does for the time of both, it does not matter into how many pieces time is cut:
a run is determined by its schedule, the other events with the times they arrive at, and
by the time it ends at.
-/

universe u v w

namespace EventMachine

variable {State : Type u} {Event : Type v} {K : Type w}
  [AddCommGroup K] [LinearOrder K] [IsOrderedAddMonoid K]

/-- Time passes in pieces of any size, and only its sum matters. -/
structure TimeFlow (machine : EventMachine State Event) (support : State → Prop)
    (lapse : K → Event) (duration? : Event → Option K) : Prop where
  supported : machine.Invariant support
  isLapse : ∀ {event seconds}, duration? event = some seconds → event = lapse seconds
  admits_iff : ∀ state seconds, machine.Admits state (lapse seconds) ↔ 0 ≤ seconds
  zero : ∀ {state}, support state → machine.next state (lapse 0) = state
  add : ∀ {state first second}, support state → 0 ≤ first → 0 ≤ second →
    machine.next (machine.next state (lapse first)) (lapse second) =
      machine.next state (lapse (first + second))

/-- The events that do not only let time pass, with the times they arrive at. -/
def schedule (duration? : Event → Option K) (now : K) : List Event → List (K × Event)
  | [] => []
  | event :: rest =>
      match duration? event with
      | some seconds => schedule duration? (now + seconds) rest
      | none => (now, event) :: schedule duration? now rest

/-- The time a run ends at. -/
def finish (duration? : Event → Option K) (now : K) : List Event → K
  | [] => now
  | event :: rest => finish duration? (now + (duration? event).getD 0) rest

/-- Carry out a schedule, letting time pass in one piece between its events. -/
def play (machine : EventMachine State Event) (lapse : K → Event) (state : State) (now : K) :
    List (K × Event) → K → State
  | [], finish => machine.next state (lapse (finish - now))
  | (time, event) :: rest, finish =>
      machine.play lapse (machine.next (machine.next state (lapse (time - now))) event) time rest
        finish

variable {machine : EventMachine State Event} {support : State → Prop} {lapse : K → Event}
  {duration? : Event → Option K}

/-- The time at which a schedule first asks for something. -/
def firstTime (events : List (K × Event)) (finish : K) : K :=
  match events with
  | [] => finish
  | (time, _) :: _ => time

/-- Nothing is scheduled before the run begins. -/
theorem TimeFlow.le_firstTime (flow : machine.TimeFlow support lapse duration?) {state : State}
    {events : List Event} (admissible : machine.Admissible state events) (now : K) :
    now ≤ firstTime (schedule duration? now events) (finish duration? now events) := by
  induction events generalizing state now with
  | nil => exact le_rfl
  | cons event rest inductionHypothesis =>
      cases passes : duration? event with
      | none => simp [schedule, passes, firstTime]
      | some seconds =>
          have forward : 0 ≤ seconds := by
            have admits := admissible.1
            rw [flow.isLapse passes] at admits
            exact (flow.admits_iff state seconds).mp admits
          have later := inductionHypothesis admissible.2 (now + seconds)
          simp only [schedule, finish, passes, Option.getD_some]
          exact (le_add_of_nonneg_right forward).trans later

/-- Time that passes before a schedule is carried out is part of it. -/
theorem TimeFlow.play_lapse (flow : machine.TimeFlow support lapse duration?) {state : State}
    (supported : support state) {seconds : K} (forward : 0 ≤ seconds) (now : K)
    (events : List (K × Event)) (finish : K)
    (notBefore : now + seconds ≤ firstTime events finish) :
    machine.play lapse (machine.next state (lapse seconds)) (now + seconds) events finish =
      machine.play lapse state now events finish := by
  have merge : ∀ time, now + seconds ≤ time →
      machine.next (machine.next state (lapse seconds)) (lapse (time - (now + seconds))) =
        machine.next state (lapse (time - now)) := by
    intro time after
    rw [flow.add supported forward (sub_nonneg.mpr after)]
    congr 2
    abel
  cases events with
  | nil => exact merge finish notBefore
  | cons head rest =>
      obtain ⟨time, event⟩ := head
      rw [play, merge time notBefore, play]

/-- A run carries out its schedule. -/
theorem TimeFlow.run_eq_play (flow : machine.TimeFlow support lapse duration?) {state : State}
    (supported : support state) {events : List Event}
    (admissible : machine.Admissible state events) (now : K) :
    machine.run state events =
      machine.play lapse state now (schedule duration? now events)
        (finish duration? now events) := by
  induction events generalizing state now with
  | nil =>
      rw [schedule, finish, play, sub_self, flow.zero supported]
      rfl
  | cons event rest inductionHypothesis =>
      have next := inductionHypothesis (flow.supported.preserved supported admissible.1)
        admissible.2
      cases passes : duration? event with
      | none =>
          simp only [schedule, finish, passes, Option.getD_none, add_zero]
          rw [play, sub_self, flow.zero supported, run_cons, next now]
      | some seconds =>
          have isLapse := flow.isLapse passes
          have admits := admissible.1
          rw [isLapse] at admits next
          have forward := (flow.admits_iff state seconds).mp admits
          have notBefore := flow.le_firstTime admissible.2 (now + seconds)
          simp only [schedule, finish, passes, Option.getD_some]
          rw [run_cons, isLapse, next (now + seconds)]
          exact flow.play_lapse supported forward now _ _ notBefore

/-- Runs with the same schedule that end at the same time end in the same state. -/
theorem TimeFlow.run_eq (flow : machine.TimeFlow support lapse duration?) {state : State}
    (supported : support state) {events others : List Event}
    (admissible : machine.Admissible state events)
    (otherAdmissible : machine.Admissible state others)
    (sameSchedule : schedule duration? 0 events = schedule duration? 0 others)
    (sameFinish : finish duration? 0 events = finish duration? 0 others) :
    machine.run state events = machine.run state others := by
  rw [flow.run_eq_play supported admissible 0, flow.run_eq_play supported otherAdmissible 0,
    sameSchedule, sameFinish]

end EventMachine
