import RPGLearnGame.Semantics.Accounting

/-!
# One part of a machine

A machine that is built from several parts is read one part at a time. `Refinement`
names, for each step of the whole, the commands it gives to the part: none when the
step does not concern it. The commands of a run make a run of the part, so a law of
the part is a law of the whole. When no step gives more than one command, the part is
seen in every state it passes through and the law comes back as an equivalence.
-/

universe u v u' v' w

namespace EventMachine

variable {State : Type u} {Event : Type v} {Part : Type u'} {Command : Type v'}

/-- How the steps of a machine drive one part of it. -/
structure Refinement (whole : EventMachine State Event) (part : EventMachine Part Command) where
  onState : State → Part
  onStep : State → Event → List Command
  next : ∀ state event,
    onState (whole.next state event) = part.run (onState state) (onStep state event)

namespace Refinement

variable {whole : EventMachine State Event} {part : EventMachine Part Command}
  (refinement : Refinement whole part)

/-- The commands that a run gives to the part. -/
def trace (state : State) : List Event → List Command
  | [] => []
  | event :: rest => refinement.onStep state event ++ trace (whole.next state event) rest

/-- The part after a run is the part after the commands of the run. -/
theorem run_trace (state : State) (events : List Event) :
    part.run (refinement.onState state) (refinement.trace state events) =
      refinement.onState (whole.run state events) := by
  induction events generalizing state with
  | nil => rfl
  | cons event rest inductionHypothesis =>
      rw [trace, run_append, ← refinement.next, inductionHypothesis, run_cons]

/-- A condition on the steps of the part, read off the steps of the whole. -/
theorem eachStep_trace_iff (condition : Part → Command → Prop) (state : State)
    (events : List Event) :
    part.EachStep condition (refinement.onState state) (refinement.trace state events) ↔
      whole.EachStep
        (fun state event =>
          part.EachStep condition (refinement.onState state) (refinement.onStep state event))
        state events := by
  induction events generalizing state with
  | nil => exact Iff.rfl
  | cons event rest inductionHypothesis =>
      rw [trace, eachStep_append, ← refinement.next, inductionHypothesis, eachStep_cons]

/-- The commands of a run are admitted when those of each of its steps are. -/
theorem admissible_trace {support : State → Prop} (supported : whole.Invariant support)
    (admits : ∀ {state event}, support state → whole.Admits state event →
      part.Admissible (refinement.onState state) (refinement.onStep state event))
    {state : State} {events : List Event} (holds : support state)
    (admissible : whole.Admissible state events) :
    part.Admissible (refinement.onState state) (refinement.trace state events) := by
  rw [Admissible, eachStep_trace_iff]
  exact (supported.throughout holds admissible).eachStep admissible fun _ _ => admits

/-- A sum over the part, added up along the whole. -/
theorem total_trace {K : Type w} [AddMonoid K] (weight : Part → Command → K) (state : State)
    (events : List Event) :
    part.total weight (refinement.onState state) (refinement.trace state events) =
      whole.total
        (fun state event =>
          part.total weight (refinement.onState state) (refinement.onStep state event))
        state events := by
  induction events generalizing state with
  | nil => rfl
  | cons event rest inductionHypothesis =>
      rw [trace, total_append, ← refinement.next, inductionHypothesis, total_cons]

/-- No step gives more than one command. -/
def Single : Prop := ∀ state event, (refinement.onStep state event).length ≤ 1

/-- The part passes through the states that the whole shows of it, and no others. -/
theorem throughout_trace_iff (single : refinement.Single) (property : Part → Prop)
    (state : State) (events : List Event) :
    part.Throughout property (refinement.onState state) (refinement.trace state events) ↔
      whole.Throughout (fun state => property (refinement.onState state)) state events := by
  induction events generalizing state with
  | nil => exact Iff.rfl
  | cons event rest inductionHypothesis =>
      have atMostOne := single state event
      have after := refinement.next state event
      rw [trace, throughout_cons, ← inductionHypothesis]
      cases commands : refinement.onStep state event with
      | nil =>
          rw [commands, run_nil] at after
          rw [List.nil_append, after]
          exact ⟨fun holds => ⟨holds.start, holds⟩, And.right⟩
      | cons command others =>
          have last : others = [] := by
            rw [commands, List.length_cons] at atMostOne
            exact List.length_eq_zero_iff.mp (by omega)
          rw [commands, last, run_cons, run_nil] at after
          rw [last, List.singleton_append, throughout_cons, after]

/-- An exact law of the part is an exact law of the whole. -/
theorem throughout_iff_of_law {supported property : Part → Prop}
    {condition : Part → Command → Prop} (single : refinement.Single)
    (law : part.ExactCondition supported property condition) {state : State}
    {events : List Event} (partSupported : supported (refinement.onState state))
    (holds : property (refinement.onState state))
    (admissible : part.Admissible (refinement.onState state) (refinement.trace state events)) :
    whole.Throughout (fun state => property (refinement.onState state)) state events ↔
      whole.EachStep
        (fun state event =>
          part.EachStep condition (refinement.onState state) (refinement.onStep state event))
        state events := by
  rw [← refinement.throughout_trace_iff single, ← eachStep_trace_iff]
  exact law.throughout_iff partSupported holds admissible

end Refinement

end EventMachine
