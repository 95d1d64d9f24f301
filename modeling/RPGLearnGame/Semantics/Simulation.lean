import RPGLearnGame.Semantics.EventMachine

/-!
# Simulations between event machines

A simulation reads each concrete state and event as an abstract one and makes
the concrete step commute with the abstract step. Step conditions and state
properties then transport in both directions, so a law proved of the
abstract machine holds of the concrete one without being proved again.

`guarded` strengthens a machine's guard by assumptions about the environment;
its runs are runs of the machine itself.
-/

universe u v u' v'

namespace EventMachine

section Simulation

variable {State : Type u} {Event : Type v} {Abstract : Type u'} {Command : Type v'}

/-- A reading of a concrete machine as an abstract one, step by step. -/
structure Simulation (concrete : EventMachine State Event)
    (abstract : EventMachine Abstract Command) where
  onState : State → Abstract
  onEvent : Event → Command
  admits : ∀ {state event}, concrete.Admits state event →
    abstract.Admits (onState state) (onEvent event)
  next : ∀ state event,
    onState (concrete.next state event) = abstract.next (onState state) (onEvent event)

variable {concrete : EventMachine State Event} {abstract : EventMachine Abstract Command}

/-- A condition on abstract steps reads back as one on concrete steps. -/
theorem Simulation.eachStep_map (simulation : Simulation concrete abstract)
    (condition : Abstract → Command → Prop) (state : State) (events : List Event) :
    abstract.EachStep condition (simulation.onState state) (events.map simulation.onEvent) ↔
      concrete.EachStep
        (fun state event => condition (simulation.onState state) (simulation.onEvent event))
        state events := by
  induction events generalizing state with
  | nil => exact Iff.rfl
  | cons event rest inductionHypothesis =>
      rw [List.map_cons, eachStep_cons, eachStep_cons, ← simulation.next, inductionHypothesis]

/-- A property of abstract states reads back as one of concrete states. -/
theorem Simulation.throughout_map (simulation : Simulation concrete abstract)
    (property : Abstract → Prop) (state : State) (events : List Event) :
    abstract.Throughout property (simulation.onState state) (events.map simulation.onEvent) ↔
      concrete.Throughout (fun state => property (simulation.onState state)) state events := by
  induction events generalizing state with
  | nil => exact Iff.rfl
  | cons event rest inductionHypothesis =>
      rw [List.map_cons, throughout_cons, throughout_cons, ← simulation.next, inductionHypothesis]

/-- Concrete runs are abstract runs. -/
theorem Simulation.admissible_map (simulation : Simulation concrete abstract) {state : State}
    {events : List Event} (admissible : concrete.Admissible state events) :
    abstract.Admissible (simulation.onState state) (events.map simulation.onEvent) :=
  (simulation.eachStep_map abstract.Admits state events).mpr
    (EachStep.mono admissible fun _ _ => simulation.admits)

/-- An exact law of the abstract machine is an exact law of the concrete one. -/
theorem ExactCondition.throughout_iff_of_simulation {support property : Abstract → Prop}
    {condition : Abstract → Command → Prop}
    (law : abstract.ExactCondition support property condition)
    (simulation : Simulation concrete abstract) {state : State} {events : List Event}
    (supported : support (simulation.onState state))
    (holds : property (simulation.onState state))
    (admissible : concrete.Admissible state events) :
    concrete.Throughout (fun state => property (simulation.onState state)) state events ↔
      concrete.EachStep
        (fun state event => condition (simulation.onState state) (simulation.onEvent event))
        state events := by
  rw [← simulation.throughout_map, ← simulation.eachStep_map]
  exact law.throughout_iff supported holds (simulation.admissible_map admissible)

end Simulation

section Guarded

variable {State : Type u} {Event : Type v}

/-- The same machine in an environment that delivers fewer events. -/
def guarded (machine : EventMachine State Event) (guard : State → Event → Prop) :
    EventMachine State Event where
  Admits state event := machine.Admits state event ∧ guard state event
  next := machine.next

instance (machine : EventMachine State Event) (guard : State → Event → Prop)
    [∀ state event, Decidable (machine.Admits state event)]
    [∀ state event, Decidable (guard state event)] (state : State) (event : Event) :
    Decidable ((machine.guarded guard).Admits state event) :=
  inferInstanceAs (Decidable (_ ∧ _))

/-- A guarded machine is simulated by the machine it guards. -/
def Simulation.ofGuarded (machine : EventMachine State Event) (guard : State → Event → Prop) :
    Simulation (machine.guarded guard) machine where
  onState := id
  onEvent := id
  admits := And.left
  next _ _ := rfl

variable {machine : EventMachine State Event} {guard : State → Event → Prop}

@[simp] theorem guarded_next : (machine.guarded guard).next = machine.next := rfl

/-- Guarding does not change where a run leads. -/
@[simp] theorem run_guarded (state : State) (events : List Event) :
    (machine.guarded guard).run state events = machine.run state events := by
  induction events generalizing state with
  | nil => rfl
  | cons event rest inductionHypothesis => exact inductionHypothesis _

/-- Guarding does not change what a step condition says of a run. -/
@[simp] theorem eachStep_guarded (condition : State → Event → Prop) (state : State)
    (events : List Event) :
    (machine.guarded guard).EachStep condition state events ↔
      machine.EachStep condition state events := by
  simpa [Simulation.ofGuarded] using
    ((Simulation.ofGuarded machine guard).eachStep_map condition state events).symm

/-- Guarding does not change what a state property says of a run. -/
@[simp] theorem throughout_guarded (property : State → Prop) (state : State)
    (events : List Event) :
    (machine.guarded guard).Throughout property state events ↔
      machine.Throughout property state events := by
  simpa [Simulation.ofGuarded] using
    ((Simulation.ofGuarded machine guard).throughout_map property state events).symm

/-- An invariant does not need the environment's assumptions. -/
theorem Invariant.guarded {property : State → Prop} (invariant : machine.Invariant property) :
    (machine.guarded guard).Invariant property where
  preserved := fun holds admits => invariant.preserved holds admits.1

/-- An exact law survives in a smaller environment. -/
theorem ExactCondition.guarded {support property : State → Prop}
    {condition : State → Event → Prop}
    (law : machine.ExactCondition support property condition) :
    (machine.guarded guard).ExactCondition support property condition where
  supported := law.supported.guarded
  exact := fun supported holds admits => law.exact supported holds admits.1

end Guarded

end EventMachine
