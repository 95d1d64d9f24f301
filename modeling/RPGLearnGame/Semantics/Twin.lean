import RPGLearnGame.Semantics.EventMachine

/-!
# Two runs side by side

The twin of a machine runs it twice in lockstep, from two starts, and shows the
second run every event through a translation. A property of the twin's states is
a relation between two runs of the machine, so relational laws are proved with
the rules for invariants and exact conditions.
-/

universe u v

namespace EventMachine

variable {State : Type u} {Event : Type v}

/-- Two runs of one machine in lockstep. -/
def twin (machine : EventMachine State Event) (translate : Event → Event) :
    EventMachine (State × State) Event where
  Admits pair event := machine.Admits pair.1 event ∧ machine.Admits pair.2 (translate event)
  next pair event := (machine.next pair.1 event, machine.next pair.2 (translate event))

variable {machine : EventMachine State Event} {translate : Event → Event}

@[simp] theorem twin_next (pair : State × State) (event : Event) :
    (machine.twin translate).next pair event =
      (machine.next pair.1 event, machine.next pair.2 (translate event)) := rfl

/-- A run of the twin is a pair of runs. -/
theorem run_twin (pair : State × State) (events : List Event) :
    (machine.twin translate).run pair events =
      (machine.run pair.1 events, machine.run pair.2 (events.map translate)) := by
  induction events generalizing pair with
  | nil => rfl
  | cons event rest inductionHypothesis =>
      rw [run_cons, inductionHypothesis, List.map_cons, run_cons, run_cons, twin_next]

/-- Two runs make a run of the twin. -/
theorem admissible_twin {pair : State × State} {events : List Event}
    (first : machine.Admissible pair.1 events)
    (second : machine.Admissible pair.2 (events.map translate)) :
    (machine.twin translate).Admissible pair events := by
  induction events generalizing pair with
  | nil => trivial
  | cons event rest inductionHypothesis =>
      exact ⟨⟨first.1, second.1⟩, inductionHypothesis first.2 second.2⟩

/-- A relation holds throughout two runs when it holds after every prefix of the
events. -/
theorem throughout_twin_iff (relation : State → State → Prop) (pair : State × State)
    (events : List Event) :
    (machine.twin translate).Throughout (fun pair => relation pair.1 pair.2) pair events ↔
      ∀ before after, events = before ++ after →
        relation (machine.run pair.1 before) (machine.run pair.2 (before.map translate)) := by
  simp only [throughout_iff, run_twin]

end EventMachine
