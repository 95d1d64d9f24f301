import Mathlib.Tactic.Tauto

/-!
# Runs of event-driven machines

An event machine is driven from outside. Callbacks arrive one at a time; a
guard says which of them may arrive in which state, and every delivered event
has exactly one next state. A run is a list of events, each admitted where it
arrives.

`Invariant` is the usual inductive rule. `ExactCondition` is its counterpart
for a property that the machine does not keep: it names, for each step, the
condition under which the property survives that step, and
`ExactCondition.throughout_iff` lifts this to whole runs. The property then
holds in every state of a run exactly when every step of the run meets its
condition, so the condition is neither too weak nor too strong.
-/

universe u v

/-- A guarded deterministic machine driven by external events. -/
structure EventMachine (State : Type u) (Event : Type v) where
  /-- The events the environment may deliver in a state. -/
  Admits : State → Event → Prop
  /-- The state after one delivered event. -/
  next : State → Event → State

namespace EventMachine

variable {State : Type u} {Event : Type v}

/-- The state after a finite list of events, whether or not they are admitted. -/
def run (machine : EventMachine State Event) (state : State) : List Event → State
  | [] => state
  | event :: rest => machine.run (machine.next state event) rest

/-- Every event of the list meets the condition in the state it arrives in. -/
def EachStep (machine : EventMachine State Event) (condition : State → Event → Prop)
    (state : State) : List Event → Prop
  | [] => True
  | event :: rest =>
      condition state event ∧ machine.EachStep condition (machine.next state event) rest

/-- The property holds in every state of the run, both ends included. -/
def Throughout (machine : EventMachine State Event) (property : State → Prop)
    (state : State) : List Event → Prop
  | [] => property state
  | event :: rest => property state ∧ machine.Throughout property (machine.next state event) rest

/-- A run of the machine: each event is admitted where it arrives. -/
def Admissible (machine : EventMachine State Event) (state : State) (events : List Event) : Prop :=
  machine.EachStep machine.Admits state events

instance decidableEachStep (machine : EventMachine State Event)
    (condition : State → Event → Prop)
    [∀ state event, Decidable (condition state event)] :
    ∀ state events, Decidable (machine.EachStep condition state events)
  | _, [] => inferInstanceAs (Decidable True)
  | state, event :: rest =>
      have := decidableEachStep machine condition (machine.next state event) rest
      inferInstanceAs (Decidable (condition state event ∧ _))

instance decidableThroughout (machine : EventMachine State Event) (property : State → Prop)
    [∀ state, Decidable (property state)] :
    ∀ state events, Decidable (machine.Throughout property state events)
  | state, [] => inferInstanceAs (Decidable (property state))
  | state, event :: rest =>
      have := decidableThroughout machine property (machine.next state event) rest
      inferInstanceAs (Decidable (property state ∧ _))

instance decidableAdmissible (machine : EventMachine State Event)
    [∀ state event, Decidable (machine.Admits state event)]
    (state : State) (events : List Event) : Decidable (machine.Admissible state events) :=
  inferInstanceAs (Decidable (machine.EachStep machine.Admits state events))

variable {machine : EventMachine State Event}

@[simp] theorem run_nil (state : State) : machine.run state [] = state := rfl

@[simp] theorem run_cons (state : State) (event : Event) (rest : List Event) :
    machine.run state (event :: rest) = machine.run (machine.next state event) rest := rfl

/-- Runs compose at the state where they meet. -/
theorem run_append (state : State) (first second : List Event) :
    machine.run state (first ++ second) = machine.run (machine.run state first) second := by
  induction first generalizing state with
  | nil => rfl
  | cons event rest inductionHypothesis => exact inductionHypothesis (machine.next state event)

section EachStep

variable {condition other : State → Event → Prop}

@[simp] theorem eachStep_nil (state : State) : machine.EachStep condition state [] := trivial

@[simp] theorem eachStep_cons (state : State) (event : Event) (rest : List Event) :
    machine.EachStep condition state (event :: rest) ↔
      condition state event ∧ machine.EachStep condition (machine.next state event) rest :=
  Iff.rfl

/-- A step condition splits along concatenation of event lists. -/
theorem eachStep_append (state : State) (first second : List Event) :
    machine.EachStep condition state (first ++ second) ↔
      machine.EachStep condition state first ∧
        machine.EachStep condition (machine.run state first) second := by
  induction first generalizing state with
  | nil => simp
  | cons event rest inductionHypothesis =>
      simp only [List.cons_append, eachStep_cons, run_cons, inductionHypothesis, and_assoc]

/-- `EachStep` speaks about every event of the list, in the state it arrives in. -/
theorem eachStep_iff (state : State) (events : List Event) :
    machine.EachStep condition state events ↔
      ∀ before event after, events = before ++ event :: after →
        condition (machine.run state before) event := by
  constructor
  · rintro holds before event after rfl
    exact ((eachStep_append state before (event :: after)).mp holds).2.1
  · intro holds
    induction events generalizing state with
    | nil => trivial
    | cons event rest inductionHypothesis =>
        refine ⟨holds [] event rest rfl, inductionHypothesis _ ?_⟩
        rintro before other after rfl
        exact holds (event :: before) other after rfl

/-- A run continued by a run is a run. -/
theorem admissible_append {state : State} {first second : List Event}
    (start : machine.Admissible state first)
    (continuation : machine.Admissible (machine.run state first) second) :
    machine.Admissible state (first ++ second) :=
  (eachStep_append state first second).mpr ⟨start, continuation⟩

/-- A condition that the listed events meet in every state holds at every step. -/
theorem eachStep_of_forall {events : List Event}
    (holds : ∀ event ∈ events, ∀ state, condition state event) (state : State) :
    machine.EachStep condition state events := by
  induction events generalizing state with
  | nil => trivial
  | cons event rest inductionHypothesis =>
      have later : ∀ other ∈ rest, ∀ state, condition state other :=
        fun other member => holds other (List.mem_cons_of_mem _ member)
      exact ⟨holds event List.mem_cons_self state, inductionHypothesis later _⟩

/-- Weaken the condition of every step. -/
theorem EachStep.mono {state : State} {events : List Event}
    (holds : machine.EachStep condition state events)
    (weaken : ∀ state event, condition state event → other state event) :
    machine.EachStep other state events := by
  induction events generalizing state with
  | nil => trivial
  | cons event rest inductionHypothesis =>
      exact ⟨weaken _ _ holds.1, inductionHypothesis holds.2⟩

/-- Equivalent conditions hold at every step of the same runs. -/
theorem eachStep_congr (same : ∀ state event, condition state event ↔ other state event)
    (state : State) (events : List Event) :
    machine.EachStep condition state events ↔ machine.EachStep other state events := by
  constructor
  · exact fun holds => holds.mono fun state event => (same state event).mp
  · exact fun holds => holds.mono fun state event => (same state event).mpr

/-- Two conditions hold at every step exactly when their conjunction does. -/
theorem eachStep_and (state : State) (events : List Event) :
    machine.EachStep (fun state event => condition state event ∧ other state event)
        state events ↔
      machine.EachStep condition state events ∧ machine.EachStep other state events := by
  induction events generalizing state with
  | nil => simp
  | cons event rest inductionHypothesis =>
      simp only [eachStep_cons, inductionHypothesis]
      tauto

end EachStep

section Throughout

variable {property : State → Prop}

@[simp] theorem throughout_nil (state : State) :
    machine.Throughout property state [] ↔ property state := Iff.rfl

@[simp] theorem throughout_cons (state : State) (event : Event) (rest : List Event) :
    machine.Throughout property state (event :: rest) ↔
      property state ∧ machine.Throughout property (machine.next state event) rest :=
  Iff.rfl

/-- The property holds where the run starts. -/
theorem Throughout.start {state : State} {events : List Event}
    (holds : machine.Throughout property state events) : property state := by
  cases events with
  | nil => exact holds
  | cons event rest => exact holds.1

/-- `Throughout` speaks about every state that a prefix of the run reaches. -/
theorem throughout_iff (state : State) (events : List Event) :
    machine.Throughout property state events ↔
      ∀ before after, events = before ++ after → property (machine.run state before) := by
  constructor
  · intro holds before
    induction before generalizing state events with
    | nil => exact fun _ _ => holds.start
    | cons event rest inductionHypothesis =>
        rintro after rfl
        exact inductionHypothesis _ _ holds.2 after rfl
  · intro holds
    induction events generalizing state with
    | nil => exact holds [] [] rfl
    | cons event rest inductionHypothesis =>
        refine ⟨holds [] _ rfl, inductionHypothesis _ ?_⟩
        intro before after split
        exact holds (event :: before) after (by rw [split, List.cons_append])

/-- The property holds where the run ends. -/
theorem Throughout.final {state : State} {events : List Event}
    (holds : machine.Throughout property state events) : property (machine.run state events) :=
  (throughout_iff state events).mp holds events [] (List.append_nil events).symm

/-- Every step of the run leads to a state with the property. -/
theorem Throughout.eachStep_next {state : State} {events : List Event}
    (holds : machine.Throughout property state events) :
    machine.EachStep (fun state event => property (machine.next state event)) state events := by
  induction events generalizing state with
  | nil => trivial
  | cons event rest inductionHypothesis => exact ⟨holds.2.start, inductionHypothesis holds.2⟩

/-- Weaken the property of every state. -/
theorem Throughout.mono {weaker : State → Prop} {state : State} {events : List Event}
    (holds : machine.Throughout property state events)
    (weaken : ∀ state, property state → weaker state) :
    machine.Throughout weaker state events := by
  induction events generalizing state with
  | nil => exact weaken _ holds
  | cons event rest inductionHypothesis =>
      exact ⟨weaken _ holds.1, inductionHypothesis holds.2⟩

/-- What an admitted step does in a state with the property, every step of a
run that keeps the property does. -/
theorem Throughout.eachStep {condition : State → Event → Prop} {state : State}
    {events : List Event} (holds : machine.Throughout property state events)
    (admissible : machine.Admissible state events)
    (step : ∀ state event, property state → machine.Admits state event →
      condition state event) :
    machine.EachStep condition state events := by
  induction events generalizing state with
  | nil => trivial
  | cons event rest inductionHypothesis =>
      exact ⟨step _ _ holds.1 admissible.1, inductionHypothesis holds.2 admissible.2⟩

/-- Every run that breaks off to take an event keeps what the states of the run promise of
it, wherever it takes it, and only if they promise it. -/
theorem throughout_promise_iff {condition : State → Event → Prop} {event : Event}
    (others : ∀ state other, other ≠ event → condition state other) {state : State}
    {events : List Event} (admissible : machine.Admissible state events) :
    machine.Throughout (fun state => machine.Admits state event → condition state event)
        state events ↔
      ∀ before after, events = before ++ after → machine.Admissible state (before ++ [event]) →
        machine.EachStep condition state (before ++ [event]) := by
  rw [throughout_iff]
  constructor
  · rintro promise before after rfl breaksOff
    refine (eachStep_iff state _).mpr fun earlier other later split => ?_
    have admits := (eachStep_iff state _).mp breaksOff earlier other later split
    by_cases same : other = event
    · obtain ⟨rest, rfl⟩ : earlier <+: before := by
        have taken : earlier <+: before ++ [event] := ⟨other :: later, split.symm⟩
        refine List.prefix_of_prefix_length_le taken (List.prefix_append before [event]) ?_
        have lengths := congrArg List.length split
        simp only [List.length_append, List.length_cons, List.length_nil] at lengths
        omega
      rw [same] at admits ⊢
      exact promise earlier (rest ++ after) (List.append_assoc _ _ _) admits
    · exact others _ other same
  · rintro keeps before after rfl admits
    have reached := ((eachStep_append state before after).mp admissible).1
    have kept := keeps before after rfl (admissible_append reached ⟨admits, trivial⟩)
    exact ((eachStep_append state before [event]).mp kept).2.1

end Throughout

/-- A property that every admitted step preserves. -/
structure Invariant (machine : EventMachine State Event) (property : State → Prop) : Prop where
  preserved : ∀ {state event}, property state → machine.Admits state event →
    property (machine.next state event)

/-- An invariant that holds at the start holds in every state of every run. -/
theorem Invariant.throughout {property : State → Prop} (invariant : machine.Invariant property)
    {state : State} {events : List Event} (holds : property state)
    (admissible : machine.Admissible state events) :
    machine.Throughout property state events := by
  induction events generalizing state with
  | nil => exact holds
  | cons event rest inductionHypothesis =>
      exact ⟨holds, inductionHypothesis (invariant.preserved holds admissible.1) admissible.2⟩

/-- What cannot come back once it is lost was never lost if it holds at the end. -/
theorem Invariant.throughout_of_final {property : State → Prop}
    (lost : machine.Invariant fun state => ¬ property state) {state : State}
    {events : List Event} (admissible : machine.Admissible state events)
    (final : property (machine.run state events)) : machine.Throughout property state events := by
  induction events generalizing state with
  | nil => exact final
  | cons event rest inductionHypothesis =>
      have later := inductionHypothesis admissible.2 final
      refine ⟨Classical.byContradiction fun gone => ?_, later⟩
      exact lost.preserved gone admissible.1 later.start

/-- Conditions that agree wherever an invariant holds hold at every step of the same
runs. -/
theorem Invariant.eachStep_iff {property : State → Prop} {condition other : State → Event → Prop}
    (invariant : machine.Invariant property)
    (agree : ∀ {state event}, property state → machine.Admits state event →
      (condition state event ↔ other state event))
    {state : State} {events : List Event} (holds : property state)
    (admissible : machine.Admissible state events) :
    machine.EachStep condition state events ↔ machine.EachStep other state events := by
  have throughout := invariant.throughout holds admissible
  constructor
  · intro met
    have both := (eachStep_and state events).mpr ⟨met, throughout.eachStep admissible
      fun _ _ holds admits => (agree holds admits).mp⟩
    exact both.mono fun _ _ step => step.2 step.1
  · intro met
    have both := (eachStep_and state events).mpr ⟨met, throughout.eachStep admissible
      fun _ _ holds admits => (agree holds admits).mpr⟩
    exact both.mono fun _ _ step => step.2 step.1

/-- When each step either leaves a property as it is or establishes it, the property
holds after a run exactly when it held before or one of the steps established it. -/
theorem Invariant.run_iff_of_refreshed {support property : State → Prop}
    {silent : State → Event → Prop} (supported : machine.Invariant support)
    (refreshed : ∀ {state event}, support state → machine.Admits state event →
      (property (machine.next state event) ↔ (silent state event → property state)))
    {state : State} {events : List Event} (holds : support state)
    (admissible : machine.Admissible state events) :
    property (machine.run state events) ↔
      (machine.EachStep silent state events → property state) := by
  induction events generalizing state with
  | nil => simp
  | cons event rest inductionHypothesis =>
      have here := refreshed holds admissible.1
      have later := inductionHypothesis (supported.preserved holds admissible.1) admissible.2
      rw [run_cons, later, here, eachStep_cons]
      tauto

/-- Invariants combine. -/
theorem Invariant.and {property other : State → Prop} (first : machine.Invariant property)
    (second : machine.Invariant other) :
    machine.Invariant fun state => property state ∧ other state where
  preserved := fun holds admits =>
    ⟨first.preserved holds.1 admits, second.preserved holds.2 admits⟩

/-- The exact condition under which one admitted step keeps a property, in the
presence of an auxiliary invariant. -/
structure ExactCondition (machine : EventMachine State Event) (support property : State → Prop)
    (condition : State → Event → Prop) : Prop where
  supported : machine.Invariant support
  exact : ∀ {state event}, support state → property state → machine.Admits state event →
    (property (machine.next state event) ↔ condition state event)

/-- A property with an exact step condition holds throughout a run exactly when
every step of the run meets the condition. -/
theorem ExactCondition.throughout_iff {support property : State → Prop}
    {condition : State → Event → Prop}
    (law : machine.ExactCondition support property condition)
    {state : State} {events : List Event} (supported : support state) (holds : property state)
    (admissible : machine.Admissible state events) :
    machine.Throughout property state events ↔ machine.EachStep condition state events := by
  induction events generalizing state with
  | nil => exact iff_of_true holds trivial
  | cons event rest inductionHypothesis =>
      have exactHere := law.exact supported holds admissible.1
      have supportedNext := law.supported.preserved supported admissible.1
      constructor
      · rintro ⟨_, later⟩
        have kept := later.start
        exact ⟨exactHere.mp kept,
          (inductionHypothesis supportedNext kept admissible.2).mp later⟩
      · rintro ⟨met, later⟩
        have kept := exactHere.mpr met
        exact ⟨holds, (inductionHypothesis supportedNext kept admissible.2).mpr later⟩

end EventMachine
