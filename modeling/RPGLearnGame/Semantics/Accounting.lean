import RPGLearnGame.Semantics.Simulation
import Mathlib.Algebra.Order.Ring.Defs
import Mathlib.Data.Nat.Cast.Basic
import Mathlib.Tactic.Abel
import Mathlib.Tactic.GCongr

/-!
# Accounting along a run

Weights are read off the steps of a run and added up. `Funded` is the rule for
bounding one such sum by another: a credit, kept as a function of the state, pays
for what a step costs beyond its grant, and a step that grants more than it costs
puts the rest into the credit. Over a run, the costs exceed the grants by at most
the credit that was there at the start.
-/

universe u v w

namespace EventMachine

variable {State : Type u} {Event : Type v} {K : Type w}

/-- The sum of a weight over the steps of a run. -/
def total [Add K] [Zero K] (machine : EventMachine State Event) (weight : State → Event → K)
    (state : State) : List Event → K
  | [] => 0
  | event :: rest => weight state event + machine.total weight (machine.next state event) rest

/-- How many steps of a run meet a condition. -/
def count (machine : EventMachine State Event) (condition : State → Event → Prop)
    [∀ state event, Decidable (condition state event)] (state : State) (events : List Event) : ℕ :=
  machine.total (fun state event => if condition state event then 1 else 0) state events

variable {machine : EventMachine State Event}

@[simp] theorem total_nil [Add K] [Zero K] (weight : State → Event → K) (state : State) :
    machine.total weight state [] = 0 := rfl

@[simp] theorem total_cons [Add K] [Zero K] (weight : State → Event → K) (state : State)
    (event : Event) (rest : List Event) :
    machine.total weight state (event :: rest) =
      weight state event + machine.total weight (machine.next state event) rest := rfl

@[simp] theorem count_nil (condition : State → Event → Prop)
    [∀ state event, Decidable (condition state event)] (state : State) :
    machine.count condition state [] = 0 := rfl

@[simp] theorem count_cons (condition : State → Event → Prop)
    [∀ state event, Decidable (condition state event)] (state : State) (event : Event)
    (rest : List Event) :
    machine.count condition state (event :: rest) =
      (if condition state event then 1 else 0) +
        machine.count condition (machine.next state event) rest := rfl

/-- Runs that follow each other add up. -/
theorem total_append [AddMonoid K] (weight : State → Event → K) (state : State)
    (first second : List Event) :
    machine.total weight state (first ++ second) =
      machine.total weight state first + machine.total weight (machine.run state first) second := by
  induction first generalizing state with
  | nil => simp
  | cons event rest inductionHypothesis =>
      rw [List.cons_append, total_cons, inductionHypothesis, total_cons, run_cons, add_assoc]

/-- Guarding does not change what a run adds up to. -/
@[simp] theorem total_guarded [Add K] [Zero K] {guard : State → Event → Prop}
    (weight : State → Event → K) (state : State) (events : List Event) :
    (machine.guarded guard).total weight state events = machine.total weight state events := by
  induction events generalizing state with
  | nil => rfl
  | cons event rest inductionHypothesis =>
      exact congrArg (weight state event + ·) (inductionHypothesis _)

@[simp] theorem count_guarded {guard : State → Event → Prop} (condition : State → Event → Prop)
    [∀ state event, Decidable (condition state event)] (state : State) (events : List Event) :
    (machine.guarded guard).count condition state events =
      machine.count condition state events :=
  total_guarded _ state events

section Ring

variable [Ring K] (weight other : State → Event → K) (state : State) (events : List Event)

/-- Two weights can be added up separately. -/
theorem total_add :
    machine.total (fun state event => weight state event + other state event) state events =
      machine.total weight state events + machine.total other state events := by
  induction events generalizing state with
  | nil => simp
  | cons event rest inductionHypothesis =>
      rw [total_cons, total_cons, total_cons, inductionHypothesis, add_add_add_comm]

/-- A common factor comes out of the sum. -/
theorem total_mul_left (factor : K) :
    machine.total (fun state event => factor * weight state event) state events =
      factor * machine.total weight state events := by
  induction events generalizing state with
  | nil => simp
  | cons event rest inductionHypothesis =>
      rw [total_cons, total_cons, inductionHypothesis, mul_add]

/-- Counting is adding up ones. -/
theorem cast_count (condition : State → Event → Prop)
    [∀ state event, Decidable (condition state event)] :
    (machine.count condition state events : K) =
      machine.total (fun state event => if condition state event then 1 else 0) state events := by
  unfold count
  induction events generalizing state with
  | nil => simp
  | cons event rest inductionHypothesis =>
      rw [total_cons, total_cons, Nat.cast_add, Nat.cast_ite, Nat.cast_one, Nat.cast_zero,
        inductionHypothesis]

/-- What every step adds to a potential adds up to the difference it makes over the
run. -/
theorem total_telescope {support : State → Prop} (supported : machine.Invariant support)
    (potential : State → K)
    (gains : ∀ {state event}, support state → machine.Admits state event →
      weight state event = potential (machine.next state event) - potential state)
    {state : State} {events : List Event} (holds : support state)
    (admissible : machine.Admissible state events) :
    machine.total weight state events = potential (machine.run state events) - potential state := by
  induction events generalizing state with
  | nil => simp
  | cons event rest inductionHypothesis =>
      have later := inductionHypothesis (supported.preserved holds admissible.1) admissible.2
      rw [total_cons, gains holds admissible.1, later, run_cons]
      abel

end Ring

section Ordered

variable [Ring K] [LinearOrder K] [IsStrictOrderedRing K] {weight : State → Event → K}

theorem total_nonneg (nonneg : ∀ state event, 0 ≤ weight state event) (state : State)
    (events : List Event) : 0 ≤ machine.total weight state events := by
  induction events generalizing state with
  | nil => exact le_rfl
  | cons event rest inductionHypothesis =>
      exact add_nonneg (nonneg state event) (inductionHypothesis _)

/-- Weights that are not negative add up to zero exactly when each of them is zero. -/
theorem total_eq_zero_iff (nonneg : ∀ state event, 0 ≤ weight state event) (state : State)
    (events : List Event) :
    machine.total weight state events = 0 ↔
      machine.EachStep (fun state event => weight state event = 0) state events := by
  induction events generalizing state with
  | nil => exact iff_of_true rfl trivial
  | cons event rest inductionHypothesis =>
      rw [total_cons, eachStep_cons, ← inductionHypothesis]
      exact add_eq_zero_iff_of_nonneg (nonneg state event) (total_nonneg nonneg _ rest)

/-- A potential that falls by at most a weight at every step falls by at most the sum of
the weights over a run. -/
theorem potential_le_total (weight : State → Event → K) {support : State → Prop}
    (supported : machine.Invariant support) (potential : State → K)
    (falls : ∀ {state event}, support state → machine.Admits state event →
      potential state ≤ potential (machine.next state event) + weight state event)
    {state : State} {events : List Event} (holds : support state)
    (admissible : machine.Admissible state events) :
    potential state ≤ potential (machine.run state events) + machine.total weight state events := by
  induction events generalizing state with
  | nil => simp
  | cons event rest inductionHypothesis =>
      have here := falls holds admissible.1
      have later := inductionHypothesis (supported.preserved holds admissible.1) admissible.2
      calc potential state
          ≤ potential (machine.next state event) + weight state event := here
        _ ≤ potential (machine.run (machine.next state event) rest) +
              machine.total weight (machine.next state event) rest + weight state event := by
            gcongr
        _ = potential (machine.run state (event :: rest)) +
              machine.total weight state (event :: rest) := by
            rw [run_cons, total_cons, add_assoc, add_comm (machine.total _ _ _)]

end Ordered

/-- Every step pays its cost from its grant and from the credit of the state. -/
structure Funded [Ring K] [LinearOrder K] (machine : EventMachine State Event)
    (support : State → Prop) (cost grant : State → Event → K) (credit : State → K) : Prop where
  supported : machine.Invariant support
  nonneg : ∀ {state}, support state → 0 ≤ credit state
  pays : ∀ {state event}, support state → machine.Admits state event →
    cost state event + credit (machine.next state event) ≤ grant state event + credit state

/-- Over a run, the costs stay within the grants and the credit at the start. -/
theorem Funded.total_le [Ring K] [LinearOrder K] [IsStrictOrderedRing K]
    {support : State → Prop} {cost grant : State → Event → K} {credit : State → K}
    (funded : machine.Funded support cost grant credit)
    {state : State} {events : List Event} (supported : support state)
    (admissible : machine.Admissible state events) :
    machine.total cost state events ≤ machine.total grant state events + credit state := by
  induction events generalizing state with
  | nil => simpa using funded.nonneg supported
  | cons event rest inductionHypothesis =>
      have paid := funded.pays supported admissible.1
      have later := inductionHypothesis (funded.supported.preserved supported admissible.1)
        admissible.2
      calc machine.total cost state (event :: rest)
          = cost state event + machine.total cost (machine.next state event) rest := rfl
        _ ≤ cost state event + (machine.total grant (machine.next state event) rest +
              credit (machine.next state event)) := by gcongr
        _ = machine.total grant (machine.next state event) rest +
              (cost state event + credit (machine.next state event)) := add_left_comm _ _ _
        _ ≤ machine.total grant (machine.next state event) rest +
              (grant state event + credit state) := by gcongr
        _ = machine.total grant state (event :: rest) + credit state := by
            rw [total_cons, add_left_comm, add_assoc]

end EventMachine
