import Mathlib.Analysis.Complex.Exponential
import RPGLearnGame.Semantics.Accounting

/-!
# Contracting runs

A machine contracts towards a goal when every step leaves at most an exponential part of
the distance to it. The exponents of a run add up, so how far it has come depends on their
sum only, and not on the number of steps it was cut into.
-/

universe u v

namespace EventMachine

variable {State : Type u} {Event : Type v}

/-- Every step leaves at most an exponential part of the distance. -/
structure Contraction (machine : EventMachine State Event) (support : State → Prop)
    (distance : State → ℝ) (exponent : State → Event → ℝ) : Prop where
  supported : machine.Invariant support
  contracts : ∀ {state event}, support state → machine.Admits state event →
    distance (machine.next state event) ≤ Real.exp (-exponent state event) * distance state

/-- A run leaves at most the part of the distance that its exponents add up to. -/
theorem Contraction.run {machine : EventMachine State Event} {support : State → Prop}
    {distance : State → ℝ} {exponent : State → Event → ℝ}
    (contraction : machine.Contraction support distance exponent) {state : State}
    {events : List Event} (supported : support state)
    (admissible : machine.Admissible state events) :
    distance (machine.run state events) ≤
      Real.exp (-machine.total exponent state events) * distance state := by
  induction events generalizing state with
  | nil => simp
  | cons event rest inductionHypothesis =>
      have first := contraction.contracts supported admissible.1
      have later := inductionHypothesis
        (contraction.supported.preserved supported admissible.1) admissible.2
      calc distance (machine.run state (event :: rest))
          ≤ Real.exp (-machine.total exponent (machine.next state event) rest) *
              distance (machine.next state event) := later
        _ ≤ Real.exp (-machine.total exponent (machine.next state event) rest) *
              (Real.exp (-exponent state event) * distance state) := by gcongr
        _ = Real.exp (-machine.total exponent state (event :: rest)) * distance state := by
            rw [total_cons, neg_add_rev, Real.exp_add, mul_assoc]

end EventMachine
