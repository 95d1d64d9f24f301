import RPGLearnGame.Semantics.EventMachine

/-!
# Registers

A register is a part of the state that every event either overwrites or leaves alone. What
an event writes is its own affair, so after a run the register holds the last value that
was written to it, whatever else the machine was doing.
-/

universe u v w

namespace EventMachine

variable {State : Type u} {Event : Type v} {Value : Type w}

/-- The last value that the events write. -/
def lastWritten (write : Event → Option Value) : List Event → Option Value
  | [] => none
  | event :: rest => (lastWritten write rest).or (write event)

section LastWritten

variable {write : Event → Option Value}

@[simp] theorem lastWritten_nil : lastWritten write [] = none := rfl

@[simp] theorem lastWritten_cons (event : Event) (rest : List Event) :
    lastWritten write (event :: rest) = (lastWritten write rest).or (write event) := rfl

/-- A split of a list that is not empty puts its middle at the head or behind it. -/
theorem exists_split_cons_iff {property : Event → List Event → Prop} (event : Event)
    (rest : List Event) :
    (∃ before middle after, event :: rest = before ++ middle :: after ∧ property middle after) ↔
      property event rest ∨
        ∃ before middle after, rest = before ++ middle :: after ∧ property middle after := by
  constructor
  · rintro ⟨before, middle, after, split, holds⟩
    rcases List.cons_eq_append_iff.mp split with ⟨rfl, same⟩ | ⟨earlier, rfl, tail⟩
    · obtain ⟨rfl, rfl⟩ := List.cons.inj same
      exact .inl holds
    · exact .inr ⟨earlier, middle, after, tail, holds⟩
  · rintro (holds | ⟨before, middle, after, rfl, holds⟩)
    · exact ⟨[], event, rest, rfl, holds⟩
    · exact ⟨event :: before, middle, after, rfl, holds⟩

/-- A flag is up after it was raised and not lowered again, or when it was up from the start
and never lowered. -/
theorem lastWritten_getD_true_iff (flag : Event → Option Bool) (initially : Bool)
    (events : List Event) :
    (lastWritten flag events).getD initially = true ↔
      (∃ before event after, events = before ++ event :: after ∧ flag event = some true ∧
          ∀ later ∈ after, flag later ≠ some false) ∨
        initially = true ∧ ∀ event ∈ events, flag event ≠ some false := by
  induction events generalizing initially with
  | nil => simp
  | cons event rest inductionHypothesis =>
      have later : (lastWritten flag (event :: rest)).getD initially =
          (lastWritten flag rest).getD ((flag event).getD initially) := by
        rw [lastWritten_cons]
        cases lastWritten flag rest <;> rfl
      rw [later, inductionHypothesis, exists_split_cons_iff, List.forall_mem_cons]
      cases written : flag event with
      | none => simp
      | some value =>
          cases value with
          | true =>
              simp only [Option.getD_some, true_and]
              rw [or_comm]
              exact (or_iff_left_of_imp fun kept => .inl kept.2.2).symm
          | false => simp

end LastWritten

/-- A part of the state that an event overwrites with a value of its own, or leaves alone. -/
structure Register (machine : EventMachine State Event) (read : State → Value)
    (write : Event → Option Value) : Prop where
  written : ∀ state event, read (machine.next state event) = (write event).getD (read state)

/-- After a run a register holds the last value written, or what it held at the start. -/
theorem Register.run {machine : EventMachine State Event} {read : State → Value}
    {write : Event → Option Value} (register : machine.Register read write) (state : State)
    (events : List Event) :
    read (machine.run state events) = (lastWritten write events).getD (read state) := by
  induction events generalizing state with
  | nil => rfl
  | cons event rest inductionHypothesis =>
      rw [run_cons, inductionHypothesis, register.written, lastWritten_cons]
      cases lastWritten write rest <;> rfl

end EventMachine
