import Mathlib.Data.List.Count
import Mathlib.Data.List.Nodup

/-!
# Input bindings

The six input actions, the trigger events that an enhanced input component delivers, and
the callbacks that `SetupPlayerInputComponent` binds to them. An input component keeps
its bindings apart: no action and trigger event are bound twice, so every input comes to
one callback at most.
-/

namespace RPGLearnGame

/-- The input actions of the character. -/
inductive InputAction where
  | jumpAction
  | moveAction
  | lookAction
  | crouchAction
  | sprintAction
  | vaultAction
deriving DecidableEq, Repr

/-- `ETriggerEvent`. -/
inductive ETriggerEvent where
  | none
  | triggered
  | started
  | ongoing
  | canceled
  | completed
deriving DecidableEq, Repr

/-- The callbacks that inputs are bound to. -/
inductive Handler where
  | jump
  | stopJumping
  | move
  | look
  | startCrouch
  | stopCrouch
  | startSprint
  | stopSprint
  | vault
deriving DecidableEq, Repr

/-- One `BindAction`. -/
structure Binding where
  action : InputAction
  triggerEvent : ETriggerEvent
  handler : Handler
deriving DecidableEq, Repr

/-- What a binding listens to. -/
def Binding.input (binding : Binding) : InputAction × ETriggerEvent :=
  (binding.action, binding.triggerEvent)

/-- The bindings of a pawn's input component. -/
structure InputComponent where
  bindings : List Binding := []
  /-- Nothing is bound twice. -/
  distinct : (bindings.map Binding.input).Nodup := by decide

namespace InputComponent

/-- An input component before anything is bound. -/
def unbound : InputComponent := {}

/-- `SetupPlayerInputComponent`: all bindings on an enhanced input component, and an error
message and none on any other. -/
def setupPlayerInputComponent (isEnhancedInputComponent : Bool) : InputComponent :=
  if isEnhancedInputComponent then
    { bindings := [
        ⟨.jumpAction, .started, .jump⟩,
        ⟨.jumpAction, .completed, .stopJumping⟩,
        ⟨.moveAction, .triggered, .move⟩,
        ⟨.lookAction, .triggered, .look⟩,
        ⟨.crouchAction, .started, .startCrouch⟩,
        ⟨.crouchAction, .completed, .stopCrouch⟩,
        ⟨.sprintAction, .started, .startSprint⟩,
        ⟨.sprintAction, .completed, .stopSprint⟩,
        ⟨.vaultAction, .triggered, .vault⟩] }
  else unbound

/-- The callbacks bound to an input. -/
def handlers (component : InputComponent) (action : InputAction) (triggerEvent : ETriggerEvent) :
    List Handler :=
  (component.bindings.filter fun binding => binding.input == (action, triggerEvent)).map
    Binding.handler

/-- A bound callback comes from a binding of the input. -/
theorem mem_handlers {component : InputComponent} {action : InputAction}
    {triggerEvent : ETriggerEvent} {handler : Handler}
    (bound : handler ∈ component.handlers action triggerEvent) :
    ⟨action, triggerEvent, handler⟩ ∈ component.bindings := by
  obtain ⟨binding, member, rfl⟩ := List.mem_map.mp bound
  obtain ⟨listed, listens⟩ := List.mem_filter.mp member
  obtain ⟨rfl, rfl⟩ := Prod.mk.inj (eq_of_beq listens)
  exact listed

/-- An input comes to no callback or to one. -/
theorem handlers_cases (component : InputComponent) (action : InputAction)
    (triggerEvent : ETriggerEvent) :
    component.handlers action triggerEvent = [] ∨
      ∃ handler, component.handlers action triggerEvent = [handler] ∧
        ⟨action, triggerEvent, handler⟩ ∈ component.bindings := by
  have once := List.nodup_iff_count_le_one.mp component.distinct (action, triggerEvent)
  have counted : (component.handlers action triggerEvent).length =
      (component.bindings.map Binding.input).count (action, triggerEvent) := by
    rw [handlers, List.length_map, List.count, List.countP_map, List.countP_eq_length_filter]
    rfl
  rw [← counted] at once
  cases bound : component.handlers action triggerEvent with
  | nil => exact .inl rfl
  | cons handler others =>
      rw [bound, List.length_cons] at once
      have alone : others = [] := List.length_eq_zero_iff.mp (by omega)
      refine .inr ⟨handler, by rw [alone], mem_handlers ?_⟩
      rw [bound]
      exact List.mem_cons_self

end InputComponent

end RPGLearnGame
