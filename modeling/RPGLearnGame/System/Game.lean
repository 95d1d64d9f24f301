import RPGLearnGame.Character.Runs
import RPGLearnGame.Input.Bindings
import RPGLearnGame.Input.Steering
import RPGLearnGame.UI.Widgets
import RPGLearnGame.Vault.Landing

/-!
# The running game

A `Game` is the character with everything attached to it: its stats and locomotion, its
vault component, its steering, its input bindings and the widgets that listen to its
stats. Every event of the engine, of the player and of a Blueprint is one step.

Input takes the way it takes in the source: an action is delivered only while the mapping
context has been added and the pawn's input is enabled, and then to whatever
`SetupPlayerInputComponent` has bound to it.

What the movement component decides by itself comes with the event: the mode that it goes
over to, and whether a movement update leaves the character crouched. It crouches a character
on the ground or in the air that wants to, and may have no room to let one stand up.
-/

namespace RPGLearnGame

open EventMachine
open PlayerStatsComponent (Operation PositiveMaxima)

namespace RPGLearnGameCharacter

/-- What a callback asks of the stats component. -/
def operation? (character : RPGLearnGameCharacter) : Callback → Option Operation
  | .drainStamina => if character.canSprint then some (.decreaseStamina 1) else none
  | .restoreStamina => some (.increaseStamina 1)
  | .takeDamage damageAmount => some (.decreaseHealth damageAmount)
  | .increaseHealth newHealth => some (.increaseHealth newHealth)
  | .increaseMaxHealth newMaxHealth => some (.increaseMaxHealth newMaxHealth)
  | .startCrouch | .stopCrouch | .startSprint | .stopSprint | .movementUpdate | .tick _ => none

/-- The broadcasts of a callback. -/
def broadcasts (character : RPGLearnGameCharacter) (callback : Callback) : List Broadcast :=
  match character.operation? callback with
  | some operation => (character.playerStats.apply operation).broadcasts
  | none => []

/-- A callback changes the stats by the operation it asks for. -/
theorem fire_playerStats (character : RPGLearnGameCharacter) (callback : Callback) :
    (character.fire callback).playerStats =
      match character.operation? callback with
      | some operation => (character.playerStats.apply operation).stats
      | none => character.playerStats := by
  cases callback with
  | startCrouch => rw [fire, startCrouch_eq]; rfl
  | stopCrouch => rw [fire, stopCrouch_eq]; rfl
  | startSprint =>
      obtain ⟨_, _, pressed⟩ := startSprint_frame character
      rw [fire, pressed]
      rfl
  | drainStamina =>
      rw [fire, drainStamina, operation?]
      split
      · rfl
      · rfl
  | tick deltaTime => rw [fire, tick, driveTimeline_eq]; rfl
  | takeDamage damageAmount =>
      simp only [fire, takeDamage]
      split
      · rfl
      · rfl
  | stopSprint | restoreStamina | movementUpdate | increaseHealth | increaseMaxHealth => rfl

end RPGLearnGameCharacter

/-- The character and all that is attached to it. -/
@[ext]
structure Game (K : Type*) where
  character : RPGLearnGameCharacter
  vaulting : Vaulting K
  steering : Steering K
  bPressedJump : Bool := false
  inputComponent : InputComponent := .unbound
  /-- `DefaultMappingContext` has been added. -/
  mapped : Bool := false
  begunPlay : Bool := false
  widgets : Widgets
  /-- The actions that the player is giving. -/
  held : InputAction → Bool := fun _ => false

/-- One step of the game. -/
inductive GameEvent (K : Type*) where
  /-- `BeginPlay`, with a local player behind the controller or without. -/
  | beginPlay (hasLocalPlayer : Bool)
  | setupPlayerInputComponent (isEnhancedInputComponent : Bool)
  /-- `NativeConstruct` of a widget, with the component it finds. -/
  | nativeConstruct (widget : ℕ) (component : Option ActorComponent)
  /-- The player's input, in the surroundings that a vault would find. -/
  | input (action : InputAction) (triggerEvent : ETriggerEvent) (value : FVector2D K)
      (world : World K)
  /-- A timer, a frame or damage. -/
  | character (callback : Callback)
  /-- A movement update, with the crouch it ends in. -/
  | movementUpdate (bIsCrouched : Bool)
  /-- The movement component goes over to another mode, as in a jump or a fall. -/
  | movementMode (movementMode : MovementMode)
  /-- A Blueprint call on the stats. -/
  | operation (operation : Operation)
  | updateHealth
  | updateStamina
  /-- A Blueprint call of `Vault`, or a callback of the montage. -/
  | vaulting (event : VaultEvent K)
  /-- A Blueprint call of `VaultMotionWarp`. -/
  | vaultMotionWarp (world : World K)
  /-- An engine update of the steering, or a change of controller. -/
  | steering (event : Steering.Event K)
  /-- The movement component forgets a jump it has carried out. -/
  | clearJumpInput

namespace Game

variable {K : Type*}

/-- `BeginPlay`, which begins the components' play first. -/
def beginPlay (game : Game K) (hasLocalPlayer : Bool) : Game K :=
  let game :=
    { game with
      widgets := game.widgets.broadcastAll game.character.playerStats.beginPlay.broadcasts
      begunPlay := true }
  let game := if hasLocalPlayer then { game with mapped := true } else game
  { game with character := game.character.beginPlay }

/-- A callback of the character, with the broadcasts of the operation it asks for. -/
def call (game : Game K) (callback : Callback) : Game K :=
  { game with
    character := game.character.fire callback
    widgets := game.widgets.broadcastAll (game.character.broadcasts callback) }

/-- An operation of the stats component, with its broadcasts. -/
def operate (game : Game K) (operation : Operation) : Game K :=
  { game with
    character := { game.character with
      playerStats := (game.character.playerStats.apply operation).stats }
    widgets := game.widgets.broadcastAll (game.character.playerStats.apply operation).broadcasts }

/-- Input reaches the character. -/
def Live (game : Game K) : Prop := game.mapped = true ∧ game.character.inputEnabled = true

instance (game : Game K) : Decidable game.Live := inferInstanceAs (Decidable (_ ∧ _))

/-- What the player is giving after an input. -/
def holding (held : InputAction → Bool) (action : InputAction) :
    ETriggerEvent → InputAction → Bool
  | .started => Function.update held action true
  | .canceled | .completed => Function.update held action false
  | .none | .triggered | .ongoing => held

variable [Field K] [LinearOrder K] [ToFloat K] (trig : SinCos K) (scales : InputScales K)

/-- The callback bound to an input. -/
def handle (value : FVector2D K) (world : World K) (game : Game K) : Handler → Game K
  | .jump => { game with bPressedJump := true }
  | .stopJumping => { game with bPressedJump := false }
  | .move => { game with steering := game.steering.move trig value }
  | .look => { game with steering := game.steering.look scales value }
  | .startCrouch => game.call .startCrouch
  | .stopCrouch => game.call .stopCrouch
  | .startSprint => game.call .startSprint
  | .stopSprint => game.call .stopSprint
  | .vault => { game with vaulting := game.vaulting.vault world }

/-- An input, delivered to the callbacks bound to it. -/
def input (game : Game K) (action : InputAction) (triggerEvent : ETriggerEvent)
    (value : FVector2D K) (world : World K) : Game K :=
  let game := { game with held := holding game.held action triggerEvent }
  if game.Live then
    (game.inputComponent.handlers action triggerEvent).foldl (handle trig scales value world) game
  else game

/-- Callbacks of the character that do not come from its input bindings, from a Blueprint or
from its movement component. -/
def FromEngine : Callback → Prop
  | .drainStamina | .restoreStamina | .tick _ | .takeDamage _ => True
  | .startCrouch | .stopCrouch | .startSprint | .stopSprint | .movementUpdate
  | .increaseHealth _ | .increaseMaxHealth _ => False

/-- The movement component would have the character crouch. -/
def ShouldCrouch (game : Game K) : Prop :=
  game.character.bWantsToCrouch = true ∧
    game.vaulting.owner.movementMode ∈
      [MovementMode.walking, MovementMode.navWalking, MovementMode.falling]

instance (game : Game K) : Decidable game.ShouldCrouch := inferInstanceAs (Decidable (_ ∧ _ ∈ _))

/-- What a movement update can end in: a character that should crouch does, and only one that
was crouched may go on without. -/
def Crouches (game : Game K) (bIsCrouched : Bool) : Prop :=
  (game.ShouldCrouch → bIsCrouched = true) ∧
    (bIsCrouched = true → game.ShouldCrouch ∨ game.character.bIsCrouched = true)

instance (game : Game K) (bIsCrouched : Bool) : Decidable (game.Crouches bIsCrouched) :=
  inferInstanceAs (Decidable ((_ → _) ∧ (_ → _ ∨ _)))

/-- An input that the player can give: a start of what is not held, or anything else about
what is. -/
def Gives (held : InputAction → Bool) (action : InputAction) : ETriggerEvent → Prop
  | .started => held action = false
  | .triggered | .ongoing | .canceled | .completed => held action = true
  | .none => False

instance : (callback : Callback) → Decidable (FromEngine callback)
  | .drainStamina | .restoreStamina | .tick _ | .takeDamage _ => inferInstanceAs (Decidable True)
  | .startCrouch | .stopCrouch | .startSprint | .stopSprint | .movementUpdate
  | .increaseHealth _ | .increaseMaxHealth _ => inferInstanceAs (Decidable False)

instance (held : InputAction → Bool) (action : InputAction) :
    (triggerEvent : ETriggerEvent) → Decidable (Gives held action triggerEvent)
  | .started | .triggered | .ongoing | .canceled | .completed =>
      inferInstanceAs (Decidable (_ = _))
  | .none => inferInstanceAs (Decidable False)

instance (vaulting : Vaulting K) : (event : VaultEvent K) → Decidable (vaulting.Plays event)
  | .vault _ => inferInstanceAs (Decidable True)
  | .montageCompleted | .montageInterrupted => inferInstanceAs (Decidable (_ = _))

/-- The game and all that can happen to it. -/
def playing : EventMachine (Game K) (GameEvent K) where
  Admits
    | game, .beginPlay _ => game.begunPlay = false
    | game, .input action triggerEvent _ _ => Gives game.held action triggerEvent
    | game, .character callback =>
        FromEngine callback ∧
          (callback = .drainStamina → game.character.sprintTime.armed = true) ∧
            (callback = .restoreStamina → game.character.restoreTime.armed = true)
    | game, .movementUpdate bIsCrouched => game.Crouches bIsCrouched
    | _, .movementMode movementMode => movementMode ≠ .flying
    | game, .operation operation =>
        PositiveMaxima (game.character.playerStats.apply operation).stats
    | game, .vaulting event => game.vaulting.Plays event
    | game, .steering event => ¬ game.steering.IsInput event
    | _, .setupPlayerInputComponent _ | _, .nativeConstruct _ _ | _, .updateHealth
    | _, .updateStamina | _, .vaultMotionWarp _ | _, .clearJumpInput => True
  next
    | game, .beginPlay hasLocalPlayer => game.beginPlay hasLocalPlayer
    | game, .setupPlayerInputComponent isEnhancedInputComponent =>
        { game with
          inputComponent := .setupPlayerInputComponent isEnhancedInputComponent }
    | game, .nativeConstruct widget component =>
        { game with widgets := game.widgets.nativeConstruct widget component }
    | game, .input action triggerEvent value world =>
        game.input trig scales action triggerEvent value world
    | game, .character callback => game.call callback
    | game, .movementUpdate bIsCrouched =>
        { game with character := { game.character with bIsCrouched } }
    | game, .movementMode movementMode =>
        { game with vaulting := game.vaulting.setMovementMode movementMode }
    | game, .operation operation => game.operate operation
    | game, .updateHealth =>
        { game with
          widgets := game.widgets.broadcastAll game.character.playerStats.updateHealth }
    | game, .updateStamina =>
        { game with
          widgets := game.widgets.broadcastAll game.character.playerStats.updateStamina }
    | game, .vaulting event => { game with vaulting := Vaulting.vaulting.next game.vaulting event }
    | game, .vaultMotionWarp world =>
        { game with vaulting := game.vaulting.vaultMotionWarp world }
    | game, .steering event =>
        { game with steering := (Steering.steering trig scales).next game.steering event }
    | game, .clearJumpInput => { game with bPressedJump := false }

instance (game : Game K) :
    (event : GameEvent K) → Decidable ((playing trig scales).Admits game event)
  | .beginPlay _ => inferInstanceAs (Decidable (_ = _))
  | .input _ _ _ _ => inferInstanceAs (Decidable (Gives _ _ _))
  | .character _ => inferInstanceAs (Decidable (FromEngine _ ∧ (_ → _) ∧ (_ → _)))
  | .operation _ => inferInstanceAs (Decidable (PositiveMaxima _))
  | .movementUpdate _ => inferInstanceAs (Decidable (Crouches _ _))
  | .movementMode _ => inferInstanceAs (Decidable (_ ≠ _))
  | .vaulting _ => inferInstanceAs (Decidable (Vaulting.Plays _ _))
  | .steering _ => inferInstanceAs (Decidable ¬ Steering.IsInput _ _)
  | .setupPlayerInputComponent _ | .nativeConstruct _ _ | .updateHealth | .updateStamina
  | .vaultMotionWarp _ | .clearJumpInput => inferInstanceAs (Decidable True)

/-- A character as it is constructed, on its feet, not possessed, with nothing listening. -/
def construct (playerStats : PlayerStatsComponent) (curve : Option CurveFloat)
    (vaultComponent : VaultComponent K) (huds : ℕ → RPGHUD) : Game K where
  character := .construct playerStats curve
  vaulting := ⟨vaultComponent, Vaulting.standing, []⟩
  steering := ⟨none, 0⟩
  widgets := { huds }

/-- An input that is not delivered is only held. -/
theorem input_of_not_live {game : Game K} (dead : ¬ game.Live) (action : InputAction)
    (triggerEvent : ETriggerEvent) (value : FVector2D K) (world : World K) :
    game.input trig scales action triggerEvent value world =
      { game with held := holding game.held action triggerEvent } :=
  if_neg dead

/-- An input that is delivered comes to the callbacks bound to it. -/
theorem input_of_live {game : Game K} (live : game.Live) (action : InputAction)
    (triggerEvent : ETriggerEvent) (value : FVector2D K) (world : World K) :
    game.input trig scales action triggerEvent value world =
      (game.inputComponent.handlers action triggerEvent).foldl (handle trig scales value world)
        { game with held := holding game.held action triggerEvent } :=
  if_pos live

/-- An input is held and comes to one bound callback at most. -/
theorem input_cases (game : Game K) (action : InputAction) (triggerEvent : ETriggerEvent)
    (value : FVector2D K) (world : World K) :
    game.input trig scales action triggerEvent value world =
        { game with held := holding game.held action triggerEvent } ∨
      ∃ handler, ⟨action, triggerEvent, handler⟩ ∈ game.inputComponent.bindings ∧
        game.input trig scales action triggerEvent value world =
          handle trig scales value world
            { game with held := holding game.held action triggerEvent } handler := by
  by_cases live : game.Live
  · rw [input_of_live trig scales live]
    rcases game.inputComponent.handlers_cases action triggerEvent with
      unbound | ⟨handler, alone, bound⟩
    · exact .inl (by rw [unbound]; rfl)
    · exact .inr ⟨handler, bound, by rw [alone]; rfl⟩
  · exact .inl (input_of_not_live trig scales live ..)

end Game

end RPGLearnGame
