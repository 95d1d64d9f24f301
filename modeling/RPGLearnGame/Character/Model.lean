import RPGLearnGame.Engine.Gameplay
import RPGLearnGame.Stats.Component

/-!
# The character

`RPGLearnGameCharacter` reacts to two keys, two periodic timers, damage and the
frame tick. Each callback of the source is a function from the character before
it to the character after it.

`maxWalkSpeed` belongs to the movement component and `bIsCrouched` to the engine:
`crouch` and `unCrouch` only state a wish, and a later `movementUpdate` makes
`bIsCrouched` follow it. `isCrouching` is the character's own flag.
-/

namespace RPGLearnGame

/-- The state of `ARPGLearnGameCharacter` that its callbacks read or write. -/
structure RPGLearnGameCharacter where
  /-- `GetCharacterMovement()->MaxWalkSpeed`. -/
  maxWalkSpeed : ℚ
  currentWalkSpeed : ℚ
  maxWalkSpeedCrouched : ℚ
  isCrouching : Bool
  canSprint : Bool
  isSprinting : Bool
  /-- Arms `DrainStamina`. -/
  sprintTime : TimerHandle
  /-- Arms `RestoreStamina`. -/
  restoreTime : TimerHandle
  /-- The engine's record of the last `Crouch()` or `UnCrouch()`. -/
  bWantsToCrouch : Bool
  bIsCrouched : Bool
  playerStats : PlayerStatsComponent
  crouchCameraDistance : Option CurveFloat
  crouchTimeline : Timeline
  /-- `CameraBoom->TargetArmLength`. -/
  targetArmLength : ℚ
  /-- Cleared by `DisableInput`. -/
  inputEnabled : Bool
  /-- Set by `GetMesh()->SetSimulatePhysics(true)`. -/
  simulatesPhysics : Bool

namespace RPGLearnGameCharacter

/-- The constructor, with the configured stats and camera curve. -/
def construct (playerStats : PlayerStatsComponent := {})
    (crouchCameraDistance : Option CurveFloat := none) : RPGLearnGameCharacter where
  maxWalkSpeed := 500
  currentWalkSpeed := 500
  maxWalkSpeedCrouched := 350
  isCrouching := false
  canSprint := true
  isSprinting := false
  sprintTime := none
  restoreTime := none
  bWantsToCrouch := false
  bIsCrouched := false
  playerStats
  crouchCameraDistance
  crouchTimeline := {}
  targetArmLength := 400
  inputEnabled := true
  simulatesPhysics := false

/-- `BeginPlay`: give the timeline its track and arm `RestoreTime` unless the
character is sprinting. -/
def beginPlay (character : RPGLearnGameCharacter) : RPGLearnGameCharacter :=
  let character :=
    { character with
      crouchTimeline :=
        { character.crouchTimeline with interpFloat := character.crouchCameraDistance } }
  if !character.isSprinting then
    { character with restoreTime := character.restoreTime.setTimer 1 true }
  else
    { character with restoreTime := character.restoreTime.clearTimer }

/-- The camera distance is a lerp from 400 to 500. -/
def onCrouchTimelineUpdate (character : RPGLearnGameCharacter) (value : ℚ) :
    RPGLearnGameCharacter :=
  { character with targetArmLength := lerp 400 500 value }

/-- Drive the crouch timeline and run the update delegate if it is called. -/
def driveTimeline (character : RPGLearnGameCharacter) (update : Timeline.Update) :
    RPGLearnGameCharacter :=
  let character := { character with crouchTimeline := update.timeline }
  match update.value with
  | some value => character.onCrouchTimelineUpdate value
  | none => character

def tick (character : RPGLearnGameCharacter) (deltaTime : ℚ) : RPGLearnGameCharacter :=
  character.driveTimeline (character.crouchTimeline.tickTimeline deltaTime)

/-- `ACharacter::Crouch`. -/
def crouch (character : RPGLearnGameCharacter) : RPGLearnGameCharacter :=
  { character with bWantsToCrouch := true }

/-- `ACharacter::UnCrouch`. -/
def unCrouch (character : RPGLearnGameCharacter) : RPGLearnGameCharacter :=
  { character with bWantsToCrouch := false }

/-- A movement update of the engine: `bIsCrouched` follows the last wish. -/
def movementUpdate (character : RPGLearnGameCharacter) : RPGLearnGameCharacter :=
  { character with bIsCrouched := character.bWantsToCrouch }

def startCrouch (character : RPGLearnGameCharacter) : RPGLearnGameCharacter :=
  let character := { character with isCrouching := true }
  let character := character.crouch
  let character := { character with maxWalkSpeed := character.maxWalkSpeedCrouched }
  character.driveTimeline character.crouchTimeline.playFromStart

def stopCrouch (character : RPGLearnGameCharacter) : RPGLearnGameCharacter :=
  let character := { character with isCrouching := false }
  let character := character.unCrouch
  let character := { character with maxWalkSpeed := character.currentWalkSpeed }
  character.driveTimeline character.crouchTimeline.reverseFromEnd

def startSprint (character : RPGLearnGameCharacter) : RPGLearnGameCharacter :=
  if character.canSprint && !character.bIsCrouched then
    { character with
      maxWalkSpeed := 750
      sprintTime := character.sprintTime.setTimer (1 / 10) true }
  else character

def stopSprint (character : RPGLearnGameCharacter) : RPGLearnGameCharacter :=
  { character with
    maxWalkSpeed := 500
    sprintTime := character.sprintTime.clearTimer
    isSprinting := false }

def drainStamina (character : RPGLearnGameCharacter) : RPGLearnGameCharacter :=
  if character.canSprint then
    let result := character.playerStats.decreaseStamina 1
    { character with
      playerStats := result.stats
      canSprint := !result.isPlayerDead
      isSprinting := !result.isPlayerDead }
  else { character with maxWalkSpeed := 500 }

def restoreStamina (character : RPGLearnGameCharacter) : RPGLearnGameCharacter :=
  { character with playerStats := (character.playerStats.increaseStamina 1).stats }

/-- `DisableInput` and the ragdoll. -/
def die (character : RPGLearnGameCharacter) : RPGLearnGameCharacter :=
  { character with inputEnabled := false, simulatesPhysics := true }

/-- `TakeDamage` with its return value. -/
def takeDamage (character : RPGLearnGameCharacter) (damageAmount : ℚ) :
    RPGLearnGameCharacter × ℚ :=
  let result := character.playerStats.decreaseHealth damageAmount
  let character := { character with playerStats := result.stats }
  let character := if result.isPlayerDead then character.die else character
  (character, damageAmount)

end RPGLearnGameCharacter

end RPGLearnGame
