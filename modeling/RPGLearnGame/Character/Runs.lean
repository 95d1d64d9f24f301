import RPGLearnGame.Character.Model
import RPGLearnGame.Semantics.Simulation

/-!
# Runs of the character

A session is a character and the two keys its player holds. `callbacks` lets
every callback arrive at any time, except that `DrainStamina` is fired only by
its timer. The other machines are the same machine in smaller environments:
`locomotion` keeps to walking, crouching and sprinting, and `keyed` adds that
each key is released only after it was pressed.
-/

namespace RPGLearnGame

/-- What can happen to a character: input callbacks, timer callbacks, engine
updates, damage and the Blueprint calls on its stats. -/
inductive Callback where
  | startCrouch
  | stopCrouch
  | startSprint
  | stopSprint
  | drainStamina
  | restoreStamina
  | movementUpdate
  | tick (deltaTime : ℚ)
  | takeDamage (damageAmount : ℚ)
  | increaseHealth (newHealth : ℚ)
  | increaseMaxHealth (newMaxHealth : ℚ)
deriving DecidableEq, Repr

/-- The keys that are held down. -/
structure Keys where
  crouch : Bool := false
  sprint : Bool := false
deriving DecidableEq, Repr

/-- A character and the keys of its player. -/
structure Session where
  character : RPGLearnGameCharacter
  keys : Keys := {}

namespace RPGLearnGameCharacter

/-- The effect of one callback on the character. -/
def fire (character : RPGLearnGameCharacter) : Callback → RPGLearnGameCharacter
  | .startCrouch => character.startCrouch
  | .stopCrouch => character.stopCrouch
  | .startSprint => character.startSprint
  | .stopSprint => character.stopSprint
  | .drainStamina => character.drainStamina
  | .restoreStamina => character.restoreStamina
  | .movementUpdate => character.movementUpdate
  | .tick deltaTime => character.tick deltaTime
  | .takeDamage damageAmount => (character.takeDamage damageAmount).1
  | .increaseHealth newHealth =>
      { character with playerStats := (character.playerStats.increaseHealth newHealth).stats }
  | .increaseMaxHealth newMaxHealth =>
      { character with
        playerStats := (character.playerStats.increaseMaxHealth newMaxHealth).stats }

end RPGLearnGameCharacter

namespace Keys

/-- `SetupPlayerInputComponent` binds `Started` and `Completed` of the two keys. -/
def after (keys : Keys) : Callback → Keys
  | .startCrouch => { keys with crouch := true }
  | .stopCrouch => { keys with crouch := false }
  | .startSprint => { keys with sprint := true }
  | .stopSprint => { keys with sprint := false }
  | _ => keys

/-- `Started` arrives for a released key and `Completed` for a held one. -/
def Fits (keys : Keys) : Callback → Prop
  | .startCrouch => keys.crouch = false
  | .stopCrouch => keys.crouch = true
  | .startSprint => keys.sprint = false
  | .stopSprint => keys.sprint = true
  | _ => True

instance (keys : Keys) : (callback : Callback) → Decidable (keys.Fits callback)
  | .startCrouch | .stopCrouch | .startSprint | .stopSprint => inferInstanceAs (Decidable (_ = _))
  | .drainStamina | .restoreStamina | .movementUpdate | .tick _ | .takeDamage _
  | .increaseHealth _ | .increaseMaxHealth _ => inferInstanceAs (Decidable True)

end Keys

/-- Key presses and releases, the two stamina timers and movement updates. -/
def Callback.IsLocomotion : Callback → Prop
  | .startCrouch | .stopCrouch | .startSprint | .stopSprint
  | .drainStamina | .restoreStamina | .movementUpdate => True
  | .tick _ | .takeDamage _ | .increaseHealth _ | .increaseMaxHealth _ => False

instance : (callback : Callback) → Decidable callback.IsLocomotion
  | .startCrouch | .stopCrouch | .startSprint | .stopSprint
  | .drainStamina | .restoreStamina | .movementUpdate => inferInstanceAs (Decidable True)
  | .tick _ | .takeDamage _ | .increaseHealth _ | .increaseMaxHealth _ =>
      inferInstanceAs (Decidable False)

namespace Session

/-- `DrainStamina` fires only while `SprintTime` is armed. -/
def DrainIsArmed (session : Session) (callback : Callback) : Prop :=
  callback = .drainStamina → session.character.sprintTime.armed = true

instance (session : Session) (callback : Callback) : Decidable (session.DrainIsArmed callback) :=
  inferInstanceAs (Decidable (_ → _))

/-- `RestoreStamina` fires only while `RestoreTime` is armed. -/
def RestoreIsArmed (session : Session) (callback : Callback) : Prop :=
  callback = .restoreStamina → session.character.restoreTime.armed = true

instance (session : Session) (callback : Callback) : Decidable (session.RestoreIsArmed callback) :=
  inferInstanceAs (Decidable (_ → _))

/-- Every callback at any time, `DrainStamina` only from its timer. -/
def callbacks : EventMachine Session Callback where
  Admits := DrainIsArmed
  next session callback :=
    ⟨session.character.fire callback, session.keys.after callback⟩

instance (session : Session) (callback : Callback) :
    Decidable (callbacks.Admits session callback) :=
  inferInstanceAs (Decidable (session.DrainIsArmed callback))

/-- Walking, crouching and sprinting with the stamina timers. -/
def locomotion : EventMachine Session Callback :=
  callbacks.guarded fun _ callback => callback.IsLocomotion

/-- Locomotion in which each key alternates between press and release. -/
def keyed : EventMachine Session Callback :=
  locomotion.guarded fun session callback => session.keys.Fits callback

/-- Locomotion in which `RestoreStamina`, too, fires only from its timer. -/
def timed : EventMachine Session Callback :=
  locomotion.guarded RestoreIsArmed

instance (session : Session) (callback : Callback) :
    Decidable (locomotion.Admits session callback) :=
  inferInstanceAs (Decidable (callbacks.Admits session callback ∧ callback.IsLocomotion))

instance (session : Session) (callback : Callback) :
    Decidable (keyed.Admits session callback) :=
  inferInstanceAs (Decidable (locomotion.Admits session callback ∧ session.keys.Fits callback))

instance (session : Session) (callback : Callback) :
    Decidable (timed.Admits session callback) :=
  inferInstanceAs (Decidable (locomotion.Admits session callback ∧ session.RestoreIsArmed callback))

@[simp] theorem next_character (session : Session) (callback : Callback) :
    (locomotion.next session callback).character = session.character.fire callback := rfl

@[simp] theorem next_keys (session : Session) (callback : Callback) :
    (locomotion.next session callback).keys = session.keys.after callback := rfl

@[simp] theorem keyed_next : keyed.next = locomotion.next := rfl

/-- The environment delivers a key callback whenever the key is in the position
for it. -/
theorem keyed_admits {session : Session} {callback : Callback}
    (fits : session.keys.Fits callback) (isLocomotion : callback.IsLocomotion := by trivial)
    (notDrain : callback ≠ .drainStamina := by decide) : keyed.Admits session callback :=
  ⟨⟨fun drain => absurd drain notDrain, isLocomotion⟩, fits⟩

/-- Case analysis on a callback that locomotion admits. -/
@[elab_as_elim]
theorem locomotion_cases {session : Session} {motive : Callback → Prop} {callback : Callback}
    (admits : locomotion.Admits session callback)
    (startCrouch : motive .startCrouch) (stopCrouch : motive .stopCrouch)
    (startSprint : motive .startSprint) (stopSprint : motive .stopSprint)
    (drainStamina : session.character.sprintTime.armed = true → motive .drainStamina)
    (restoreStamina : motive .restoreStamina) (movementUpdate : motive .movementUpdate) :
    motive callback := by
  obtain ⟨armed, isLocomotion⟩ := admits
  cases callback with
  | startCrouch => exact startCrouch
  | stopCrouch => exact stopCrouch
  | startSprint => exact startSprint
  | stopSprint => exact stopSprint
  | drainStamina => exact drainStamina (armed rfl)
  | restoreStamina => exact restoreStamina
  | movementUpdate => exact movementUpdate
  | tick | takeDamage | increaseHealth | increaseMaxHealth => exact isLocomotion.elim

end Session

namespace RPGLearnGameCharacter

variable (character : RPGLearnGameCharacter)

/-- Driving the timeline moves the timeline and the camera, and nothing else. -/
theorem driveTimeline_eq (update : Timeline.Update) :
    character.driveTimeline update =
      { character with
        crouchTimeline := update.timeline
        targetArmLength := (update.value.map (lerp 400 500)).getD character.targetArmLength } := by
  unfold driveTimeline
  cases update.value <;> rfl

/-- Pressing crouch sets the flag, the wish and the crouching speed, and moves the
camera. -/
theorem startCrouch_eq :
    character.startCrouch =
      let update := character.crouchTimeline.playFromStart
      { character with
        isCrouching := true
        bWantsToCrouch := true
        maxWalkSpeed := character.maxWalkSpeedCrouched
        crouchTimeline := update.timeline
        targetArmLength := (update.value.map (lerp 400 500)).getD character.targetArmLength } :=
  driveTimeline_eq _ _

/-- Releasing crouch clears the flag and the wish, sets the walking speed and moves
the camera. -/
theorem stopCrouch_eq :
    character.stopCrouch =
      let update := character.crouchTimeline.reverseFromEnd
      { character with
        isCrouching := false
        bWantsToCrouch := false
        maxWalkSpeed := character.currentWalkSpeed
        crouchTimeline := update.timeline
        targetArmLength := (update.value.map (lerp 400 500)).getD character.targetArmLength } :=
  driveTimeline_eq _ _

/-- A press of the sprint key is accepted. -/
def AcceptsSprint : Prop := character.canSprint = true ∧ character.bIsCrouched = false

instance : Decidable character.AcceptsSprint := inferInstanceAs (Decidable (_ ∧ _))

/-- An accepted press sets the speed and arms the drain timer. -/
theorem startSprint_of_accepts (accepts : character.AcceptsSprint) :
    character.startSprint =
      { character with maxWalkSpeed := 750, sprintTime := some ⟨1 / 10, true⟩ } := by
  simp [startSprint, accepts.1, accepts.2, TimerHandle.setTimer]

/-- A refused press does nothing. -/
theorem startSprint_of_refuses (refuses : ¬ character.AcceptsSprint) :
    character.startSprint = character := by
  refine if_neg ?_
  simpa [AcceptsSprint] using refuses

/-- A press, accepted or not, writes the speed and the drain timer only. -/
theorem startSprint_frame :
    ∃ maxWalkSpeed sprintTime,
      character.startSprint = { character with maxWalkSpeed, sprintTime } := by
  by_cases accepts : character.AcceptsSprint
  · exact ⟨_, _, startSprint_of_accepts character accepts⟩
  · exact ⟨_, _, startSprint_of_refuses character accepts⟩

/-- More stamina is left than one tick costs. -/
def Lasts : Prop := 1 < character.playerStats.currentStamina

instance : Decidable character.Lasts := inferInstanceAs (Decidable (_ < _))

/-- One tick exhausts the stamina exactly when it does not last. -/
theorem empty_spend_one_iff :
    (character.playerStats.stamina.spend 1).Empty ↔ ¬ character.Lasts :=
  (Gauge.empty_spend_iff zero_le_one).trans not_lt.symm

/-- A tick that can still sprint spends one stamina and records whether any is
left. -/
theorem drainStamina_of_canSprint (canSprint : character.canSprint = true) :
    character.drainStamina =
      { character with
        playerStats :=
          { character.playerStats with stamina := character.playerStats.stamina.spend 1 }
        canSprint := decide character.Lasts
        isSprinting := decide character.Lasts } := by
  simp [drainStamina, canSprint, PlayerStatsComponent.decreaseStamina,
    PlayerStatsComponent.withStamina, empty_spend_one_iff]

/-- A tick that cannot sprint sets the walking speed. -/
theorem drainStamina_of_exhausted (exhausted : character.canSprint = false) :
    character.drainStamina = { character with maxWalkSpeed := 500 } := by
  simp [drainStamina, exhausted]

/-- A tick lowers the stamina of a character that can sprint and has some. -/
theorem drainStamina_lowers_iff :
    character.drainStamina.playerStats.currentStamina < character.playerStats.currentStamina ↔
      character.canSprint = true ∧ ¬ character.playerStats.stamina.Empty := by
  cases canSprint : character.canSprint with
  | false => simp [drainStamina_of_exhausted _ canSprint]
  | true =>
      have lowers : (character.playerStats.stamina.spend 1).current <
          character.playerStats.stamina.current ↔ ¬ character.playerStats.stamina.Empty :=
        Gauge.spend_current_lt_iff zero_lt_one
      simp [drainStamina_of_canSprint _ canSprint, lowers]

/-- Restoring touches the stamina only. -/
theorem restoreStamina_eq :
    character.restoreStamina =
      { character with
        playerStats :=
          { character.playerStats with stamina := character.playerStats.stamina.refill 1 } } := by
  simp [restoreStamina, PlayerStatsComponent.increaseStamina, PlayerStatsComponent.withStamina]

end RPGLearnGameCharacter

namespace Session

/-- Case analysis on a callback that locomotion admits, with the character it leaves. -/
@[elab_as_elim]
theorem fire_cases {session : Session} {motive : Callback → RPGLearnGameCharacter → Prop}
    {callback : Callback} (admits : locomotion.Admits session callback)
    (startCrouch : ∀ crouchTimeline targetArmLength, motive .startCrouch
      { session.character with
        isCrouching := true
        bWantsToCrouch := true
        maxWalkSpeed := session.character.maxWalkSpeedCrouched
        crouchTimeline
        targetArmLength })
    (stopCrouch : ∀ crouchTimeline targetArmLength, motive .stopCrouch
      { session.character with
        isCrouching := false
        bWantsToCrouch := false
        maxWalkSpeed := session.character.currentWalkSpeed
        crouchTimeline
        targetArmLength })
    (accepted : session.character.AcceptsSprint → motive .startSprint
      { session.character with maxWalkSpeed := 750, sprintTime := some ⟨1 / 10, true⟩ })
    (refused : ¬ session.character.AcceptsSprint → motive .startSprint session.character)
    (stopSprint : motive .stopSprint
      { session.character with maxWalkSpeed := 500, sprintTime := none, isSprinting := false })
    (exhausted : session.character.sprintTime.armed = true →
      session.character.canSprint = false → motive .drainStamina
        { session.character with maxWalkSpeed := 500 })
    (drained : session.character.sprintTime.armed = true →
      session.character.canSprint = true → motive .drainStamina
        { session.character with
          playerStats := { session.character.playerStats with
            stamina := session.character.playerStats.stamina.spend 1 }
          canSprint := decide session.character.Lasts
          isSprinting := decide session.character.Lasts })
    (restored : motive .restoreStamina
      { session.character with
        playerStats := { session.character.playerStats with
          stamina := session.character.playerStats.stamina.refill 1 } })
    (moved : motive .movementUpdate
      { session.character with bIsCrouched := session.character.bWantsToCrouch }) :
    motive callback (session.character.fire callback) := by
  refine locomotion_cases admits ?_ ?_ ?_ ?_ (fun armed => ?_) ?_ ?_
  · rw [RPGLearnGameCharacter.fire, session.character.startCrouch_eq]
    exact startCrouch _ _
  · rw [RPGLearnGameCharacter.fire, session.character.stopCrouch_eq]
    exact stopCrouch _ _
  · rw [RPGLearnGameCharacter.fire]
    by_cases accepts : session.character.AcceptsSprint
    · rw [session.character.startSprint_of_accepts accepts]
      exact accepted accepts
    · rw [session.character.startSprint_of_refuses accepts]
      exact refused accepts
  · exact stopSprint
  · rw [RPGLearnGameCharacter.fire]
    cases canSprint : session.character.canSprint with
    | false =>
        rw [session.character.drainStamina_of_exhausted canSprint]
        exact exhausted armed canSprint
    | true =>
        rw [session.character.drainStamina_of_canSprint canSprint]
        exact drained armed canSprint
  · rw [RPGLearnGameCharacter.fire, session.character.restoreStamina_eq]
    exact restored
  · exact moved

end Session

end RPGLearnGame
