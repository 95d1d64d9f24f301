import RPGLearnGame.Character.Runs

/-!
# Speed and gait

The gait is what the character should be doing: crouching while its flag is set,
sprinting while the drain timer runs and it can sprint, walking otherwise. Five
callbacks write `maxWalkSpeed`, each from its own point of view, so the speed
agrees with the gait along a run exactly when none of them speaks for the wrong
gait. The same blind spots decide whether stamina is spent only on sprinting.
-/

namespace RPGLearnGame

/-- The three gaits. -/
inductive Gait where
  | walking
  | crouching
  | sprinting
deriving DecidableEq, Repr

namespace RPGLearnGameCharacter

/-- The gait that the flags and the drain timer call for. -/
def gait (character : RPGLearnGameCharacter) : Gait :=
  if character.isCrouching then .crouching
  else if character.sprintTime.armed && character.canSprint then .sprinting
  else .walking

/-- The speed of each gait. -/
def speedOf (character : RPGLearnGameCharacter) : Gait → ℚ
  | .walking => 500
  | .crouching => character.maxWalkSpeedCrouched
  | .sprinting => 750

/-- The movement speed is the speed of the gait. -/
def SpeedFitsGait (character : RPGLearnGameCharacter) : Prop :=
  character.maxWalkSpeed = character.speedOf character.gait

/-- The configured speeds are the constructor's. -/
structure ConstructedSpeeds (character : RPGLearnGameCharacter) : Prop where
  walk : character.currentWalkSpeed = 500
  crouched : character.maxWalkSpeedCrouched = 350

/-- The drain timer runs for a character that can still sprint. -/
def Draining (character : RPGLearnGameCharacter) : Prop :=
  character.sprintTime.armed = true ∧ character.canSprint = true

/-- The steps that leave the speed with the gait: no release of crouch during a
drain, no accepted sprint and no release of sprint while crouching, no last
stamina spent upright and no exhausted tick while crouching. -/
def KeepsGait (character : RPGLearnGameCharacter) : Callback → Prop
  | .stopCrouch => ¬ character.Draining
  | .startSprint => character.AcceptsSprint → character.isCrouching = false
  | .stopSprint => character.isCrouching = false
  | .drainStamina =>
      if character.canSprint then character.isCrouching = true ∨ character.Lasts
      else character.isCrouching = false
  | _ => True

instance (character : RPGLearnGameCharacter) : Decidable character.SpeedFitsGait :=
  inferInstanceAs (Decidable (_ = _))

instance (character : RPGLearnGameCharacter) : Decidable character.Draining :=
  inferInstanceAs (Decidable (_ ∧ _))

instance (character : RPGLearnGameCharacter) :
    (callback : Callback) → Decidable (character.KeepsGait callback)
  | .stopCrouch => inferInstanceAs (Decidable (¬ _))
  | .startSprint => inferInstanceAs (Decidable (_ → _))
  | .stopSprint => inferInstanceAs (Decidable (_ = _))
  | .drainStamina =>
      inferInstanceAs (Decidable (if character.canSprint
        then character.isCrouching = true ∨ character.Lasts else character.isCrouching = false))
  | .startCrouch | .restoreStamina | .movementUpdate | .tick _ | .takeDamage _
  | .increaseHealth _ | .increaseMaxHealth _ => inferInstanceAs (Decidable True)

section Steps

variable {character : RPGLearnGameCharacter}

/-- Pressing crouch sets the speed of the gait it selects. -/
theorem startCrouch_fits : character.startCrouch.SpeedFitsGait := by
  rw [startCrouch_eq]
  simp [SpeedFitsGait, gait, speedOf]

/-- Releasing crouch sets the walking speed, which is wrong during a drain. -/
theorem stopCrouch_fits_iff (speeds : character.ConstructedSpeeds) :
    character.stopCrouch.SpeedFitsGait ↔ ¬ character.Draining := by
  rw [stopCrouch_eq]
  by_cases draining : character.Draining
  · simp [SpeedFitsGait, gait, speedOf, speeds.walk, draining, draining.1, draining.2]
  · have still : ¬ (character.sprintTime.armed = true ∧ character.canSprint = true) := draining
    simp [SpeedFitsGait, gait, speedOf, speeds.walk, draining, still]

/-- An accepted sprint sets the sprinting speed, which is wrong while crouching. -/
theorem startSprint_fits_iff (speeds : character.ConstructedSpeeds)
    (fits : character.SpeedFitsGait) :
    character.startSprint.SpeedFitsGait ↔
      (character.AcceptsSprint → character.isCrouching = false) := by
  by_cases accepts : character.AcceptsSprint
  · rw [startSprint_of_accepts character accepts]
    cases crouching : character.isCrouching with
    | false => simp [SpeedFitsGait, gait, speedOf, TimerHandle.armed, accepts.1]
    | true => simp [SpeedFitsGait, gait, speedOf, accepts, speeds.crouched]
  · rw [startSprint_of_refuses character accepts]
    exact iff_of_true fits fun accepted => absurd accepted accepts

/-- Releasing sprint sets the walking speed, which is wrong while crouching. -/
theorem stopSprint_fits_iff (speeds : character.ConstructedSpeeds) :
    character.stopSprint.SpeedFitsGait ↔ character.isCrouching = false := by
  cases crouching : character.isCrouching with
  | false => simp [stopSprint, SpeedFitsGait, gait, speedOf, crouching]
  | true => simp [stopSprint, SpeedFitsGait, gait, speedOf, crouching, speeds.crouched]

/-- The tick that spends the last stamina ends the sprinting gait and leaves its
speed; a later tick sets the walking speed, crouching or not. -/
theorem drainStamina_fits_iff (speeds : character.ConstructedSpeeds)
    (fits : character.SpeedFitsGait) (armed : character.sprintTime.armed = true) :
    character.drainStamina.SpeedFitsGait ↔ character.KeepsGait .drainStamina := by
  cases canSprint : character.canSprint with
  | false =>
      rw [drainStamina_of_exhausted character canSprint]
      cases crouching : character.isCrouching with
      | false => simp [SpeedFitsGait, gait, speedOf, KeepsGait, crouching, canSprint]
      | true =>
          simp [SpeedFitsGait, gait, speedOf, KeepsGait, crouching, canSprint, speeds.crouched]
  | true =>
      rw [drainStamina_of_canSprint character canSprint]
      cases crouching : character.isCrouching with
      | true =>
          have speed : character.maxWalkSpeed = character.maxWalkSpeedCrouched := by
            simpa [SpeedFitsGait, gait, speedOf, crouching] using fits
          simp [SpeedFitsGait, gait, speedOf, KeepsGait, crouching, canSprint, speed]
      | false =>
          have speed : character.maxWalkSpeed = 750 := by
            simpa [SpeedFitsGait, gait, speedOf, crouching, armed, canSprint] using fits
          by_cases lasts : character.Lasts
          · simp [SpeedFitsGait, gait, speedOf, KeepsGait, crouching, canSprint, speed, armed,
              lasts]
          · simp [SpeedFitsGait, gait, speedOf, KeepsGait, crouching, canSprint, speed, lasts]

end Steps

end RPGLearnGameCharacter

namespace Session

open RPGLearnGameCharacter

/-- No locomotion callback writes the configured speeds. -/
theorem constructedSpeeds_invariant :
    locomotion.Invariant fun session => session.character.ConstructedSpeeds where
  preserved := by
    rintro session callback ⟨walk, crouched⟩ admits
    rw [next_character]
    refine fire_cases admits ?_ ?_ ?_ ?_ ?_ ?_ ?_ ?_ ?_
    all_goals
      intros
      exact ⟨walk, crouched⟩

/-- One locomotion step leaves the speed with the gait exactly when the callback
speaks for the right gait. -/
theorem speedFitsGait_exact :
    locomotion.ExactCondition (fun session => session.character.ConstructedSpeeds)
      (fun session => session.character.SpeedFitsGait)
      (fun session callback => session.character.KeepsGait callback) where
  supported := constructedSpeeds_invariant
  exact := by
    intro session callback speeds fits admits
    refine locomotion_cases admits ?_ ?_ ?_ ?_ ?_ ?_ ?_
    · exact iff_of_true startCrouch_fits trivial
    · exact stopCrouch_fits_iff speeds
    · exact startSprint_fits_iff speeds fits
    · exact stopSprint_fits_iff speeds
    · exact drainStamina_fits_iff speeds fits
    · exact iff_of_true fits trivial
    · exact iff_of_true fits trivial

/-- Along any interleaving of the two keys, the two stamina timers and the
engine's movement updates, the speed of a constructed character agrees with its
gait in every state exactly when every callback speaks for the right gait. -/
theorem keyed_speedFitsGait_iff (playerStats : PlayerStatsComponent)
    (curve : Option CurveFloat) (callbacks : List Callback)
    (admissible : keyed.Admissible ⟨construct playerStats curve, {}⟩ callbacks) :
    keyed.Throughout (fun session => session.character.SpeedFitsGait)
        ⟨construct playerStats curve, {}⟩ callbacks ↔
      keyed.EachStep (fun session callback => session.character.KeepsGait callback)
        ⟨construct playerStats curve, {}⟩ callbacks :=
  speedFitsGait_exact.guarded.throughout_iff ⟨rfl, rfl⟩ rfl admissible

/-- A sprint released before the crouch that follows it keeps speed and gait
together. -/
theorem keyed_speedFitsGait_sprint_then_crouch :
    keyed.Throughout (fun session => session.character.SpeedFitsGait) ⟨construct, {}⟩
      [.startSprint, .drainStamina, .stopSprint, .startCrouch, .movementUpdate, .stopCrouch] :=
  (keyed_speedFitsGait_iff {} none _ (by decide +kernel)).mpr (by decide +kernel)

/-- Tapping the sprint key while crouched leaves a crouching character at the
walking speed: the press is refused, the release is not. -/
theorem sprint_tap_while_crouched :
    keyed.Admissible ⟨construct, {}⟩
        [.startCrouch, .movementUpdate, .startSprint, .stopSprint] ∧
      (keyed.run ⟨construct, {}⟩
        [.startCrouch, .movementUpdate, .startSprint, .stopSprint]).character.isCrouching = true ∧
      (keyed.run ⟨construct, {}⟩
        [.startCrouch, .movementUpdate, .startSprint, .stopSprint]).character.maxWalkSpeed = 500 ∧
      ¬ keyed.Throughout (fun session => session.character.SpeedFitsGait) ⟨construct, {}⟩
        [.startCrouch, .movementUpdate, .startSprint, .stopSprint] := by
  decide +kernel

end Session

end RPGLearnGame
