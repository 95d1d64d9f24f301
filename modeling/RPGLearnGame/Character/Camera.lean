import RPGLearnGame.Character.Runs
import Mathlib.Algebra.Order.Group.Unbundled.Abs
import Mathlib.Tactic.Linarith
import Mathlib.Tactic.NormNum
import Mathlib.Tactic.Ring

/-!
# The crouch camera

The crouch timeline plays the camera distance forward and backward, and the camera
is always where the curve has the timeline. A tick moves the timeline by at most the
time that passed. The two key callbacks move it to an end first: `StartCrouch` plays
from the start and `StopCrouch` reverses from the end, wherever it was. The camera
therefore jumps at a press or release in the middle of a transition, unless the curve
happens to have the value of that end there.
-/

namespace RPGLearnGame

/-- A timeline call stays on the track and within reach, and it calls the update
delegate wherever it has moved. -/
structure Timeline.Update.Follows (update : Timeline.Update) (timeline : Timeline) (reach : ℚ) :
    Prop where
  track : update.timeline.interpFloat = timeline.interpFloat
  nonneg : 0 ≤ update.timeline.position
  within : update.timeline.position ≤ timeline.length
  near : |update.timeline.position - timeline.position| ≤ reach
  value : update.value = update.timeline.updateValue ∨
    update.value = none ∧ update.timeline.position = timeline.position

/-- Moving the position of a timeline with the same track follows it. -/
theorem Timeline.setPlaybackPosition_follows {timeline other : Timeline} {position reach : ℚ}
    (sameTrack : other.interpFloat = timeline.interpFloat) (nonneg : 0 ≤ position)
    (within : position ≤ timeline.length) (near : |position - timeline.position| ≤ reach) :
    (other.setPlaybackPosition position).Follows timeline reach :=
  ⟨sameTrack, nonneg, within, near, .inl rfl⟩

/-- A tick follows the timeline for the time that passed, in either direction and past
either end. -/
theorem Timeline.tickTimeline_follows {timeline : Timeline} {deltaTime : ℚ}
    (forward : 0 ≤ deltaTime) (start : 0 ≤ timeline.position)
    (finish : timeline.position ≤ timeline.length) :
    (timeline.tickTimeline deltaTime).Follows timeline deltaTime := by
  unfold tickTimeline
  split
  · generalize moved : timeline.position +
        (if timeline.reversing then -deltaTime else deltaTime) = position
    obtain ⟨below, above⟩ : timeline.position - deltaTime ≤ position ∧
        position ≤ timeline.position + deltaTime := by
      rw [← moved]
      split
      · constructor <;> linarith
      · constructor <;> linarith
    dsimp only
    split
    · refine setPlaybackPosition_follows rfl (start.trans finish) le_rfl ?_
      exact abs_sub_le_iff.mpr ⟨by linarith, by linarith⟩
    · split
      · refine setPlaybackPosition_follows rfl le_rfl (start.trans finish) ?_
        exact abs_sub_le_iff.mpr ⟨by linarith, by linarith⟩
      · rename_i notPast notBefore
        refine setPlaybackPosition_follows rfl (not_lt.mp notBefore) (not_lt.mp notPast) ?_
        exact abs_sub_le_iff.mpr ⟨by linarith, by linarith⟩
  · refine ⟨rfl, start, finish, ?_, .inr ⟨rfl, rfl⟩⟩
    simpa using forward

/-- What a crouch callback or a tick can do to the camera. -/
def Callback.IsCamera : Callback → Prop
  | .startCrouch | .stopCrouch => True
  | .tick deltaTime => 0 ≤ deltaTime
  | _ => False

instance : (callback : Callback) → Decidable callback.IsCamera
  | .startCrouch | .stopCrouch => inferInstanceAs (Decidable True)
  | .tick deltaTime => inferInstanceAs (Decidable (0 ≤ deltaTime))
  | .startSprint | .stopSprint | .drainStamina | .restoreStamina | .movementUpdate
  | .takeDamage _ | .increaseHealth _ | .increaseMaxHealth _ => inferInstanceAs (Decidable False)

/-- The time a callback stands for. -/
def Callback.elapsed : Callback → ℚ
  | .tick deltaTime => deltaTime
  | _ => 0

namespace Session

open RPGLearnGameCharacter

/-- The crouch callbacks and ticks. -/
def camera : EventMachine Session Callback :=
  callbacks.guarded fun _ callback => callback.IsCamera

instance (session : Session) (callback : Callback) :
    Decidable (camera.Admits session callback) :=
  inferInstanceAs (Decidable (callbacks.Admits session callback ∧ callback.IsCamera))

/-- A callback moves the camera by at most `bound` for each unit of time it stands for. -/
def MovesSmoothly (bound : ℚ) (session : Session) (callback : Callback) : Prop :=
  |(camera.next session callback).character.targetArmLength -
      session.character.targetArmLength| ≤ bound * callback.elapsed

instance (bound : ℚ) (session : Session) (callback : Callback) :
    Decidable (session.MovesSmoothly bound callback) :=
  inferInstanceAs (Decidable (_ ≤ _))

/-- A crouch callback finds the timeline where the curve already has the value of the
end the callback plays from. -/
def MeetsItsEnd (curve : CurveFloat) (session : Session) : Callback → Prop
  | .startCrouch => curve.value session.character.crouchTimeline.position = curve.value 0
  | .stopCrouch =>
      curve.value session.character.crouchTimeline.position = curve.value curve.lastKey
  | _ => True

instance (curve : CurveFloat) (session : Session) :
    (callback : Callback) → Decidable (session.MeetsItsEnd curve callback)
  | .startCrouch | .stopCrouch => inferInstanceAs (Decidable (_ = _))
  | .startSprint | .stopSprint | .drainStamina | .restoreStamina | .movementUpdate | .tick _
  | .takeDamage _ | .increaseHealth _ | .increaseMaxHealth _ => inferInstanceAs (Decidable True)

/-- The camera is where the curve has the timeline. -/
structure OnCurve (curve : CurveFloat) (character : RPGLearnGameCharacter) : Prop where
  track : character.crouchTimeline.interpFloat = some curve
  nonneg : 0 ≤ character.crouchTimeline.position
  within : character.crouchTimeline.position ≤ curve.lastKey
  camera : character.targetArmLength =
    lerp 400 500 (curve.value character.crouchTimeline.position)

section Smoothness

variable {curve : CurveFloat} {character other : RPGLearnGameCharacter}

theorem OnCurve.length (onCurve : OnCurve curve character) :
    character.crouchTimeline.length = curve.lastKey := by
  simp [Timeline.length, onCurve.track]

/-- Driving the timeline along its track takes the camera with it. -/
theorem OnCurve.driveTimeline (onCurve : OnCurve curve character) {update : Timeline.Update}
    {reach : ℚ} (follows : update.Follows character.crouchTimeline reach) :
    OnCurve curve (character.driveTimeline update) := by
  rw [driveTimeline_eq]
  have track := follows.track.trans onCurve.track
  refine ⟨track, follows.nonneg, follows.within.trans_eq onCurve.length, ?_⟩
  rcases follows.value with called | ⟨silent, stays⟩
  · simp [called, Timeline.updateValue, track]
  · simp [silent, stays, onCurve.camera]

/-- Between two characters on the curve, the camera moves a hundred times as far as the
curve does. -/
theorem OnCurve.abs_sub (before : OnCurve curve character) (after : OnCurve curve other) :
    |other.targetArmLength - character.targetArmLength| =
      100 * |curve.value other.crouchTimeline.position -
        curve.value character.crouchTimeline.position| := by
  have distance : other.targetArmLength - character.targetArmLength =
      100 * (curve.value other.crouchTimeline.position -
        curve.value character.crouchTimeline.position) := by
    rw [before.camera, after.camera, lerp, lerp]
    ring
  rw [distance, abs_mul, abs_of_pos (by norm_num)]

/-- The camera stays where it is exactly when the curve does. -/
theorem OnCurve.abs_sub_le_zero_iff (before : OnCurve curve character)
    (after : OnCurve curve other) :
    |other.targetArmLength - character.targetArmLength| ≤ 0 ↔
      curve.value character.crouchTimeline.position =
        curve.value other.crouchTimeline.position := by
  rw [before.abs_sub after, ← mul_zero (100 : ℚ), mul_le_mul_iff_right₀ (by norm_num),
    abs_nonpos_iff, sub_eq_zero, eq_comm]

/-- Each of the two key callbacks and each tick keeps the camera on the curve. -/
theorem onCurve_invariant (curve : CurveFloat) (room : 0 ≤ curve.lastKey) :
    camera.Invariant fun session => OnCurve curve session.character where
  preserved := by
    rintro session callback onCurve ⟨_, isCamera⟩
    cases callback with
    | startCrouch =>
        have crouching : OnCurve curve { session.character.crouch with
            isCrouching := true, maxWalkSpeed := session.character.maxWalkSpeedCrouched } :=
          ⟨onCurve.track, onCurve.nonneg, onCurve.within, onCurve.camera⟩
        refine crouching.driveTimeline (Timeline.setPlaybackPosition_follows rfl le_rfl ?_ le_rfl)
        exact room.trans_eq onCurve.length.symm
    | stopCrouch =>
        have upright : OnCurve curve { session.character.unCrouch with
            isCrouching := false, maxWalkSpeed := session.character.currentWalkSpeed } :=
          ⟨onCurve.track, onCurve.nonneg, onCurve.within, onCurve.camera⟩
        refine upright.driveTimeline (Timeline.setPlaybackPosition_follows rfl ?_ le_rfl le_rfl)
        exact room.trans_eq onCurve.length.symm
    | tick deltaTime =>
        exact onCurve.driveTimeline (Timeline.tickTimeline_follows isCamera onCurve.nonneg
          (onCurve.within.trans_eq onCurve.length.symm))
    | _ => exact isCamera.elim

/-- A press leaves the timeline at its start. -/
theorem startCrouch_position (character : RPGLearnGameCharacter) :
    character.startCrouch.crouchTimeline.position = 0 := by
  rw [startCrouch_eq]
  rfl

/-- A release leaves the timeline at its end. -/
theorem OnCurve.stopCrouch_position (onCurve : OnCurve curve character) :
    character.stopCrouch.crouchTimeline.position = curve.lastKey := by
  rw [stopCrouch_eq]
  exact onCurve.length

/-- A tick moves the timeline by at most the time that passed. -/
theorem OnCurve.tick_near (onCurve : OnCurve curve character) {deltaTime : ℚ}
    (forward : 0 ≤ deltaTime) :
    |(character.tick deltaTime).crouchTimeline.position - character.crouchTimeline.position| ≤
      deltaTime := by
  have follows := Timeline.tickTimeline_follows forward onCurve.nonneg
    (onCurve.within.trans_eq onCurve.length.symm)
  rw [tick, driveTimeline_eq]
  exact follows.near

/-- On a Lipschitz curve the camera moves no faster than the timeline allows. -/
theorem OnCurve.abs_sub_le (before : OnCurve curve character) (after : OnCurve curve other)
    {bound reach : ℚ} (nonneg : 0 ≤ bound)
    (lipschitz : ∀ x y, 0 ≤ x → x ≤ curve.lastKey → 0 ≤ y → y ≤ curve.lastKey →
      |curve.value x - curve.value y| ≤ bound * |x - y|)
    (near : |other.crouchTimeline.position - character.crouchTimeline.position| ≤ reach) :
    |other.targetArmLength - character.targetArmLength| ≤ 100 * bound * reach := by
  have steep := lipschitz _ _ after.nonneg after.within before.nonneg before.within
  calc |other.targetArmLength - character.targetArmLength|
      = 100 * |curve.value other.crouchTimeline.position -
          curve.value character.crouchTimeline.position| := before.abs_sub after
    _ ≤ 100 * (bound *
          |other.crouchTimeline.position - character.crouchTimeline.position|) := by gcongr
    _ ≤ 100 * (bound * reach) := by gcongr
    _ = 100 * bound * reach := (mul_assoc _ _ _).symm

/-- A key callback leaves the camera in place exactly when it meets its end, and a tick
moves it no faster than the curve. -/
theorem movesSmoothly_iff {session : Session} {callback : Callback} {bound : ℚ}
    (nonneg : 0 ≤ bound)
    (lipschitz : ∀ x y, 0 ≤ x → x ≤ curve.lastKey → 0 ≤ y → y ≤ curve.lastKey →
      |curve.value x - curve.value y| ≤ bound * |x - y|)
    (onCurve : OnCurve curve session.character) (admits : camera.Admits session callback) :
    session.MovesSmoothly (100 * bound) callback ↔ session.MeetsItsEnd curve callback := by
  have room : 0 ≤ curve.lastKey := onCurve.nonneg.trans onCurve.within
  have after := (onCurve_invariant curve room).preserved onCurve admits
  obtain ⟨_, isCamera⟩ := admits
  cases callback with
  | startCrouch =>
      have atStart : (camera.next session .startCrouch).character.crouchTimeline.position = 0 :=
        startCrouch_position session.character
      change |_| ≤ 100 * bound * 0 ↔ _
      rw [mul_zero, onCurve.abs_sub_le_zero_iff after, atStart]
      rfl
  | stopCrouch =>
      have atEnd : (camera.next session .stopCrouch).character.crouchTimeline.position =
          curve.lastKey := onCurve.stopCrouch_position
      change |_| ≤ 100 * bound * 0 ↔ _
      rw [mul_zero, onCurve.abs_sub_le_zero_iff after, atEnd]
      rfl
  | tick deltaTime =>
      have near := onCurve.tick_near isCamera
      exact iff_of_true (onCurve.abs_sub_le after nonneg lipschitz near) trivial
  | _ => exact isCamera.elim

/-- Along any run of crouch callbacks and ticks of a character that has begun to play, for
any curve that starts at zero and is Lipschitz on its length, every callback moves the
camera by at most a hundred times the Lipschitz bound for the time it stands for
exactly when every crouch callback meets its end. -/
theorem camera_movesSmoothly_iff (playerStats : PlayerStatsComponent) (curve : CurveFloat)
    (bound : ℚ) (room : 0 ≤ curve.lastKey) (start : curve.value 0 = 0) (nonneg : 0 ≤ bound)
    (lipschitz : ∀ x y, 0 ≤ x → x ≤ curve.lastKey → 0 ≤ y → y ≤ curve.lastKey →
      |curve.value x - curve.value y| ≤ bound * |x - y|)
    (callbacks : List Callback)
    (admissible : camera.Admissible ⟨(construct playerStats (some curve)).beginPlay, {}⟩ callbacks) :
    camera.EachStep (fun session callback => session.MovesSmoothly (100 * bound) callback)
        ⟨(construct playerStats (some curve)).beginPlay, {}⟩ callbacks ↔
      camera.EachStep (fun session callback => session.MeetsItsEnd curve callback)
        ⟨(construct playerStats (some curve)).beginPlay, {}⟩ callbacks := by
  have onCurve : OnCurve curve (construct playerStats (some curve)).beginPlay := by
    refine ⟨rfl, le_rfl, room, ?_⟩
    change 400 = lerp 400 500 (curve.value 0)
    rw [start, lerp, zero_mul, add_zero]
  exact (onCurve_invariant curve room).eachStep_iff
    (fun onCurve admits => movesSmoothly_iff nonneg lipschitz onCurve admits) onCurve admissible

/-- A linear curve over one second. -/
def linearCurve : CurveFloat := ⟨fun time => time, 1⟩

theorem linearCurve_lipschitz (x y : ℚ) :
    |linearCurve.value x - linearCurve.value y| ≤ 1 * |x - y| := (one_mul |x - y|).ge

/-- A crouch that is held until the camera has arrived, and released once. -/
theorem camera_movesSmoothly_held :
    camera.EachStep (fun session callback => session.MovesSmoothly (100 * 1) callback)
      ⟨(construct {} (some linearCurve)).beginPlay, {}⟩
      [.tick 1, .startCrouch, .tick (1 / 2), .tick 3, .stopCrouch, .tick (1 / 4)] :=
  (camera_movesSmoothly_iff {} linearCurve 1 zero_le_one rfl zero_le_one
    (fun x y _ _ _ _ => linearCurve_lipschitz x y) _ (by decide +kernel)).mpr (by decide +kernel)

/-- A crouch released halfway sends the camera to the far end at once. -/
theorem camera_jumps_halfway :
    (∀ x y, |linearCurve.value x - linearCurve.value y| ≤ 1 * |x - y|) ∧
      camera.Admissible ⟨(construct {} (some linearCurve)).beginPlay, {}⟩
        [.startCrouch, .tick (1 / 2), .stopCrouch] ∧
      (camera.run ⟨(construct {} (some linearCurve)).beginPlay, {}⟩
        [.startCrouch, .tick (1 / 2)]).character.targetArmLength = 450 ∧
      (camera.run ⟨(construct {} (some linearCurve)).beginPlay, {}⟩
        [.startCrouch, .tick (1 / 2), .stopCrouch]).character.targetArmLength = 500 ∧
      ¬ camera.EachStep (fun session callback => session.MovesSmoothly (100 * 1) callback)
        ⟨(construct {} (some linearCurve)).beginPlay, {}⟩
        [.startCrouch, .tick (1 / 2), .stopCrouch] :=
  ⟨linearCurve_lipschitz, by decide +kernel⟩

end Smoothness

end Session

end RPGLearnGame
