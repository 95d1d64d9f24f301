import RPGLearnGame.Character.Camera
import RPGLearnGame.Semantics.Schedule

/-!
# The camera at any frame rate

`Tick` hands the time of a frame to the crouch timeline, which moves by it and stops at
either end. Two frames move it as far as one frame of the same time, and they leave the
camera, when the timeline has a curve at all, at the same place on it. So what a player sees
at a given time depends on when the keys were pressed and released, not on the frames in
between.
-/

namespace RPGLearnGame

open EventMachine

namespace Timeline

variable {timeline : Timeline} {first second : ℚ}

/-- A tick of a timeline that plays forward. -/
theorem tickTimeline_forward (playing : timeline.playing = true)
    (forward : timeline.reversing = false) (start : 0 ≤ timeline.position) (nonneg : 0 ≤ first) :
    (timeline.tickTimeline first).timeline =
      if timeline.length < timeline.position + first
        then { timeline with playing := false, position := timeline.length }
        else { timeline with position := timeline.position + first } := by
  have notBefore : ¬ timeline.position + first < 0 := not_lt.mpr (add_nonneg start nonneg)
  have moved : (timeline.position + if timeline.reversing then -first else first) =
      timeline.position + first := by simp [forward]
  simp only [tickTimeline, if_pos playing, moved, if_neg notBefore]
  split <;> rfl

/-- A tick of a timeline that plays backward. -/
theorem tickTimeline_backward (playing : timeline.playing = true)
    (backward : timeline.reversing = true) (finish : timeline.position ≤ timeline.length)
    (nonneg : 0 ≤ first) :
    (timeline.tickTimeline first).timeline =
      if timeline.position - first < 0
        then { timeline with playing := false, position := 0 }
        else { timeline with position := timeline.position - first } := by
  have notPast : ¬ timeline.length < timeline.position - first :=
    not_lt.mpr ((sub_le_self _ nonneg).trans finish)
  have moved : (timeline.position + if timeline.reversing then -first else first) =
      timeline.position - first := by simp [backward, sub_eq_add_neg]
  simp only [tickTimeline, if_pos playing, moved, if_neg notPast]
  split <;> rfl

/-- A tick of a timeline that does not play leaves it alone. -/
theorem tickTimeline_stopped (stopped : timeline.playing = false) :
    timeline.tickTimeline first = ⟨timeline, none⟩ := by
  simp [tickTimeline, stopped]

/-- Timelines with the same track are equally long. -/
theorem length_congr {other : Timeline} (sameTrack : timeline.interpFloat = other.interpFloat) :
    timeline.length = other.length := by
  simp only [length, sameTrack]

/-- A tick of a timeline that plays moves it along its track. -/
theorem tickTimeline_moves (playing : timeline.playing = true) :
    ∃ (other : Timeline) (position : ℚ), other.interpFloat = timeline.interpFloat ∧
      timeline.tickTimeline first = other.setPlaybackPosition position := by
  simp only [tickTimeline, if_pos playing]
  generalize timeline.position + (if timeline.reversing then -first else first) = position
  split
  · exact ⟨{ timeline with playing := false }, timeline.length, rfl, rfl⟩
  · split
    · exact ⟨{ timeline with playing := false }, 0, rfl, rfl⟩
    · exact ⟨timeline, position, rfl, rfl⟩

/-- A tick of a timeline that plays keeps its track and calls the update delegate where it
gets to. -/
theorem tickTimeline_calls (playing : timeline.playing = true) :
    (timeline.tickTimeline first).timeline.interpFloat = timeline.interpFloat ∧
      (timeline.tickTimeline first).value =
        (timeline.tickTimeline first).timeline.updateValue := by
  obtain ⟨other, position, sameTrack, moved⟩ := timeline.tickTimeline_moves playing
  rw [moved]
  exact ⟨sameTrack, rfl⟩

/-- Two ticks move a timeline as one tick of the same time does. -/
theorem tickTimeline_add (start : 0 ≤ timeline.position)
    (finish : timeline.position ≤ timeline.length) (nonneg : 0 ≤ first) (later : 0 ≤ second) :
    ((timeline.tickTimeline first).timeline.tickTimeline second).timeline =
      (timeline.tickTimeline (first + second)).timeline := by
  have both : 0 ≤ first + second := add_nonneg nonneg later
  cases playing : timeline.playing with
  | false => simp only [tickTimeline_stopped playing]
  | true =>
      cases direction : timeline.reversing with
      | false =>
          rw [tickTimeline_forward playing direction start nonneg,
            tickTimeline_forward playing direction start both]
          by_cases past : timeline.length < timeline.position + first
          · have stillPast : timeline.length < timeline.position + (first + second) := by linarith
            rw [if_pos past, if_pos stillPast, tickTimeline_stopped rfl]
          · have notBefore : 0 ≤ timeline.position + first := add_nonneg start nonneg
            rw [if_neg past, tickTimeline_forward (by exact playing) (by exact direction)
              (by exact notBefore) later]
            simp only [add_assoc]
            rfl
      | true =>
          rw [tickTimeline_backward playing direction finish nonneg,
            tickTimeline_backward playing direction finish both]
          by_cases before : timeline.position - first < 0
          · have stillBefore : timeline.position - (first + second) < 0 := by linarith
            rw [if_pos before, if_pos stillBefore, tickTimeline_stopped rfl]
          · have within : timeline.position - first ≤ timeline.length := by linarith
            rw [if_neg before, tickTimeline_backward (by exact playing) (by exact direction)
              (by exact within) later]
            simp only [sub_sub]

/-- No time moves no timeline that is on its track. -/
theorem tickTimeline_zero (start : 0 ≤ timeline.position)
    (finish : timeline.position ≤ timeline.length) :
    (timeline.tickTimeline 0).timeline = timeline := by
  cases playing : timeline.playing with
  | false => rw [tickTimeline_stopped playing]
  | true =>
      cases direction : timeline.reversing with
      | false =>
          rw [tickTimeline_forward playing direction start le_rfl, add_zero,
            if_neg (not_lt.mpr finish)]
      | true =>
          rw [tickTimeline_backward playing direction finish le_rfl, sub_zero,
            if_neg (not_lt.mpr start)]

/-- A timeline ticks on its track. -/
theorem tickTimeline_within (start : 0 ≤ timeline.position)
    (finish : timeline.position ≤ timeline.length) (nonneg : 0 ≤ first) :
    0 ≤ (timeline.tickTimeline first).timeline.position ∧
      (timeline.tickTimeline first).timeline.position ≤
        (timeline.tickTimeline first).timeline.length := by
  have follows := tickTimeline_follows nonneg start finish
  refine ⟨follows.nonneg, ?_⟩
  rw [length_congr follows.track]
  exact follows.within

end Timeline

namespace Session

open RPGLearnGameCharacter

/-- Every callback at any time, with time that never runs backward. -/
def forward : EventMachine Session Callback :=
  callbacks.guarded fun _ callback => 0 ≤ callback.elapsed

instance (session : Session) (callback : Callback) :
    Decidable (forward.Admits session callback) :=
  inferInstanceAs (Decidable (callbacks.Admits session callback ∧ 0 ≤ callback.elapsed))

/-- The callbacks other than the crouch callbacks and ticks leave the camera alone. -/
theorem fire_camera (character : RPGLearnGameCharacter) {callback : Callback}
    (other : callback ≠ .startCrouch ∧ callback ≠ .stopCrouch ∧
      ∀ deltaTime, callback ≠ .tick deltaTime) :
    (character.fire callback).crouchTimeline = character.crouchTimeline ∧
      (character.fire callback).targetArmLength = character.targetArmLength := by
  obtain ⟨notPressed, notReleased, notTick⟩ := other
  cases callback with
  | startCrouch => exact absurd rfl notPressed
  | stopCrouch => exact absurd rfl notReleased
  | tick deltaTime => exact absurd rfl (notTick deltaTime)
  | startSprint =>
      obtain ⟨_, _, pressed⟩ := character.startSprint_frame
      rw [fire, pressed]
      exact ⟨rfl, rfl⟩
  | drainStamina =>
      cases canSprint : character.canSprint with
      | true => rw [fire, drainStamina_of_canSprint _ canSprint]; exact ⟨rfl, rfl⟩
      | false => rw [fire, drainStamina_of_exhausted _ canSprint]; exact ⟨rfl, rfl⟩
  | takeDamage damageAmount =>
      rw [fire, takeDamage]
      dsimp only
      split <;> exact ⟨rfl, rfl⟩
  | stopSprint | restoreStamina | movementUpdate | increaseHealth | increaseMaxHealth =>
      exact ⟨rfl, rfl⟩

/-- The timeline is on its track, and while it plays, the camera is where its curve, when it
has one, puts it. -/
structure OnTrack (character : RPGLearnGameCharacter) : Prop where
  nonneg : 0 ≤ character.crouchTimeline.position
  within : character.crouchTimeline.position ≤ character.crouchTimeline.length
  camera : character.crouchTimeline.playing = true →
    ∀ value ∈ character.crouchTimeline.updateValue, character.targetArmLength = lerp 400 500 value

variable {character : RPGLearnGameCharacter}

/-- A call that stays on the track and runs the update delegate where it gets to. -/
theorem onTrack_driveTimeline {update : Timeline.Update} (nonneg : 0 ≤ update.timeline.position)
    (within : update.timeline.position ≤ update.timeline.length)
    (called : update.value = update.timeline.updateValue) :
    OnTrack (character.driveTimeline update) := by
  rw [driveTimeline_eq]
  refine ⟨nonneg, within, fun _ value isValue => ?_⟩
  change (update.value.map (lerp 400 500)).getD character.targetArmLength = _
  rw [called, Option.mem_def.mp isValue]
  rfl

/-- A change of anything else stays on the track. -/
theorem OnTrack.of_same {other : RPGLearnGameCharacter} (onTrack : OnTrack character)
    (same : other.crouchTimeline = character.crouchTimeline ∧
      other.targetArmLength = character.targetArmLength) : OnTrack other := by
  obtain ⟨sameTimeline, sameCamera⟩ := same
  refine ⟨?_, ?_, ?_⟩
  · rw [sameTimeline]
    exact onTrack.nonneg
  · rw [sameTimeline]
    exact onTrack.within
  · rw [sameTimeline, sameCamera]
    exact onTrack.camera

/-- A tick of a timeline that plays moves it, and takes the camera with it. -/
theorem tick_of_playing (playing : character.crouchTimeline.playing = true) (deltaTime : ℚ) :
    character.tick deltaTime =
      let moved := (character.crouchTimeline.tickTimeline deltaTime).timeline
      { character with
        crouchTimeline := moved
        targetArmLength :=
          (moved.updateValue.map (lerp 400 500)).getD character.targetArmLength } := by
  rw [tick, driveTimeline_eq, (Timeline.tickTimeline_calls playing).2]

/-- A tick of a timeline that does not play does nothing. -/
theorem tick_of_stopped (stopped : character.crouchTimeline.playing = false) (deltaTime : ℚ) :
    character.tick deltaTime = character := by
  rw [tick, driveTimeline_eq, Timeline.tickTimeline_stopped stopped]
  rfl

/-- A tick stays on the track. -/
theorem OnTrack.tick (onTrack : OnTrack character) {deltaTime : ℚ} (nonneg : 0 ≤ deltaTime) :
    OnTrack (character.tick deltaTime) := by
  cases playing : character.crouchTimeline.playing with
  | false =>
      rw [tick_of_stopped playing]
      exact onTrack
  | true =>
      obtain ⟨start, finish⟩ := Timeline.tickTimeline_within onTrack.nonneg onTrack.within nonneg
      exact onTrack_driveTimeline start finish ((Timeline.tickTimeline_calls playing).2)

/-- Whatever happens to the character, the timeline stays on its track. -/
theorem onTrack_invariant : forward.Invariant fun session => OnTrack session.character where
  preserved := by
    rintro session callback onTrack ⟨admits, elapses⟩
    have room : 0 ≤ session.character.crouchTimeline.length :=
      onTrack.nonneg.trans onTrack.within
    change OnTrack (session.character.fire callback)
    cases callback with
    | startCrouch => exact onTrack_driveTimeline le_rfl room rfl
    | stopCrouch => exact onTrack_driveTimeline room le_rfl rfl
    | tick deltaTime => exact onTrack.tick elapses
    | startSprint | stopSprint | drainStamina | restoreStamina | movementUpdate
    | takeDamage _ | increaseHealth _ | increaseMaxHealth _ =>
        exact onTrack.of_same (fire_camera session.character ⟨nofun, nofun, nofun⟩)

/-- Two frames are one frame of the same time. -/
theorem OnTrack.tick_add (onTrack : OnTrack character) {first second : ℚ} (nonneg : 0 ≤ first)
    (later : 0 ≤ second) :
    (character.tick first).tick second = character.tick (first + second) := by
  cases playing : character.crouchTimeline.playing with
  | false => rw [tick_of_stopped playing, tick_of_stopped playing, tick_of_stopped playing]
  | true =>
      have merged := Timeline.tickTimeline_add onTrack.nonneg onTrack.within nonneg later
      rw [tick_of_playing playing, tick_of_playing playing, ← merged]
      cases stillPlaying :
        (character.crouchTimeline.tickTimeline first).timeline.playing with
      | false =>
          rw [tick_of_stopped stillPlaying, Timeline.tickTimeline_stopped stillPlaying]
      | true =>
          rw [tick_of_playing stillPlaying]
          -- Without a curve, neither frame moves the camera; with one, the later does.
          have sameTrack : ((character.crouchTimeline.tickTimeline first).timeline.tickTimeline
              second).timeline.interpFloat = _ := (Timeline.tickTimeline_calls stillPlaying).1
          simp only [Timeline.updateValue, sameTrack]
          cases (character.crouchTimeline.tickTimeline first).timeline.interpFloat <;> rfl

/-- A frame of no time does nothing. -/
theorem OnTrack.tick_zero (onTrack : OnTrack character) : character.tick 0 = character := by
  cases playing : character.crouchTimeline.playing with
  | false => exact tick_of_stopped playing 0
  | true =>
      have stays : (character.crouchTimeline.updateValue.map (lerp 400 500)).getD
          character.targetArmLength = character.targetArmLength := by
        cases called : character.crouchTimeline.updateValue with
        | none => rfl
        | some value => exact (onTrack.camera playing value called).symm
      rw [tick_of_playing playing, Timeline.tickTimeline_zero onTrack.nonneg onTrack.within]
      exact congrArg (fun targetArmLength => { character with targetArmLength }) stays

/-- The time of a frame. -/
def frameTime? : Callback → Option ℚ
  | .tick deltaTime => some deltaTime
  | _ => none

/-- Frames are pieces of time, as far as a character on its track is concerned. -/
theorem frame_timeFlow :
    forward.TimeFlow (fun session => OnTrack session.character) .tick frameTime? where
  supported := onTrack_invariant
  isLapse := by
    intro callback seconds isFrame
    cases callback with
    | tick deltaTime => exact congrArg Callback.tick (Option.some.inj isFrame)
    | _ => contradiction
  admits_iff := fun session seconds =>
    ⟨And.right, fun nonneg => ⟨fun drain => by contradiction, nonneg⟩⟩
  zero := fun {session} onTrack =>
    congrArg (fun character => (⟨character, session.keys⟩ : Session)) onTrack.tick_zero
  add := fun {session _ _} onTrack nonneg later =>
    congrArg (fun character => (⟨character, session.keys⟩ : Session))
      (onTrack.tick_add nonneg later)

/-- Two runs of a character that has begun to play, in which the same callbacks arrive at
the same times, leave it with the same camera and all the rest, into whatever frames
the time between the callbacks is cut. A camera curve that is set has its last key at some
time from zero on. -/
theorem forward_frameRate (playerStats : PlayerStatsComponent) (curve : Option CurveFloat)
    (room : ∀ track ∈ curve, 0 ≤ track.lastKey) (frames others : List Callback)
    (admissible : forward.Admissible ⟨(construct playerStats curve).beginPlay, {}⟩ frames)
    (otherAdmissible : forward.Admissible ⟨(construct playerStats curve).beginPlay, {}⟩ others)
    (sameSchedule : schedule frameTime? 0 frames = schedule frameTime? 0 others)
    (sameFinish : finish frameTime? 0 frames = finish frameTime? 0 others) :
    forward.run ⟨(construct playerStats curve).beginPlay, {}⟩ frames =
      forward.run ⟨(construct playerStats curve).beginPlay, {}⟩ others := by
  have onTrack : OnTrack (construct playerStats curve).beginPlay := by
    refine ⟨le_rfl, ?_, nofun⟩
    cases curve with
    | none => exact le_rfl
    | some track => exact room track rfl
  exact frame_timeFlow.run_eq onTrack admissible otherAdmissible sameSchedule sameFinish

/-- A crouch of a quarter of a second, in one frame and in three. -/
theorem forward_frameRate_quarter :
    forward.run ⟨(construct {} (some linearCurve)).beginPlay, {}⟩
        [.startCrouch, .tick (1 / 4), .stopCrouch] =
      forward.run ⟨(construct {} (some linearCurve)).beginPlay, {}⟩
        [.tick 0, .startCrouch, .tick (1 / 8), .tick (1 / 16), .tick (1 / 16), .stopCrouch] :=
  forward_frameRate {} (some linearCurve) (by decide +kernel) _ _ (by decide +kernel)
    (by decide +kernel) (by decide +kernel) (by decide +kernel)

end Session

end RPGLearnGame
