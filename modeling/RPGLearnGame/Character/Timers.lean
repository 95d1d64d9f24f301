import RPGLearnGame.Arithmetic.Ledger
import RPGLearnGame.Character.Clock
import RPGLearnGame.Semantics.Periodic

/-!
# Both timers on the clock

The clock again, with the countdown of `RestoreTime` beside that of `SprintTime`. The
drain takes ten stamina a second while the sprint key is held, and the restore gives one
back, sprinting or not. So a sprint that is held ends: the character is exhausted after
a time that the stamina it started with bounds from both sides, whatever else arrives
in between. And a character that is not drained is whole again after a second for each
stamina it lacks.
-/

namespace RPGLearnGame

open EventMachine

/-- The clock with the time until `RestoreTime` fires next. -/
structure Timers where
  clocked : Clocked
  restoreCountdown : ℚ

namespace Timers

open RPGLearnGameCharacter Session Clocked

abbrev character (timers : Timers) : RPGLearnGameCharacter := timers.clocked.session.character

/-- The stamina that is left. -/
abbrev level (timers : Timers) : ℚ := timers.character.playerStats.stamina.current

/-- The state after one moment. A firing of `RestoreTime` starts it afresh. -/
def after (timers : Timers) (moment : Moment) : Timers where
  clocked := timers.clocked.after moment
  restoreCountdown :=
    match moment with
    | .elapse seconds => timers.restoreCountdown - seconds
    | .arrive callback =>
        if callback = .restoreStamina then timers.character.restoreTime.rate
        else timers.restoreCountdown

/-- Time passes until one of the armed timers is due, and a timer fires when it is. -/
def Allows (timers : Timers) (moment : Moment) : Prop :=
  timers.clocked.Allows moment ∧
    match moment with
    | .elapse seconds =>
        timers.character.restoreTime.armed = true → seconds ≤ timers.restoreCountdown
    | .arrive callback =>
        callback = .restoreStamina →
          timers.character.restoreTime.armed = true ∧ timers.restoreCountdown = 0

instance (timers : Timers) : (moment : Moment) → Decidable (timers.Allows moment)
  | .elapse _ => inferInstanceAs (Decidable (_ ∧ (_ → _)))
  | .arrive _ => inferInstanceAs (Decidable (_ ∧ (_ → _ ∧ _)))

/-- Locomotion with both timers. -/
def ticking : EventMachine Timers Moment where
  Admits := Allows
  next := after

instance (timers : Timers) (moment : Moment) : Decidable (ticking.Admits timers moment) :=
  inferInstanceAs (Decidable (timers.Allows moment))

/-- What locomotion keeps, it keeps on the clock. -/
theorem session_invariant {property : Session → Prop} (invariant : locomotion.Invariant property) :
    ticking.Invariant fun timers => property timers.clocked.session where
  preserved := by
    intro timers moment holds allows
    cases moment with
    | elapse seconds => exact holds
    | arrive callback => exact invariant.preserved holds allows.1.1

/-- The time that a moment takes. -/
def elapsed (_timers : Timers) : Moment → ℚ
  | .elapse seconds => seconds
  | .arrive _ => 0

/-- `DrainStamina` fires. -/
def Drains (_timers : Timers) (moment : Moment) : Prop := moment = .arrive .drainStamina

/-- `RestoreStamina` fires. -/
def Restores (_timers : Timers) (moment : Moment) : Prop := moment = .arrive .restoreStamina

instance (timers : Timers) (moment : Moment) : Decidable (timers.Drains moment) :=
  inferInstanceAs (Decidable (_ = _))

instance (timers : Timers) (moment : Moment) : Decidable (timers.Restores moment) :=
  inferInstanceAs (Decidable (_ = _))

section Restoring

/-- `RestoreTime` runs with the interval that `BeginPlay` gave it. -/
structure Restoring (timers : Timers) : Prop where
  armed : timers.character.restoreTime = some ⟨1, true⟩
  nonneg : 0 ≤ timers.restoreCountdown
  within : timers.restoreCountdown ≤ 1

/-- `RestoreTime` fires once a second in every run. -/
theorem restore_periodic :
    ticking.Periodic Restoring elapsed Restores restoreCountdown 1 where
  supported := by
    constructor
    rintro timers moment restoring ⟨allows, onTime⟩
    have isArmed : timers.character.restoreTime.armed = true := by rw [restoring.armed]; rfl
    cases moment with
    | elapse seconds =>
        refine ⟨restoring.armed, sub_nonneg.mpr (onTime isArmed), ?_⟩
        exact (sub_le_self _ allows.1).trans restoring.within
    | arrive callback =>
        refine ⟨(fire_restoreTime allows.1).trans restoring.armed, ?_, ?_⟩
        · change 0 ≤ if callback = .restoreStamina then _ else _
          split
          · rw [restoring.armed]
            exact zero_le_one
          · exact restoring.nonneg
        · change (if callback = .restoreStamina then _ else _) ≤ (1 : ℚ)
          split
          · rw [restoring.armed]
            exact le_rfl
          · exact restoring.within
  within := fun restoring => ⟨restoring.nonneg, restoring.within⟩
  runs := by
    rintro timers moment restoring ⟨_, onTime⟩
    cases moment with
    | elapse seconds => simp [ticking, after, elapsed, Restores]
    | arrive callback =>
        by_cases fires : callback = .restoreStamina
        · have due := (onTime fires).2
          simp [ticking, after, elapsed, Restores, fires, due, restoring.armed,
            TimerHandle.rate]
        · simp [ticking, after, elapsed, Restores, fires]

end Restoring

section Held

/-- The sprint key is neither pressed nor released. -/
def HoldsSprint (_timers : Timers) (moment : Moment) : Prop :=
  moment ≠ .arrive .startSprint ∧ moment ≠ .arrive .stopSprint

instance (timers : Timers) (moment : Moment) : Decidable (timers.HoldsSprint moment) :=
  inferInstanceAs (Decidable (_ ∧ _))

/-- Both timers while the sprint key is held. -/
def held : EventMachine Timers Moment := ticking.guarded HoldsSprint

instance (timers : Timers) (moment : Moment) : Decidable (held.Admits timers moment) :=
  inferInstanceAs (Decidable (ticking.Admits timers moment ∧ timers.HoldsSprint moment))

/-- `SprintTime` runs with the interval that `StartSprint` gave it. -/
structure Sprinting (timers : Timers) : Prop where
  armed : timers.character.sprintTime = some ⟨1 / 10, true⟩
  nonneg : 0 ≤ timers.clocked.countdown
  within : timers.clocked.countdown ≤ 1 / 10

/-- No callback of a held key touches `SprintTime`. -/
theorem Sprinting.fire_armed {timers : Timers} (sprinting : timers.Sprinting)
    {callback : Callback} (admits : held.Admits timers (.arrive callback)) :
    (timers.character.fire callback).sprintTime = some ⟨1 / 10, true⟩ := by
  obtain ⟨⟨allows, -⟩, notPressed, notReleased⟩ := admits
  rcases fire_sprintTime allows.1 with same | ⟨rfl, -⟩ | ⟨rfl, -⟩
  · exact same.trans sprinting.armed
  · exact absurd rfl notPressed
  · exact absurd rfl notReleased

/-- A held key restarts the countdown only when the timer fires. -/
theorem Sprinting.countdown_next {timers : Timers} (sprinting : timers.Sprinting)
    {callback : Callback} (admits : held.Admits timers (.arrive callback)) :
    (held.next timers (.arrive callback)).clocked.countdown =
      if callback = .drainStamina then 1 / 10 else timers.clocked.countdown := by
  have armed := sprinting.fire_armed admits
  by_cases fires : callback = .drainStamina
  · subst fires
    rw [if_pos rfl]
    exact congrArg TimerHandle.rate armed
  · have stays : ¬ timers.clocked.Restarts callback := by
      cases callback with
      | startSprint => exact absurd rfl admits.2.1
      | drainStamina => exact absurd rfl fires
      | _ => exact id
    rw [if_neg fires]
    exact if_neg stays

/-- While the key is held, `SprintTime` fires ten times a second. -/
theorem drain_periodic :
    held.Periodic Sprinting elapsed Drains (fun timers => timers.clocked.countdown) (1 / 10) where
  supported := by
    constructor
    intro timers moment sprinting admits
    have isArmed : timers.character.sprintTime.armed = true := by rw [sprinting.armed]; rfl
    cases moment with
    | elapse seconds =>
        have allows := admits.1.1
        refine ⟨sprinting.armed, sub_nonneg.mpr (allows.2 isArmed), ?_⟩
        exact (sub_le_self _ allows.1).trans sprinting.within
    | arrive callback =>
        refine ⟨sprinting.fire_armed admits, ?_, ?_⟩
        · rw [sprinting.countdown_next admits]
          split
          · norm_num
          · exact sprinting.nonneg
        · rw [sprinting.countdown_next admits]
          split
          · exact le_rfl
          · exact sprinting.within
  within := fun sprinting => ⟨sprinting.nonneg, sprinting.within⟩
  runs := by
    intro timers moment sprinting admits
    cases moment with
    | elapse seconds => simp [held, ticking, after, Clocked.after, elapsed, Drains]
    | arrive callback =>
        rw [sprinting.countdown_next admits]
        by_cases fires : callback = .drainStamina
        · have due : timers.clocked.countdown = 0 := admits.1.1.2 fires
          simp [elapsed, Drains, fires, due]
        · simp [elapsed, Drains, fires]

end Held

section Exhaustion

/-- A callback that leaves the character able to sprint lowers the stamina by one if it
is a drain, and raises it by at most one if it is a restore. -/
theorem fire_level_le {session : Session} {callback : Callback}
    (admits : locomotion.Admits session callback) (stocked : Stocked session.character)
    (able : (session.character.fire callback).canSprint = true) :
    (session.character.fire callback).playerStats.stamina.current ≤
      session.character.playerStats.stamina.current +
        (if callback = .restoreStamina then 1 else 0) -
          (if callback = .drainStamina then 1 else 0) := by
  revert able
  refine fire_cases admits ?pressed ?released ?accepted ?refused ?stopped ?exhausted ?drained
    ?restored ?moved
  case exhausted => exact fun _ exhausted able => absurd (exhausted.symm.trans able) (by decide)
  case drained =>
    intro _ canSprint _
    simp [Gauge.spend_of_not_empty (stocked.left canSprint)]
  all_goals
    intros
    simp

/-- The stamina of a character that can sprint, and nothing for an exhausted one. -/
def breath (character : RPGLearnGameCharacter) : ℚ :=
  if character.canSprint then character.playerStats.stamina.current else 0

/-- Only a drain takes breath away, and at most one stamina of it. -/
theorem breath_le_fire {session : Session} {callback : Callback}
    (admits : locomotion.Admits session callback)
    (bounded : session.character.playerStats.stamina.current ≤
      session.character.playerStats.stamina.max) :
    breath session.character ≤
      breath (session.character.fire callback) + if callback = .drainStamina then 1 else 0 := by
  refine fire_cases admits ?pressed ?released ?accepted ?refused ?stopped ?exhausted ?drained
    ?restored ?moved
  case exhausted =>
    intro _ exhausted
    simp [breath, exhausted]
  case drained =>
    intro _ canSprint
    by_cases lasts : session.character.Lasts
    · have left : ¬ session.character.playerStats.stamina.Empty :=
        not_le.mpr (zero_lt_one.trans lasts)
      simp [breath, canSprint, lasts, Gauge.spend_of_not_empty left]
    · have last : session.character.playerStats.stamina.current ≤ 1 := not_lt.mp lasts
      simpa [breath, canSprint, lasts] using last
  case restored =>
    by_cases canSprint : session.character.canSprint = true
    · simp [breath, canSprint, bounded]
    · simp [breath, canSprint]
  all_goals
    intros
    simp [breath]

/-- A held key that leaves the character able to sprint. -/
def lasting : EventMachine Timers Moment :=
  held.guarded fun timers moment => (held.next timers moment).character.canSprint = true

/-- Both timers run on time, and a character that can sprint has stamina. -/
structure Underway (timers : Timers) : Prop where
  sprinting : timers.Sprinting
  restoring : timers.Restoring
  stocked : Stocked timers.character

theorem underway_invariant : held.Invariant Underway where
  preserved := fun underway admits =>
    ⟨drain_periodic.supported.preserved underway.sprinting admits,
      restore_periodic.supported.preserved underway.restoring admits.1,
      (session_invariant stocked_invariant).preserved underway.stocked admits.1⟩

/-- While the character can sprint, the drains of a run take no more than it had and the
restores gave. -/
theorem drains_le_of_able {timers : Timers} {moments : List Moment} (underway : timers.Underway)
    (admissible : held.Admissible timers moments)
    (able : (held.run timers moments).character.canSprint = true) :
    (held.count Drains timers moments : ℚ) ≤
      held.count Restores timers moments + timers.level := by
  have exhausted : held.Invariant fun timers => timers.character.canSprint = false :=
    (session_invariant exhausted_invariant).guarded
  have lost : held.Invariant fun timers => ¬ timers.character.canSprint = true := by
    simpa only [Bool.not_eq_true] using exhausted
  have throughout := lost.throughout_of_final admissible able
  have lasts : lasting.Admissible timers moments :=
    (eachStep_guarded _ _ _).mpr ((eachStep_and _ _).mpr ⟨admissible, throughout.eachStep_next⟩)
  have stocked := (underway_invariant.throughout underway admissible).final.stocked
  have left : 0 ≤ (held.run timers moments).level := (not_le.mp (stocked.left able)).le
  have invariant : lasting.Invariant Underway := underway_invariant.guarded
  have falls := potential_le_total
    (fun timers moment =>
      (if Restores timers moment then 1 else 0) + -1 * (if Drains timers moment then 1 else 0))
    invariant (fun timers => -timers.level) (fun {timers moment} underway admits => ?_) underway
    lasts
  · rw [total_add, total_mul_left, ← cast_count, ← cast_count, lasting, count_guarded,
      count_guarded, run_guarded] at falls
    linarith
  · cases moment with
    | elapse seconds => simp [lasting, held, ticking, after, Clocked.after, Restores, Drains]
    | arrive callback =>
        have step := fire_level_le admits.1.1.1.1 underway.stocked admits.2
        have next : (lasting.next timers (.arrive callback)).level =
            (timers.character.fire callback).playerStats.stamina.current := rfl
        rw [next]
        simp only [Restores, Drains, Moment.arrive.injEq]
        linarith

/-- The stamina stays under its maximum. -/
theorem bounded_invariant : locomotion.Invariant fun session =>
    session.character.playerStats.stamina.current ≤ session.character.playerStats.stamina.max where
  preserved := by
    intro session callback bounded admits
    rw [next_character]
    refine fire_cases admits ?pressed ?released ?accepted ?refused ?stopped ?exhausted ?drained
      ?restored ?moved
    case drained =>
      intro _ _
      rw [Gauge.spend_max]
      exact (Gauge.spend_current_le zero_le_one).trans bounded
    case restored => exact min_le_right _ _
    all_goals
      intros
      exact bounded

/-- The drains of a run that exhausts a character take at least what it had. -/
theorem le_drains_of_exhausted {timers : Timers} {moments : List Moment}
    (canSprint : timers.character.canSprint = true)
    (bounded : timers.level ≤ timers.character.playerStats.maxStamina)
    (admissible : held.Admissible timers moments)
    (exhausted : (held.run timers moments).character.canSprint = false) :
    timers.level ≤ held.count Drains timers moments := by
  have invariant : held.Invariant fun timers =>
      timers.level ≤ timers.character.playerStats.maxStamina :=
    (session_invariant bounded_invariant).guarded
  have falls := potential_le_total (fun timers moment => if Drains timers moment then 1 else 0)
    invariant (fun timers => breath timers.character) (fun {timers moment} bounded admits => ?_)
    bounded admissible
  · rw [← cast_count] at falls
    have before : breath timers.character = timers.level := if_pos canSprint
    have nothing : breath (held.run timers moments).character = 0 := by simp [breath, exhausted]
    rwa [before, nothing, zero_add] at falls
  · cases moment with
    | elapse seconds => simp [held, ticking, after, Clocked.after, Drains]
    | arrive callback =>
        have step := breath_le_fire admits.1.1.1 bounded
        have next : (held.next timers (.arrive callback)).character =
            timers.character.fire callback := rfl
        rw [next]
        simpa only [Drains, Moment.arrive.injEq] using step

/-- A sprint key that is held for `T` seconds exhausts a character with stamina `s` if
`s + 2 < 9 T`, and leaves it able to sprint if `10 T + 1 < s`, whatever other callbacks
arrive meanwhile. -/
theorem held_exhausts (timers : Timers) (underway : timers.Underway)
    (canSprint : timers.character.canSprint = true)
    (bounded : timers.level ≤ timers.character.playerStats.maxStamina) (moments : List Moment)
    (admissible : held.Admissible timers moments) :
    (timers.level + 2 < 9 * held.total elapsed timers moments →
        (held.run timers moments).character.canSprint = false) ∧
      (10 * held.total elapsed timers moments + 1 < timers.level →
        (held.run timers moments).character.canSprint = true) := by
  have drains := drain_periodic.le_count underway.sprinting admissible
  have drainsAtMost := drain_periodic.count_le underway.sprinting admissible
  have restoring : held.Periodic Restoring elapsed Restores restoreCountdown 1 :=
    restore_periodic.guarded
  have restores := restoring.count_le underway.restoring admissible
  constructor
  · intro long
    refine Bool.eq_false_of_not_eq_true fun able => ?_
    have paid := drains_le_of_able underway admissible able
    linarith
  · intro short
    by_contra exhausted
    have spent := le_drains_of_exhausted canSprint bounded admissible
      (Bool.eq_false_of_not_eq_true exhausted)
    linarith

end Exhaustion

section Regeneration

/-- What a callback enters in the books of the stamina. -/
def staminaEntries (character : RPGLearnGameCharacter) : Callback → List (Gauge.Entry ℚ)
  | .drainStamina => if character.canSprint then [.spend 1] else []
  | .restoreStamina => [.refill 1]
  | _ => []

/-- The stamina moves by the entries of the callback. -/
theorem fire_stamina (character : RPGLearnGameCharacter) (callback : Callback) :
    (character.fire callback).playerStats.stamina =
      Gauge.entries.run character.playerStats.stamina (staminaEntries character callback) := by
  cases callback with
  | startCrouch => rw [fire, startCrouch_eq]; rfl
  | stopCrouch => rw [fire, stopCrouch_eq]; rfl
  | startSprint =>
      obtain ⟨_, _, pressed⟩ := character.startSprint_frame
      rw [fire, pressed]
      rfl
  | drainStamina =>
      cases canSprint : character.canSprint with
      | true =>
          rw [fire, drainStamina_of_canSprint _ canSprint, staminaEntries, if_pos canSprint]
          rfl
      | false =>
          rw [fire, drainStamina_of_exhausted _ canSprint, staminaEntries, canSprint]
          rfl
  | restoreStamina => rw [fire, restoreStamina_eq]; rfl
  | tick deltaTime => rw [fire, RPGLearnGameCharacter.tick, driveTimeline_eq]; rfl
  | takeDamage damageAmount =>
      rw [fire, takeDamage]
      dsimp only
      split <;> rfl
  | stopSprint | movementUpdate | increaseHealth | increaseMaxHealth => rfl

/-- Both timers while no drain fires. -/
def undrained : EventMachine Timers Moment :=
  ticking.guarded fun timers moment => ¬ timers.Drains moment

instance (timers : Timers) (moment : Moment) : Decidable (undrained.Admits timers moment) :=
  inferInstanceAs (Decidable (ticking.Admits timers moment ∧ ¬ timers.Drains moment))

/-- Without drains the stamina is refilled once for each restore. -/
theorem undrained_stamina {timers : Timers} {moments : List Moment}
    (admissible : undrained.Admissible timers moments) :
    (undrained.run timers moments).character.playerStats.stamina =
      Gauge.entries.run timers.character.playerStats.stamina
        (List.replicate (undrained.count Restores timers moments) (.refill 1)) := by
  induction moments generalizing timers with
  | nil => rfl
  | cons moment rest inductionHypothesis =>
      obtain ⟨⟨-, notDrained⟩, later⟩ := admissible
      rw [run_cons, inductionHypothesis later, count_cons]
      cases moment with
      | elapse seconds => simp [undrained, ticking, after, Clocked.after, Restores]
      | arrive callback =>
          have next : (undrained.next timers (.arrive callback)).character =
              timers.character.fire callback := rfl
          rw [next, fire_stamina]
          by_cases restores : callback = .restoreStamina
          · subst restores
            have fires : timers.Restores (.arrive .restoreStamina) := rfl
            rw [if_pos fires, Nat.add_comm, List.replicate_succ]
            rfl
          · have silent : staminaEntries timers.character callback = [] := by
              cases callback with
              | drainStamina => exact absurd rfl notDrained
              | restoreStamina => exact absurd rfl restores
              | _ => rfl
            rw [silent, if_neg (by simpa [Restores] using restores), zero_add]
            rfl

/-- A character that is not drained gets one stamina back each second: whatever else
happens to it, after any time it has that much more than at the start, up to one for
each end of the run, and no more than its maximum. -/
theorem undrained_restores (timers : Timers) (restoring : timers.Restoring)
    (bounded : timers.level ≤ timers.character.playerStats.maxStamina) (moments : List Moment)
    (admissible : undrained.Admissible timers moments) :
    min (timers.level + undrained.total elapsed timers moments - 1)
          timers.character.playerStats.maxStamina ≤ (undrained.run timers moments).level ∧
      (undrained.run timers moments).level ≤
        min (timers.level + undrained.total elapsed timers moments + 1)
          timers.character.playerStats.maxStamina := by
  have periodic : undrained.Periodic Restoring elapsed Restores restoreCountdown 1 :=
    restore_periodic.guarded
  have atLeast := periodic.le_count restoring admissible
  have atMost := periodic.count_le restoring admissible
  have refilled : (undrained.run timers moments).level =
      min (timers.level + undrained.count Restores timers moments * 1)
        timers.character.playerStats.maxStamina := by
    have stamina := undrained_stamina admissible
    rw [Gauge.entries_run_replicate zero_le_one bounded] at stamina
    exact congrArg Gauge.current stamina
  rw [refilled]
  constructor
  · refine min_le_min_right _ ?_
    linarith
  · refine min_le_min_right _ ?_
    linarith

end Regeneration

/-- A character that has begun to play and pressed the sprint key. -/
def sprinter (playerStats : PlayerStatsComponent) : Timers :=
  ticking.run ⟨{ session := ⟨(construct playerStats).beginPlay, {}⟩ }, 1⟩ [.arrive .startSprint]

/-- A tenth of a second of sprinting, and the drain that it costs. -/
def stride : List Moment := [.elapse (1 / 10), .arrive .drainStamina]

/-- One stamina does not last four tenths of a second. -/
theorem held_exhausts_four_strides :
    (held.run (sprinter { stamina := ⟨1, 100⟩ })
      (stride ++ stride ++ stride ++ stride)).character.canSprint = false :=
  (held_exhausts (sprinter { stamina := ⟨1, 100⟩ })
    ⟨⟨rfl, by decide +kernel, by decide +kernel⟩, ⟨rfl, by decide +kernel, by decide +kernel⟩,
      ⟨by decide +kernel, fun _ => by decide +kernel⟩⟩ rfl (by decide +kernel) _
    (by decide +kernel)).1 (by decide +kernel)

/-- Two seconds after a press that was let go at once, at least one stamina is back. -/
theorem undrained_restores_two_seconds :
    51 ≤ (undrained.run (sprinter { stamina := ⟨50, 100⟩ })
      [.arrive .stopSprint, .elapse 1, .arrive .restoreStamina, .elapse 1]).level := by
  have restored := undrained_restores (sprinter { stamina := ⟨50, 100⟩ })
    ⟨rfl, by decide +kernel, by decide +kernel⟩ (by decide +kernel)
    [.arrive .stopSprint, .elapse 1, .arrive .restoreStamina, .elapse 1] (by decide +kernel)
  exact le_trans (by decide +kernel) restored.1

end Timers

end RPGLearnGame
