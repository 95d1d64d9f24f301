import RPGLearnGame.Character.Sprint
import RPGLearnGame.Semantics.Accounting

/-!
# Sprinting on the clock

Locomotion with the time between its callbacks. `SprintTime` counts down while it
is armed: time stands still at zero until it has fired, and each arming, like each
firing, starts the countdown afresh.

`DrainStamina` charges for an interval at its end. A press that arms the timer
therefore starts an interval that may be broken off unpaid, and the time at the
sprinting speed is bounded by one interval for each tick that spent and one for
each press that armed. The unpaid part of the running interval is the credit that
carries this through a run.
-/

namespace RPGLearnGame

/-- What happens to a character as time passes. -/
inductive Moment where
  | elapse (seconds : ℚ)
  | arrive (callback : Callback)
deriving DecidableEq, Repr

/-- A session and the time until an armed `SprintTime` fires next. -/
structure Clocked where
  session : Session
  countdown : ℚ := 0

namespace Clocked

open RPGLearnGameCharacter Session

/-- A callback restarts the countdown when it arms `SprintTime` or is its firing. -/
def Restarts (clocked : Clocked) : Callback → Prop
  | .startSprint => clocked.session.character.AcceptsSprint
  | .drainStamina => True
  | _ => False

instance (clocked : Clocked) : (callback : Callback) → Decidable (clocked.Restarts callback)
  | .startSprint => inferInstanceAs (Decidable clocked.session.character.AcceptsSprint)
  | .drainStamina => inferInstanceAs (Decidable True)
  | .startCrouch | .stopCrouch | .stopSprint | .restoreStamina | .movementUpdate | .tick _
  | .takeDamage _ | .increaseHealth _ | .increaseMaxHealth _ => inferInstanceAs (Decidable False)

/-- The state after one moment. -/
def after (clocked : Clocked) : Moment → Clocked
  | .elapse seconds => { clocked with countdown := clocked.countdown - seconds }
  | .arrive callback =>
      let session := locomotion.next clocked.session callback
      { session
        countdown :=
          if clocked.Restarts callback then session.character.sprintTime.rate
          else clocked.countdown }

/-- Time passes until an armed timer is due, and the timer fires when it is. -/
def Allows (clocked : Clocked) : Moment → Prop
  | .elapse seconds =>
      0 ≤ seconds ∧
        (clocked.session.character.sprintTime.armed = true → seconds ≤ clocked.countdown)
  | .arrive callback =>
      locomotion.Admits clocked.session callback ∧
        (callback = .drainStamina → clocked.countdown = 0)

instance (clocked : Clocked) : (moment : Moment) → Decidable (clocked.Allows moment)
  | .elapse _ => inferInstanceAs (Decidable (_ ∧ (_ → _)))
  | .arrive callback =>
      inferInstanceAs (Decidable (locomotion.Admits clocked.session callback ∧ (_ → _)))

/-- Timed locomotion. -/
def clock : EventMachine Clocked Moment where
  Admits := Allows
  next := after

instance (clocked : Clocked) (moment : Moment) : Decidable (clock.Admits clocked moment) :=
  inferInstanceAs (Decidable (clocked.Allows moment))

/-- The callbacks among the moments. -/
def arrivals (moments : List Moment) : List Callback :=
  moments.filterMap fun
    | .elapse _ => none
    | .arrive callback => some callback

/-- A timed run is a run of locomotion with time between its callbacks. -/
theorem clock_run_session (clocked : Clocked) (moments : List Moment)
    (admissible : clock.Admissible clocked moments) :
    locomotion.Admissible clocked.session (arrivals moments) ∧
      (clock.run clocked moments).session =
        locomotion.run clocked.session (arrivals moments) := by
  induction moments generalizing clocked with
  | nil => exact ⟨trivial, rfl⟩
  | cons moment rest inductionHypothesis =>
      obtain ⟨allows, later⟩ := admissible
      obtain ⟨runs, same⟩ := inductionHypothesis _ later
      cases moment with
      | elapse seconds => exact ⟨runs, same⟩
      | arrive callback => exact ⟨⟨allows.1, runs⟩, same⟩

/-- The time a moment spends at the sprinting speed. -/
def sprintingTime (clocked : Clocked) : Moment → ℚ
  | .elapse seconds => if clocked.session.character.maxWalkSpeed = 750 then seconds else 0
  | .arrive _ => 0

/-- A drain tick that lowers the stamina. -/
def Spends (clocked : Clocked) (moment : Moment) : Prop :=
  moment = .arrive .drainStamina ∧
    (clock.next clocked moment).session.character.playerStats.currentStamina <
      clocked.session.character.playerStats.currentStamina

instance (clocked : Clocked) (moment : Moment) : Decidable (clocked.Spends moment) :=
  inferInstanceAs (Decidable (_ ∧ _))

/-- A press of the sprint key that arms `SprintTime`. -/
def Arms (clocked : Clocked) (moment : Moment) : Prop :=
  moment = .arrive .startSprint ∧ clocked.session.character.AcceptsSprint

instance (clocked : Clocked) (moment : Moment) : Decidable (clocked.Arms moment) :=
  inferInstanceAs (Decidable (_ ∧ _))

/-- One interval for each tick that spends and for each press that arms. -/
def grant (clocked : Clocked) (moment : Moment) : ℚ :=
  1 / 10 * ((if clocked.Spends moment then 1 else 0) + (if clocked.Arms moment then 1 else 0))

/-- What is left of the running interval, while it is sprinted. -/
def credit (clocked : Clocked) : ℚ :=
  if clocked.session.character.maxWalkSpeed = 750 then clocked.countdown else 0

/-- Nothing is left to sprint at any other speed. -/
theorem credit_of_speed_ne {clocked : Clocked}
    (other : clocked.session.character.maxWalkSpeed ≠ 750) : clocked.credit = 0 := if_neg other

/-- A restarted countdown is that of the timer the callback leaves. -/
theorem countdown_of_restarts {clocked : Clocked} {callback : Callback}
    (restarts : clocked.Restarts callback) :
    (clock.next clocked (.arrive callback)).countdown =
      (clocked.session.character.fire callback).sprintTime.rate := if_pos restarts

theorem grant_nonneg (clocked : Clocked) (moment : Moment) : 0 ≤ clocked.grant moment := by
  unfold grant
  positivity

/-- A moment that spends or arms is granted a whole interval. -/
theorem interval_le_grant {clocked : Clocked} {moment : Moment}
    (granted : clocked.Spends moment ∨ clocked.Arms moment) :
    1 / 10 ≤ clocked.grant moment := by
  unfold grant
  rcases granted with spends | arms
  · rw [if_pos spends]
    split <;> norm_num
  · rw [if_pos arms]
    split <;> norm_num

/-- An armed `SprintTime` has the interval it is armed with, and its countdown has
not run past zero. -/
structure OnTime (clocked : Clocked) : Prop where
  live : LiveDrain clocked.session.character
  stocked : Stocked clocked.session.character
  speeds : clocked.session.character.ConstructedSpeeds
  rate : clocked.session.character.sprintTime.armed = true →
    clocked.session.character.sprintTime.rate = 1 / 10
  due : clocked.session.character.sprintTime.armed = true → 0 ≤ clocked.countdown

theorem OnTime.credit_nonneg {clocked : Clocked} (onTime : clocked.OnTime) :
    0 ≤ clocked.credit := by
  unfold credit
  split
  · rename_i speed
    exact onTime.due (onTime.live.speed speed)
  · exact le_rfl

/-- What a callback does to `SprintTime`: an accepted press arms it, a release clears it,
and nothing else touches it. -/
theorem fire_sprintTime {session : Session} {callback : Callback}
    (admits : locomotion.Admits session callback) :
    (session.character.fire callback).sprintTime = session.character.sprintTime ∨
      (callback = .startSprint ∧ session.character.AcceptsSprint ∧
        (session.character.fire callback).sprintTime = some ⟨1 / 10, true⟩) ∨
      (callback = .stopSprint ∧ (session.character.fire callback).sprintTime = none) := by
  refine fire_cases admits (fun _ _ => .inl rfl) (fun _ _ => .inl rfl) (fun accepts => ?_)
    (fun _ => .inl rfl) ?_ (fun _ _ => .inl rfl) (fun _ _ => .inl rfl) (.inl rfl) (.inl rfl)
  · exact .inr (.inl ⟨rfl, accepts, rfl⟩)
  · exact .inr (.inr ⟨rfl, rfl⟩)

/-- Every callback that leaves `SprintTime` armed leaves it with its interval. -/
theorem fire_rate {session : Session} {callback : Callback}
    (admits : locomotion.Admits session callback)
    (rate : session.character.sprintTime.armed = true →
      session.character.sprintTime.rate = 1 / 10)
    (armed : (session.character.fire callback).sprintTime.armed = true) :
    (session.character.fire callback).sprintTime.rate = 1 / 10 := by
  rcases fire_sprintTime admits with same | ⟨-, -, set⟩ | ⟨-, cleared⟩
  · rw [same] at armed ⊢
    exact rate armed
  · rw [set]
    rfl
  · rw [cleared] at armed
    exact absurd armed Bool.false_ne_true

/-- A timer that a callback does not restart was armed before if it is armed after. -/
theorem armed_of_not_restarts {clocked : Clocked} {callback : Callback}
    (admits : locomotion.Admits clocked.session callback)
    (notRestarted : ¬ clocked.Restarts callback)
    (armed : (clocked.session.character.fire callback).sprintTime.armed = true) :
    clocked.session.character.sprintTime.armed = true := by
  rcases fire_sprintTime admits with same | ⟨rfl, accepts, -⟩ | ⟨-, cleared⟩
  · rwa [same] at armed
  · exact absurd accepts notRestarted
  · rw [cleared] at armed
    exact absurd armed Bool.false_ne_true

/-- A moment leaves the timer on time: a countdown that is not restarted belongs to a
timer that was armed before. -/
theorem onTime_invariant : clock.Invariant OnTime where
  preserved := by
    rintro clocked moment onTime allows
    cases moment with
    | elapse seconds =>
        refine ⟨onTime.live, onTime.stocked, onTime.speeds, onTime.rate, fun armed => ?_⟩
        exact sub_nonneg.mpr (allows.2 armed)
    | arrive callback =>
        obtain ⟨admits, _⟩ := allows
        obtain ⟨live, stocked, speeds⟩ := liveDrain_invariant.preserved
          ⟨onTime.live, onTime.stocked, onTime.speeds⟩ admits
        have rate := fire_rate admits onTime.rate
        refine ⟨live, stocked, speeds, rate, fun armed => ?_⟩
        change 0 ≤ if clocked.Restarts callback then _ else _
        split
        · have interval : (0 : ℚ) ≤ 1 / 10 := by norm_num
          exact interval.trans_eq (rate armed).symm
        · rename_i notRestarted
          exact onTime.due (armed_of_not_restarts admits notRestarted armed)

/-- Locomotion at another speed than the sprinting speed leaves no credit. -/
theorem pays_of_speed_ne {clocked : Clocked} {moment : Moment} (onTime : clocked.OnTime)
    (idle : clocked.sprintingTime moment = 0)
    (other : (clock.next clocked moment).session.character.maxWalkSpeed ≠ 750) :
    clocked.sprintingTime moment + (clock.next clocked moment).credit ≤
      clocked.grant moment + clocked.credit := by
  rw [idle, credit_of_speed_ne other, add_zero]
  exact add_nonneg (clocked.grant_nonneg moment) onTime.credit_nonneg

/-- A restarted interval is paid by its grant. -/
theorem pays_of_granted {clocked : Clocked} {moment : Moment} (onTime : clocked.OnTime)
    (idle : clocked.sprintingTime moment = 0)
    (granted : clocked.Spends moment ∨ clocked.Arms moment)
    (restarted : (clock.next clocked moment).countdown = 1 / 10) :
    clocked.sprintingTime moment + (clock.next clocked moment).credit ≤
      clocked.grant moment + clocked.credit := by
  have interval : (clock.next clocked moment).credit ≤ 1 / 10 := by
    unfold credit
    split
    · exact restarted.le
    · norm_num
  have paid := interval_le_grant granted
  have before := onTime.credit_nonneg
  linarith

/-- A callback that leaves the speed and the countdown alone costs nothing. -/
theorem pays_of_unchanged {clocked : Clocked} {moment : Moment}
    (idle : clocked.sprintingTime moment = 0)
    (same : (clock.next clocked moment).credit = clocked.credit) :
    clocked.sprintingTime moment + (clock.next clocked moment).credit ≤
      clocked.grant moment + clocked.credit := by
  rw [idle, same]
  exact add_le_add_left (clocked.grant_nonneg moment) clocked.credit

/-- Every moment pays for the time it spends sprinting and for the interval it
starts. -/
theorem clock_funded : clock.Funded OnTime sprintingTime grant credit where
  supported := onTime_invariant
  nonneg := OnTime.credit_nonneg
  pays := by
    rintro clocked moment onTime allows
    cases moment with
    | elapse seconds =>
        have granted := clocked.grant_nonneg (.elapse seconds)
        by_cases speed : clocked.session.character.maxWalkSpeed = 750
        · have cost : clocked.sprintingTime (.elapse seconds) = seconds := if_pos speed
          have before : clocked.credit = clocked.countdown := if_pos speed
          have later : (clock.next clocked (.elapse seconds)).credit =
              clocked.countdown - seconds := if_pos speed
          linarith
        · exact pays_of_speed_ne onTime (if_neg speed) speed
    | arrive callback =>
        obtain ⟨admits, _⟩ := allows
        refine locomotion_cases admits ?_ ?_ ?_ ?_ (fun armed => ?_) ?_ ?_
        · refine pays_of_speed_ne onTime rfl ?_
          change (clocked.session.character.startCrouch).maxWalkSpeed ≠ 750
          rw [startCrouch_eq]
          norm_num [onTime.speeds.crouched]
        · refine pays_of_speed_ne onTime rfl ?_
          change (clocked.session.character.stopCrouch).maxWalkSpeed ≠ 750
          rw [stopCrouch_eq]
          norm_num [onTime.speeds.walk]
        · by_cases accepts : clocked.session.character.AcceptsSprint
          · refine pays_of_granted onTime rfl (.inr ⟨rfl, accepts⟩) ?_
            have restarts : clocked.Restarts .startSprint := accepts
            rw [countdown_of_restarts restarts, fire, startSprint_of_accepts _ accepts]
            rfl
          · refine pays_of_unchanged rfl ?_
            have refused : clock.next clocked (.arrive .startSprint) =
                ⟨locomotion.next clocked.session .startSprint, clocked.countdown⟩ :=
              congrArg _ (if_neg accepts)
            rw [refused, credit, credit, next_character, fire, startSprint_of_refuses _ accepts]
        · refine pays_of_speed_ne onTime rfl ?_
          change (500 : ℚ) ≠ 750
          norm_num
        · cases canSprint : clocked.session.character.canSprint with
          | false =>
              refine pays_of_speed_ne onTime rfl ?_
              change clocked.session.character.drainStamina.maxWalkSpeed ≠ 750
              rw [drainStamina_of_exhausted _ canSprint]
              norm_num
          | true =>
              have lowers := clocked.session.character.drainStamina_lowers_iff.mpr
                ⟨canSprint, onTime.stocked.left canSprint⟩
              refine pays_of_granted onTime rfl (.inl ⟨rfl, lowers⟩) ?_
              have restarts : clocked.Restarts .drainStamina := trivial
              rw [countdown_of_restarts restarts, fire, drainStamina_of_canSprint _ canSprint]
              exact onTime.rate armed
        · exact pays_of_unchanged rfl rfl
        · exact pays_of_unchanged rfl rfl

/-- The constructed character on the clock. -/
def started (playerStats : PlayerStatsComponent) (curve : Option CurveFloat) : Clocked :=
  { session := ⟨construct playerStats curve, {}⟩ }

/-- Along any timed run of a constructed character with stamina left, the time at the
sprinting speed is at most one interval for each drain tick that spent and one for each
press that armed the timer. -/
theorem clock_sprintingTime_le (playerStats : PlayerStatsComponent) (curve : Option CurveFloat)
    (left : 0 < playerStats.currentStamina) (positive : 0 < playerStats.maxStamina)
    (moments : List Moment) (admissible : clock.Admissible (started playerStats curve) moments) :
    clock.total sprintingTime (started playerStats curve) moments ≤
      1 / 10 * (clock.count Spends (started playerStats curve) moments +
        clock.count Arms (started playerStats curve) moments) := by
  have onTime : OnTime (started playerStats curve) :=
    ⟨construct_liveDrain playerStats curve, construct_stocked curve left positive, ⟨rfl, rfl⟩,
      fun armed => absurd armed Bool.false_ne_true, fun _ => le_rfl⟩
  have noCredit : (started playerStats curve).credit = 0 := by
    refine credit_of_speed_ne ?_
    norm_num [started, construct]
  have bounded := clock_funded.total_le onTime admissible
  rw [noCredit, add_zero] at bounded
  refine bounded.trans_eq ?_
  rw [EventMachine.cast_count, EventMachine.cast_count, ← EventMachine.total_add,
    ← EventMachine.total_mul_left]
  rfl

/-- A sprint through two intervals, broken off in the third. -/
def brokenSprint : List Moment :=
  [.arrive .startSprint, .elapse (1 / 10), .arrive .drainStamina, .elapse (1 / 10),
    .arrive .drainStamina, .elapse (1 / 20), .arrive .stopSprint]

theorem clock_sprintingTime_le_broken_sprint :
    clock.total sprintingTime (started {} none) brokenSprint ≤
      1 / 10 * (clock.count Spends (started {} none) brokenSprint +
        clock.count Arms (started {} none) brokenSprint) :=
  clock_sprintingTime_le {} none (by decide +kernel) (by decide +kernel) _ (by decide +kernel)

/-- Two taps of the sprint key, each released before its first tick. -/
def freeTaps : List Moment :=
  [.arrive .startSprint, .elapse (9 / 100), .arrive .stopSprint,
    .arrive .startSprint, .elapse (9 / 100), .arrive .stopSprint]

/-- One press whose first tick finds the gauge emptied by a restore below a ceiling of
zero. -/
def faintingSprint : List Moment :=
  [.arrive .startSprint, .arrive .restoreStamina, .elapse (1 / 10), .arrive .drainStamina,
    .elapse (1 / 10)]

/-- One interval more than the ticks that spent is not enough: neither for two taps, nor
for a single press below a ceiling of zero. -/
theorem free_taps_sprint_longer :
    (clock.Admissible (started {} none) freeTaps ∧
      ¬ clock.total sprintingTime (started {} none) freeTaps ≤
        1 / 10 * (clock.count Spends (started {} none) freeTaps + 1)) ∧
    (clock.Admissible (started { stamina := ⟨1, 0⟩ } none) faintingSprint ∧
      ¬ clock.total sprintingTime (started { stamina := ⟨1, 0⟩ } none) faintingSprint ≤
        1 / 10 * (clock.count Spends (started { stamina := ⟨1, 0⟩ } none) faintingSprint + 1)) := by
  decide +kernel

end Clocked

end RPGLearnGame
