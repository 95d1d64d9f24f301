import RPGLearnGame.Character.Timers

/-!
# The sprint budget

Ten stamina a second go into a sprint and one a second comes back, so in the long run a
character sprints for at most a tenth of the time. `sprint_funded` keeps the account: what
is sprinted is paid by the stamina at hand, by the restores, and by the presses that start
an interval nobody pays for.
-/

namespace RPGLearnGame

open EventMachine

namespace Timers

open RPGLearnGameCharacter Session Clocked

/-- The time that a moment spends at the sprinting speed. -/
def sprintingTime (timers : Timers) (moment : Moment) : ℚ := timers.clocked.sprintingTime moment

/-- A press of the sprint key that arms `SprintTime`. -/
def Arms (timers : Timers) (moment : Moment) : Prop := timers.clocked.Arms moment

instance (timers : Timers) (moment : Moment) : Decidable (timers.Arms moment) :=
  inferInstanceAs (Decidable (timers.clocked.Arms moment))

/-- The stamina of a character that can sprint. An exhausted one never spends again and is
written off at the least that its last drain may have left. -/
def reserve (character : RPGLearnGameCharacter) : ℚ :=
  if character.canSprint then character.playerStats.stamina.current else -1

/-- A drain that spends takes at least one from the reserve, and a restore adds at most
one. -/
theorem reserve_fire_le {session : Session} {callback : Callback}
    (admits : locomotion.Admits session callback) (stocked : Stocked session.character) :
    (if callback = .drainStamina ∧
          (session.character.fire callback).playerStats.stamina.current <
            session.character.playerStats.stamina.current then 1 else 0) +
        reserve (session.character.fire callback) ≤
      (if callback = .restoreStamina then 1 else 0) + reserve session.character := by
  refine fire_cases admits ?pressed ?released ?accepted ?refused ?stopped ?exhausted ?drained
    ?restored ?moved
  case drained =>
    intro _ canSprint
    have left := stocked.left canSprint
    have positive := (Gauge.not_empty_iff _).mp left
    by_cases lasts : session.character.Lasts
    · simp [reserve, canSprint, lasts, Gauge.spend_of_not_empty left]
    · simp [reserve, canSprint, lasts, Gauge.spend_of_not_empty left, positive.le]
  case restored =>
    by_cases canSprint : session.character.canSprint = true
    · simp [reserve, canSprint, add_comm]
    · simp [reserve, canSprint]
  all_goals
    intros
    simp [reserve]

/-- The timers are on time, and their character can pay for what it does. -/
structure Solvent (timers : Timers) : Prop where
  onTime : timers.clocked.OnTime
  restoring : timers.Restoring

theorem solvent_invariant : ticking.Invariant Solvent where
  preserved := fun solvent admits =>
    ⟨onTime_invariant.preserved solvent.onTime admits.1,
      restore_periodic.supported.preserved solvent.restoring admits⟩

/-- What a character has left to sprint with. -/
def funds (timers : Timers) : ℚ := 10 * timers.clocked.credit + (reserve timers.character + 1)

/-- Every second of sprinting costs ten stamina. What pays for it is the interval that a
press starts, the stamina that a restore gives, and the funds at hand. -/
theorem sprint_funded :
    ticking.Funded Solvent (fun timers moment => 10 * timers.sprintingTime moment)
      (fun timers moment =>
        (if timers.Arms moment then 1 else 0) + if timers.Restores moment then 1 else 0)
      funds where
  supported := solvent_invariant
  nonneg := by
    intro timers solvent
    have credit := solvent.onTime.credit_nonneg
    have owed : -1 ≤ reserve timers.character := by
      unfold reserve
      split
      · rename_i canSprint
        have left := (Gauge.not_empty_iff _).mp (solvent.onTime.stocked.left canSprint)
        linarith
      · exact le_rfl
    unfold funds
    linarith
  pays := by
    intro timers moment solvent admits
    have clocked := clock_funded.pays solvent.onTime admits.1
    have drained : (if timers.clocked.Spends moment then 1 else 0) +
          reserve (ticking.next timers moment).character ≤
        (if timers.Restores moment then 1 else 0) + reserve timers.character := by
      cases moment with
      | elapse seconds => simp [Spends, Restores, ticking, after, Clocked.after]
      | arrive callback =>
          have step := reserve_fire_le admits.1.1 solvent.onTime.stocked
          simp only [Spends, Restores, Moment.arrive.injEq]
          exact step
    have sameCredit : (ticking.next timers moment).clocked.credit =
        (clock.next timers.clocked moment).credit := rfl
    have sameArms : (if timers.Arms moment then (1 : ℚ) else 0) =
        if timers.clocked.Arms moment then 1 else 0 := rfl
    simp only [funds, sprintingTime, sameCredit, sameArms]
    unfold grant at clocked
    linarith

/-- A character that has begun to play. -/
def begun (playerStats : PlayerStatsComponent) (curve : Option CurveFloat) : Timers :=
  ⟨{ session := ⟨(construct playerStats curve).beginPlay, {}⟩ }, 1⟩

/-- A character that has begun to play with stamina left is solvent. -/
theorem begun_solvent {playerStats : PlayerStatsComponent} (curve : Option CurveFloat)
    (left : 0 < playerStats.currentStamina) (positive : 0 < playerStats.maxStamina) :
    (begun playerStats curve).Solvent := by
  have live := construct_liveDrain playerStats curve
  have stocked := construct_stocked curve left positive
  refine ⟨⟨⟨live.speed, live.flag⟩, ⟨stocked.positive, stocked.left⟩, ⟨rfl, rfl⟩, ?_, ?_⟩,
    ⟨rfl, zero_le_one, le_rfl⟩⟩
  · exact fun armed => absurd armed Bool.false_ne_true
  · exact fun _ => le_rfl

/-- From `BeginPlay` on, in every timed run of the keys and both timers, the seconds at the
sprinting speed, times ten, are at most the stamina at the start and one more, the seconds
that have passed, and the presses that armed the timer. -/
theorem ticking_sprint_budget (playerStats : PlayerStatsComponent) (curve : Option CurveFloat)
    (left : 0 < playerStats.currentStamina) (positive : 0 < playerStats.maxStamina)
    (moments : List Moment) (admissible : ticking.Admissible (begun playerStats curve) moments) :
    10 * ticking.total sprintingTime (begun playerStats curve) moments ≤
      playerStats.currentStamina + 1 + ticking.total elapsed (begun playerStats curve) moments +
        ticking.count Arms (begun playerStats curve) moments := by
  have solvent := begun_solvent curve left positive
  have paid := sprint_funded.total_le solvent admissible
  rw [total_mul_left, total_add, ← cast_count, ← cast_count] at paid
  have restores := restore_periodic.count_eq solvent.restoring admissible
  have final := (restore_periodic.supported.throughout solvent.restoring admissible).final.within
  have start : (begun playerStats curve).funds = playerStats.currentStamina + 1 := by
    have noCredit : (begun playerStats curve).clocked.credit = 0 := by
      refine credit_of_speed_ne ?_
      norm_num [begun, construct, beginPlay]
    have reserved : reserve (begun playerStats curve).character = playerStats.currentStamina :=
      if_pos rfl
    rw [funds, noCredit, reserved, mul_zero, zero_add]
  have countdown : (begun playerStats curve).restoreCountdown = 1 := rfl
  rw [start] at paid
  linarith

/-- A press held for two intervals, and another one let go before its first drain. -/
theorem ticking_sprint_budget_tap :
    10 * ticking.total sprintingTime (begun { stamina := ⟨5, 100⟩ } none)
        ([.arrive .startSprint] ++ stride ++ stride ++ [.arrive .stopSprint,
          .arrive .startSprint, .elapse (1 / 20), .arrive .stopSprint]) ≤
      5 + 1 + ticking.total elapsed (begun { stamina := ⟨5, 100⟩ } none)
          ([.arrive .startSprint] ++ stride ++ stride ++ [.arrive .stopSprint,
            .arrive .startSprint, .elapse (1 / 20), .arrive .stopSprint]) +
        ticking.count Arms (begun { stamina := ⟨5, 100⟩ } none)
          ([.arrive .startSprint] ++ stride ++ stride ++ [.arrive .stopSprint,
            .arrive .startSprint, .elapse (1 / 20), .arrive .stopSprint]) :=
  ticking_sprint_budget { stamina := ⟨5, 100⟩ } none (by decide +kernel) (by decide +kernel) _
    (by decide +kernel)

end Timers

end RPGLearnGame
