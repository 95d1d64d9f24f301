import RPGLearnGame.Semantics.EventMachine
import RPGLearnGame.Stats.Component

/-!
# Range of the stats and of the broadcast percentages

`statsMachine` runs the six operations of the component in any order with
nonnegative amounts and records every broadcast. The values and the broadcast
percentages stay in range along a run exactly when no decrease overdraws a
gauge that still has something left: `increase` clamps at the maximum, and
`decrease` does not clamp at zero.
-/

namespace RPGLearnGame

namespace PlayerStatsComponent

/-- The six operations of the component with their amounts. -/
inductive Operation where
  | decreaseHealth (damage : ℚ)
  | increaseMaxHealth (newMaxHealth : ℚ)
  | increaseHealth (newHealth : ℚ)
  | decreaseStamina (staminaCost : ℚ)
  | increaseMaxStamina (newMaxStamina : ℚ)
  | increaseStamina (newStamina : ℚ)
deriving DecidableEq, Repr

/-- The amount an operation is called with. -/
def Operation.amount : Operation → ℚ
  | .decreaseHealth damage => damage
  | .increaseMaxHealth newMaxHealth => newMaxHealth
  | .increaseHealth newHealth => newHealth
  | .decreaseStamina staminaCost => staminaCost
  | .increaseMaxStamina newMaxStamina => newMaxStamina
  | .increaseStamina newStamina => newStamina

/-- Call the operation on the component. -/
def apply (stats : PlayerStatsComponent) : Operation → Result
  | .decreaseHealth damage => stats.decreaseHealth damage
  | .increaseMaxHealth newMaxHealth => stats.increaseMaxHealth newMaxHealth
  | .increaseHealth newHealth => stats.increaseHealth newHealth
  | .decreaseStamina staminaCost => stats.decreaseStamina staminaCost
  | .increaseMaxStamina newMaxStamina => stats.increaseMaxStamina newMaxStamina
  | .increaseStamina newStamina => stats.increaseStamina newStamina

/-- A component together with everything it has broadcast, oldest first. -/
structure Log where
  stats : PlayerStatsComponent
  sent : List Broadcast
deriving DecidableEq, Repr

/-- Runs of the six operations with nonnegative amounts. -/
def statsMachine : EventMachine Log Operation where
  Admits _ operation := 0 ≤ operation.amount
  next log operation :=
    ⟨(log.stats.apply operation).stats, log.sent ++ (log.stats.apply operation).broadcasts⟩

instance (log : Log) (operation : Operation) : Decidable (statsMachine.Admits log operation) :=
  inferInstanceAs (Decidable (0 ≤ operation.amount))

/-- The percentage lies in `[0, 1]`. -/
def InUnit (broadcast : Broadcast) : Prop :=
  0 ≤ broadcast.percentage ∧ broadcast.percentage ≤ 1

instance (broadcast : Broadcast) : Decidable (InUnit broadcast) :=
  inferInstanceAs (Decidable (_ ∧ _))

/-- Both stats are in range and so is every percentage sent so far. -/
structure Log.InRange (log : Log) : Prop where
  health : log.stats.health.InRange
  stamina : log.stats.stamina.InRange
  sent : ∀ broadcast ∈ log.sent, InUnit broadcast

theorem Log.inRange_iff (log : Log) :
    log.InRange ↔ log.stats.health.InRange ∧ log.stats.stamina.InRange ∧
      ∀ broadcast ∈ log.sent, InUnit broadcast :=
  ⟨fun inRange => ⟨inRange.health, inRange.stamina, inRange.sent⟩,
    fun parts => ⟨parts.1, parts.2.1, parts.2.2⟩⟩

instance (log : Log) : Decidable log.InRange := decidable_of_iff _ log.inRange_iff.symm

/-- Both maxima are positive. -/
structure PositiveMaxima (stats : PlayerStatsComponent) : Prop where
  health : 0 < stats.maxHealth
  stamina : 0 < stats.maxStamina

instance (stats : PlayerStatsComponent) : Decidable (PositiveMaxima stats) :=
  decidable_of_iff (0 < stats.maxHealth ∧ 0 < stats.maxStamina)
    ⟨fun both => ⟨both.1, both.2⟩, fun positive => ⟨positive.health, positive.stamina⟩⟩

/-- The operation does not overdraw a gauge that has something left. -/
def Affordable (log : Log) : Operation → Prop
  | .decreaseHealth damage => 0 < log.stats.currentHealth → damage ≤ log.stats.currentHealth
  | .decreaseStamina staminaCost =>
      0 < log.stats.currentStamina → staminaCost ≤ log.stats.currentStamina
  | _ => True

instance (log : Log) : (operation : Operation) → Decidable (Affordable log operation)
  | .decreaseHealth _ | .decreaseStamina _ => inferInstanceAs (Decidable (_ → _))
  | .increaseMaxHealth _ | .increaseHealth _ | .increaseMaxStamina _ | .increaseStamina _ =>
      inferInstanceAs (Decidable True)

section Gauge

variable {delegate : ℚ → Broadcast} {gauge : Gauge ℚ} {amount : ℚ}

/-- A gauge in range and the percentages its operation sent. -/
def GaugeResult.InRange (result : GaugeResult) : Prop :=
  result.gauge.InRange ∧ ∀ broadcast ∈ result.broadcasts, InUnit broadcast

/-- A single broadcast of a gauge's own percentage is in range with the gauge. -/
theorem inRange_of_broadcasts {result : GaugeResult}
    (carries : ∀ percent, (delegate percent).percentage = percent)
    (positive : 0 < result.gauge.max)
    (sent : result.broadcasts = [delegate result.gauge.percent]) :
    result.InRange ↔ result.gauge.InRange := by
  have unit : InUnit (delegate result.gauge.percent) ↔ result.gauge.InRange := by
    rw [InUnit, carries]
    exact Gauge.percent_mem_unit_iff positive
  simp [GaugeResult.InRange, sent, unit]

/-- A decrease keeps the range exactly when it does not overdraw. -/
theorem decrease_inRange_iff (carries : ∀ percent, (delegate percent).percentage = percent)
    (positive : 0 < gauge.max) (inRange : gauge.InRange) (nonneg : 0 ≤ amount) :
    (decrease delegate gauge amount).InRange ↔ (0 < gauge.current → amount ≤ gauge.current) := by
  rw [← Gauge.inRange_spend_iff inRange nonneg, ← decrease_gauge delegate]
  by_cases empty : gauge.Empty
  · have silent : (decrease delegate gauge amount).broadcasts = [] := by
      rw [decrease_broadcasts, if_pos empty]
    simp [GaugeResult.InRange, silent]
  · refine inRange_of_broadcasts carries (by simpa using positive) ?_
    rw [decrease_broadcasts, if_neg empty, decrease_gauge]

/-- Raising the maximum keeps the range. -/
theorem increaseMax_inRange (carries : ∀ percent, (delegate percent).percentage = percent)
    (positive : 0 < gauge.max) (inRange : gauge.InRange) (nonneg : 0 ≤ amount) :
    (increaseMax delegate gauge amount).InRange := by
  have positiveNext : 0 < (increaseMax delegate gauge amount).gauge.max :=
    add_pos_of_pos_of_nonneg positive nonneg
  exact (inRange_of_broadcasts carries positiveNext (increaseMax_broadcasts ..)).mpr
    (inRange.lift nonneg)

/-- A clamped increase keeps the range. -/
theorem increase_inRange (carries : ∀ percent, (delegate percent).percentage = percent)
    (positive : 0 < gauge.max) (inRange : gauge.InRange) (nonneg : 0 ≤ amount) :
    (increase delegate gauge amount).InRange := by
  refine (inRange_of_broadcasts carries (by simpa using positive) ?_).mpr ?_
  · rw [increase_broadcasts, increase_gauge]
  · rw [increase_gauge]
    exact inRange.refill nonneg

end Gauge

/-- Positive maxima stay positive: no operation lowers a maximum. -/
theorem positiveMaxima_invariant :
    statsMachine.Invariant fun log => PositiveMaxima log.stats where
  preserved := by
    rintro log operation ⟨health, stamina⟩ nonneg
    cases operation with
    | decreaseHealth damage =>
        exact ⟨by simpa [statsMachine, apply, decreaseHealth, withHealth] using health, stamina⟩
    | increaseMaxHealth newMaxHealth => exact ⟨add_pos_of_pos_of_nonneg health nonneg, stamina⟩
    | increaseHealth newHealth =>
        exact ⟨by simpa [statsMachine, apply, increaseHealth, withHealth] using health, stamina⟩
    | decreaseStamina staminaCost =>
        exact ⟨health,
          by simpa [statsMachine, apply, decreaseStamina, withStamina] using stamina⟩
    | increaseMaxStamina newMaxStamina =>
        exact ⟨health, add_pos_of_pos_of_nonneg stamina nonneg⟩
    | increaseStamina newStamina =>
        exact ⟨health,
          by simpa [statsMachine, apply, increaseStamina, withStamina] using stamina⟩

/-- After a health operation the log is in range when the result is. -/
theorem withHealth_inRange_iff {log : Log} (inRange : log.InRange) (result : GaugeResult) :
    Log.InRange ⟨(log.stats.withHealth result).stats,
        log.sent ++ (log.stats.withHealth result).broadcasts⟩ ↔ result.InRange := by
  simp only [Log.inRange_iff, withHealth, List.forall_mem_append, GaugeResult.InRange]
  have stamina := inRange.stamina
  have sent := inRange.sent
  tauto

/-- After a stamina operation the log is in range when the result is. -/
theorem withStamina_inRange_iff {log : Log} (inRange : log.InRange) (result : GaugeResult) :
    Log.InRange ⟨(log.stats.withStamina result).stats,
        log.sent ++ (log.stats.withStamina result).broadcasts⟩ ↔ result.InRange := by
  simp only [Log.inRange_iff, withStamina, List.forall_mem_append, GaugeResult.InRange]
  have health := inRange.health
  have sent := inRange.sent
  tauto

/-- One admitted operation keeps the range exactly when it is affordable. -/
theorem inRange_exact :
    statsMachine.ExactCondition (fun log => PositiveMaxima log.stats) Log.InRange Affordable where
  supported := positiveMaxima_invariant
  exact := by
    intro log operation positive inRange nonneg
    have health := inRange.health
    have stamina := inRange.stamina
    cases operation with
    | decreaseHealth damage =>
        exact (withHealth_inRange_iff inRange _).trans
          (decrease_inRange_iff (fun _ => rfl) positive.health health nonneg)
    | increaseMaxHealth newMaxHealth =>
        exact iff_of_true ((withHealth_inRange_iff inRange _).mpr
          (increaseMax_inRange (fun _ => rfl) positive.health health nonneg)) trivial
    | increaseHealth newHealth =>
        exact iff_of_true ((withHealth_inRange_iff inRange _).mpr
          (increase_inRange (fun _ => rfl) positive.health health nonneg)) trivial
    | decreaseStamina staminaCost =>
        exact (withStamina_inRange_iff inRange _).trans
          (decrease_inRange_iff (fun _ => rfl) positive.stamina stamina nonneg)
    | increaseMaxStamina newMaxStamina =>
        exact iff_of_true ((withStamina_inRange_iff inRange _).mpr
          (increaseMax_inRange (fun _ => rfl) positive.stamina stamina nonneg)) trivial
    | increaseStamina newStamina =>
        exact iff_of_true ((withStamina_inRange_iff inRange _).mpr
          (increase_inRange (fun _ => rfl) positive.stamina stamina nonneg)) trivial

/-- From any configured stats in range, the stats and every broadcast percentage
stay in range along a run exactly when no decrease in it overdraws. -/
theorem statsMachine_inRange_iff (stats : PlayerStatsComponent)
    (positive : PositiveMaxima stats) (health : stats.health.InRange)
    (stamina : stats.stamina.InRange) (operations : List Operation)
    (admissible : statsMachine.Admissible ⟨stats, []⟩ operations) :
    statsMachine.Throughout Log.InRange ⟨stats, []⟩ operations ↔
      statsMachine.EachStep Affordable ⟨stats, []⟩ operations :=
  inRange_exact.throughout_iff positive ⟨health, stamina, by simp⟩ admissible

/-- A hit of exactly the health that is left, a clamped heal and a raised
maximum stay in range. -/
theorem statsMachine_inRange_lethal_hit :
    statsMachine.Throughout Log.InRange ⟨{}, []⟩
      [.decreaseHealth 100, .increaseMaxHealth 50, .increaseHealth 500, .decreaseStamina 1] :=
  (statsMachine_inRange_iff {} ⟨by decide, by decide⟩ (by decide) (by decide) _
    (by decide)).mpr (by decide)

/-- A hit of 150 on the default 100 leaves health at -50 and broadcasts -0.5. -/
theorem statsMachine_overkill_leaves_range :
    statsMachine.Admissible ⟨{}, []⟩ [.decreaseHealth 150] ∧
      Log.InRange ⟨{}, []⟩ ∧
      (statsMachine.run ⟨{}, []⟩ [.decreaseHealth 150]).stats.currentHealth = -50 ∧
      (statsMachine.run ⟨{}, []⟩ [.decreaseHealth 150]).sent = [.onUpdateHealthBar (-1 / 2)] ∧
      ¬ statsMachine.Throughout Log.InRange ⟨{}, []⟩ [.decreaseHealth 150] := by
  decide +kernel

end PlayerStatsComponent

end RPGLearnGame
