import Mathlib.Algebra.Order.Ring.Rat
import Mathlib.Data.Rat.Defs
import RPGLearnGame.Arithmetic.Gauge

/-!
# The player stats component

`PlayerStatsComponent` holds health and stamina, each a value and its maximum,
and broadcasts a percentage whenever it changes one of them. Amounts are exact
rationals.

Health and stamina are the same code over different fields and delegates, so
`decrease`, `increaseMax` and `increase` carry the bodies once and every source
function is one of them at its own gauge and delegate. `decrease_gauge` and its
neighbours connect them to the operations of `Gauge`.
-/

namespace RPGLearnGame

/-- One broadcast of `OnUpdateHealthBar` or `OnUpdateStaminaBar`. -/
inductive Broadcast where
  | onUpdateHealthBar (healthPercentage : ℚ)
  | onUpdateStaminaBar (staminaPercentage : ℚ)
deriving DecidableEq, Repr

/-- The percentage a broadcast carries. -/
def Broadcast.percentage : Broadcast → ℚ
  | .onUpdateHealthBar healthPercentage => healthPercentage
  | .onUpdateStaminaBar staminaPercentage => staminaPercentage

/-- `UPlayerStatsComponent`, with the defaults of its header. -/
@[ext]
structure PlayerStatsComponent where
  /-- `CurrentHealth` and `MaxHealth`. -/
  health : Gauge ℚ := ⟨100, 100⟩
  /-- `CurrentStamina` and `MaxStamina`. -/
  stamina : Gauge ℚ := ⟨100, 100⟩
deriving DecidableEq, Repr

namespace PlayerStatsComponent

@[simp] abbrev currentHealth (stats : PlayerStatsComponent) : ℚ := stats.health.current
@[simp] abbrev maxHealth (stats : PlayerStatsComponent) : ℚ := stats.health.max
@[simp] abbrev currentStamina (stats : PlayerStatsComponent) : ℚ := stats.stamina.current
@[simp] abbrev maxStamina (stats : PlayerStatsComponent) : ℚ := stats.stamina.max

/-- What one operation on a gauge leaves behind: the gauge, the broadcasts it
sent, and the `IsPlayerDead` out-parameter of the decreasing ones. -/
structure GaugeResult where
  gauge : Gauge ℚ
  broadcasts : List Broadcast
  isPlayerDead : Bool := false

/-- `UpdateHealth` and `UpdateStamina`: broadcast the percentage. -/
def update (delegate : ℚ → Broadcast) (gauge : Gauge ℚ) : List Broadcast :=
  [delegate (gauge.current / gauge.max)]

/-- The body of `DecreaseHealth` and `DecreaseStamina`. An exhausted gauge is
reported dead and nothing is broadcast; otherwise the cost is taken whole. -/
def decrease (delegate : ℚ → Broadcast) (gauge : Gauge ℚ) (cost : ℚ) : GaugeResult :=
  if gauge.current ≤ 0 then
    { gauge, broadcasts := [], isPlayerDead := true }
  else
    let gauge := { gauge with current := gauge.current - cost }
    { gauge, broadcasts := update delegate gauge, isPlayerDead := decide (gauge.current ≤ 0) }

/-- The body of `IncreaseMaxHealth` and `IncreaseMaxStamina`. -/
def increaseMax (delegate : ℚ → Broadcast) (gauge : Gauge ℚ) (newMax : ℚ) : GaugeResult :=
  let gauge := { gauge with max := gauge.max + newMax }
  { gauge, broadcasts := update delegate gauge }

/-- The body of `IncreaseHealth` and `IncreaseStamina`, clamped at the maximum. -/
def increase (delegate : ℚ → Broadcast) (gauge : Gauge ℚ) (amount : ℚ) : GaugeResult :=
  let gauge := { gauge with current := gauge.current + amount }
  let gauge := if gauge.current > gauge.max then { gauge with current := gauge.max } else gauge
  { gauge, broadcasts := update delegate gauge }

/-- What a component function leaves behind. -/
structure Result where
  stats : PlayerStatsComponent
  broadcasts : List Broadcast
  isPlayerDead : Bool := false

/-- Store a health result in the component. -/
def withHealth (stats : PlayerStatsComponent) (result : GaugeResult) : Result :=
  ⟨{ stats with health := result.gauge }, result.broadcasts, result.isPlayerDead⟩

/-- Store a stamina result in the component. -/
def withStamina (stats : PlayerStatsComponent) (result : GaugeResult) : Result :=
  ⟨{ stats with stamina := result.gauge }, result.broadcasts, result.isPlayerDead⟩

def updateHealth (stats : PlayerStatsComponent) : List Broadcast :=
  update .onUpdateHealthBar stats.health

def updateStamina (stats : PlayerStatsComponent) : List Broadcast :=
  update .onUpdateStaminaBar stats.stamina

def beginPlay (stats : PlayerStatsComponent) : Result :=
  { stats, broadcasts := stats.updateHealth ++ stats.updateStamina }

def decreaseHealth (stats : PlayerStatsComponent) (damage : ℚ) : Result :=
  stats.withHealth (decrease .onUpdateHealthBar stats.health damage)

def increaseMaxHealth (stats : PlayerStatsComponent) (newMaxHealth : ℚ) : Result :=
  stats.withHealth (increaseMax .onUpdateHealthBar stats.health newMaxHealth)

def increaseHealth (stats : PlayerStatsComponent) (newHealth : ℚ) : Result :=
  stats.withHealth (increase .onUpdateHealthBar stats.health newHealth)

def decreaseStamina (stats : PlayerStatsComponent) (staminaCost : ℚ) : Result :=
  stats.withStamina (decrease .onUpdateStaminaBar stats.stamina staminaCost)

def increaseMaxStamina (stats : PlayerStatsComponent) (newMaxStamina : ℚ) : Result :=
  stats.withStamina (increaseMax .onUpdateStaminaBar stats.stamina newMaxStamina)

def increaseStamina (stats : PlayerStatsComponent) (newStamina : ℚ) : Result :=
  stats.withStamina (increase .onUpdateStaminaBar stats.stamina newStamina)

section Gauge

variable (delegate : ℚ → Broadcast) (gauge : Gauge ℚ) (amount : ℚ)

/-- Decreasing is `Gauge.spend`. -/
@[simp] theorem decrease_gauge : (decrease delegate gauge amount).gauge = gauge.spend amount := by
  by_cases empty : gauge.current ≤ 0
  · simp [decrease, empty, Gauge.spend_of_empty empty]
  · simp [decrease, empty, Gauge.spend_of_not_empty empty]

/-- The out-parameter reports whether the gauge is empty afterwards. -/
@[simp] theorem decrease_isPlayerDead :
    (decrease delegate gauge amount).isPlayerDead = decide (gauge.spend amount).Empty := by
  by_cases empty : gauge.current ≤ 0
  · have still : (gauge.spend amount).Empty := by rwa [Gauge.spend_of_empty empty]
    simp [decrease, empty, still]
  · simp [decrease, empty, Gauge.spend_of_not_empty empty, Gauge.Empty]

/-- Raising the maximum is `Gauge.lift`. -/
@[simp] theorem increaseMax_gauge :
    (increaseMax delegate gauge amount).gauge = gauge.lift amount := rfl

/-- Increasing is `Gauge.refill`: the comparison in the source is a minimum. -/
@[simp] theorem increase_gauge : (increase delegate gauge amount).gauge = gauge.refill amount := by
  by_cases exceeds : gauge.max < gauge.current + amount
  · simp [increase, Gauge.refill, exceeds, min_eq_right exceeds.le]
  · simp [increase, Gauge.refill, exceeds, min_eq_left (not_lt.mp exceeds)]

/-- Decreasing broadcasts the new percentage unless the gauge was empty. -/
theorem decrease_broadcasts :
    (decrease delegate gauge amount).broadcasts =
      if gauge.Empty then [] else [delegate (gauge.spend amount).percent] := by
  by_cases empty : gauge.current ≤ 0
  · simp [decrease, Gauge.Empty, empty]
  · simp [decrease, update, Gauge.Empty, empty, Gauge.spend_of_not_empty empty, Gauge.percent]

theorem increaseMax_broadcasts :
    (increaseMax delegate gauge amount).broadcasts = [delegate (gauge.lift amount).percent] := rfl

theorem increase_broadcasts :
    (increase delegate gauge amount).broadcasts = [delegate (gauge.refill amount).percent] := by
  rw [← increase_gauge delegate gauge amount]
  rfl

/-- A result that reports its gauge: nothing happened and nothing was sent, or
the new percentage was sent. -/
def GaugeResult.Reports (delegate : ℚ → Broadcast) (gauge : Gauge ℚ) (result : GaugeResult) :
    Prop :=
  result.gauge = gauge ∧ result.broadcasts = [] ∨
    result.broadcasts = [delegate result.gauge.percent]

theorem decrease_reports : (decrease delegate gauge amount).Reports delegate gauge := by
  rw [GaugeResult.Reports, decrease_gauge, decrease_broadcasts]
  by_cases empty : gauge.Empty
  · exact .inl ⟨Gauge.spend_of_empty empty amount, if_pos empty⟩
  · exact .inr (if_neg empty)

theorem increaseMax_reports : (increaseMax delegate gauge amount).Reports delegate gauge :=
  .inr rfl

theorem increase_reports : (increase delegate gauge amount).Reports delegate gauge :=
  .inr rfl

end Gauge

end PlayerStatsComponent

end RPGLearnGame
