import RPGLearnGame.Semantics.Twin
import RPGLearnGame.Stats.Range

/-!
# Order of two healths

Two components with the same maximum go through the same operations on their
health. Healing clamps both at the same maximum and keeps them in order. Damage
spares the dead and takes what it likes from the living, so it turns the order
around exactly when it takes the healthier component, alone, below the other.
-/

namespace RPGLearnGame

namespace PlayerStatsComponent

open EventMachine

/-- The operations on the health. -/
def Operation.IsHealth : Operation → Prop
  | .decreaseHealth _ | .increaseMaxHealth _ | .increaseHealth _ => True
  | .decreaseStamina _ | .increaseMaxStamina _ | .increaseStamina _ => False

instance : (operation : Operation) → Decidable operation.IsHealth
  | .decreaseHealth _ | .increaseMaxHealth _ | .increaseHealth _ => inferInstanceAs (Decidable True)
  | .decreaseStamina _ | .increaseMaxStamina _ | .increaseStamina _ =>
      inferInstanceAs (Decidable False)

/-- Runs of the health operations with nonnegative amounts. -/
def healthMachine : EventMachine PlayerStatsComponent Operation where
  Admits _ operation := operation.IsHealth ∧ 0 ≤ operation.amount
  next stats operation := (stats.apply operation).stats

instance (stats : PlayerStatsComponent) (operation : Operation) :
    Decidable (healthMachine.Admits stats operation) :=
  inferInstanceAs (Decidable (operation.IsHealth ∧ 0 ≤ operation.amount))

/-- The second component has at least the health of the first, and lives if that one
does. -/
def HealthOrdered (low high : PlayerStatsComponent) : Prop :=
  low.currentHealth ≤ high.currentHealth ∧ (0 < low.currentHealth → 0 < high.currentHealth)

instance (low high : PlayerStatsComponent) : Decidable (HealthOrdered low high) :=
  inferInstanceAs (Decidable (_ ∧ (_ → _)))

/-- Whoever has more health lives longer. -/
theorem healthOrdered_iff (low high : PlayerStatsComponent) :
    HealthOrdered low high ↔ low.currentHealth ≤ high.currentHealth :=
  and_iff_left_of_imp fun ordered alive => alive.trans_le ordered

/-- No damage meets a dead component and a living one and takes the living one below
the dead one. -/
def SparesOrder (pair : PlayerStatsComponent × PlayerStatsComponent) : Operation → Prop
  | .decreaseHealth damage =>
      pair.1.currentHealth ≤ 0 → 0 < pair.2.currentHealth →
        pair.1.currentHealth ≤ pair.2.currentHealth - damage
  | _ => True

instance (pair : PlayerStatsComponent × PlayerStatsComponent) :
    (operation : Operation) → Decidable (SparesOrder pair operation)
  | .decreaseHealth _ => inferInstanceAs (Decidable (_ → _ → _))
  | .increaseMaxHealth _ | .increaseHealth _ | .decreaseStamina _ | .increaseMaxStamina _
  | .increaseStamina _ => inferInstanceAs (Decidable True)

/-- One operation on both components keeps their order exactly when it is not damage
that takes a living one below a dead one. -/
theorem healthOrdered_exact :
    (healthMachine.twin id).ExactCondition (fun pair => pair.1.maxHealth = pair.2.maxHealth)
      (fun pair => HealthOrdered pair.1 pair.2) SparesOrder where
  supported := by
    constructor
    rintro ⟨low, high⟩ operation sameMax ⟨⟨health, -⟩, -⟩
    change low.health.max = high.health.max at sameMax
    cases operation with
    | decreaseHealth damage =>
        simpa [healthMachine, apply, decreaseHealth, withHealth] using sameMax
    | increaseMaxHealth newMaxHealth =>
        simpa [healthMachine, apply, increaseMaxHealth, withHealth] using sameMax
    | increaseHealth newHealth =>
        simpa [healthMachine, apply, increaseHealth, withHealth] using sameMax
    | _ => exact health.elim
  exact := by
    rintro ⟨low, high⟩ operation sameMax ordered ⟨⟨health, -⟩, -⟩
    have levels : low.health.current ≤ high.health.current := ordered.1
    rw [healthOrdered_iff, twin_next]
    cases operation with
    | decreaseHealth damage =>
        have damaged : (low.health.spend damage).current ≤ (high.health.spend damage).current ↔
            (low.health.Empty → ¬ high.health.Empty →
              low.health.current ≤ high.health.current - damage) :=
          Gauge.spend_current_le_iff levels
        rw [Gauge.not_empty_iff] at damaged
        refine Iff.trans ?_ damaged
        simp [healthMachine, apply, decreaseHealth, withHealth]
    | increaseMaxHealth newMaxHealth => exact iff_of_true levels trivial
    | increaseHealth newHealth =>
        have healed : (low.health.refill newHealth).current ≤
            (high.health.refill newHealth).current := Gauge.refill_current_le sameMax levels
        refine iff_of_true ?_ trivial
        simpa [healthMachine, apply, increaseHealth, withHealth] using healed
    | _ => exact health.elim

/-- From a common maximum and ordered healths, the two components stay in order after
every prefix of the operations exactly when none of them is damage that takes a
living component below a dead one. -/
theorem healthMachine_ordered_iff (low high : PlayerStatsComponent)
    (sameMax : low.maxHealth = high.maxHealth)
    (ordered : low.currentHealth ≤ high.currentHealth) (operations : List Operation)
    (admitted : ∀ operation ∈ operations, operation.IsHealth ∧ 0 ≤ operation.amount) :
    (∀ before after, operations = before ++ after →
        HealthOrdered (healthMachine.run low before) (healthMachine.run high before)) ↔
      (healthMachine.twin id).EachStep SparesOrder (low, high) operations := by
  have anywhere : ∀ stats : PlayerStatsComponent, healthMachine.Admissible stats operations :=
    eachStep_of_forall fun operation member _ => admitted operation member
  have both : (healthMachine.twin id).Admissible (low, high) operations :=
    admissible_twin (anywhere low) (by simpa using anywhere high)
  have sideBySide : (healthMachine.twin id).Throughout
        (fun pair => HealthOrdered pair.1 pair.2) (low, high) operations ↔
      ∀ before after, operations = before ++ after →
        HealthOrdered (healthMachine.run low before) (healthMachine.run high (before.map id)) :=
    throughout_twin_iff HealthOrdered (low, high) operations
  simp only [List.map_id] at sideBySide
  rw [← sideBySide]
  exact healthOrdered_exact.throughout_iff sameMax ((healthOrdered_iff low high).mpr ordered) both

/-- Damage that kills neither of 20 and 50, and healing. -/
theorem healthMachine_ordered_survivors :
    HealthOrdered
      (healthMachine.run { health := ⟨20, 100⟩ }
        [.decreaseHealth 10, .increaseMaxHealth 20, .increaseHealth 500])
      (healthMachine.run { health := ⟨50, 100⟩ }
        [.decreaseHealth 10, .increaseMaxHealth 20, .increaseHealth 500]) :=
  (healthMachine_ordered_iff { health := ⟨20, 100⟩ } { health := ⟨50, 100⟩ } rfl
    (by decide +kernel) _ (by decide +kernel)).mpr (by decide +kernel) _ []
    (List.append_nil _).symm

/-- The second hit spares the component that the first one killed and buries the one
that it left alive; the healing that follows revives the first one only. -/
theorem overkill_overtakes :
    (∀ operation ∈ [Operation.decreaseHealth 10, .decreaseHealth 50, .increaseHealth 20],
        operation.IsHealth ∧ 0 ≤ operation.amount) ∧
      (healthMachine.run { health := ⟨10, 100⟩ }
        [.decreaseHealth 10, .decreaseHealth 50, .increaseHealth 20]).currentHealth = 20 ∧
      (healthMachine.run { health := ⟨20, 100⟩ }
        [.decreaseHealth 10, .decreaseHealth 50, .increaseHealth 20]).currentHealth = -20 ∧
      ¬ ∀ before after,
        [.decreaseHealth 10, .decreaseHealth 50, .increaseHealth 20] = before ++ after →
          HealthOrdered (healthMachine.run { health := ⟨10, 100⟩ } before)
            (healthMachine.run { health := ⟨20, 100⟩ } before) := by
  refine ⟨by decide +kernel, by decide +kernel, by decide +kernel, fun holds => ?_⟩
  have final := holds _ [] (List.append_nil _).symm
  exact absurd final (by decide +kernel)

end PlayerStatsComponent

end RPGLearnGame
