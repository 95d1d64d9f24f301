import RPGLearnGame.Character.Runs

/-!
# Death

Death is recorded twice: as a health that is not positive in the stats component
and as the effects of `Die` on the character. `DecreaseHealth` reports the first
to `TakeDamage`, which then runs the second, so damage keeps the two together.
Healing only knows the number: they part exactly when a dead character is healed
above zero.
-/

namespace RPGLearnGame

namespace RPGLearnGameCharacter

/-- `Die` has run: input is disabled and the mesh is a ragdoll. -/
def Died (character : RPGLearnGameCharacter) : Prop :=
  character.inputEnabled = false ∧ character.simulatesPhysics = true

/-- `Die` has not run. -/
structure Unharmed (character : RPGLearnGameCharacter) : Prop where
  input : character.inputEnabled = true
  physics : character.simulatesPhysics = false

/-- The character and its stats agree on whether it is dead. -/
def DeathAgrees (character : RPGLearnGameCharacter) : Prop :=
  character.Died ↔ character.playerStats.currentHealth ≤ 0

instance (character : RPGLearnGameCharacter) : Decidable character.Died :=
  inferInstanceAs (Decidable (_ ∧ _))

instance (character : RPGLearnGameCharacter) : Decidable character.DeathAgrees :=
  inferInstanceAs (Decidable (_ ↔ _))

variable (character : RPGLearnGameCharacter)

/-- Damage that exhausts the health, or meets exhausted health, runs `Die`. -/
theorem takeDamage_eq (damageAmount : ℚ) :
    (character.takeDamage damageAmount).1 =
      let hurt :=
        { character with
          playerStats :=
            { character.playerStats with
              health := character.playerStats.health.spend damageAmount } }
      if (character.playerStats.health.spend damageAmount).Empty then hurt.die else hurt := by
  simp [takeDamage, PlayerStatsComponent.decreaseHealth, PlayerStatsComponent.withHealth]

/-- After damage the two records of death agree, if they did before. -/
theorem takeDamage_deathAgrees (agrees : character.DeathAgrees) (damageAmount : ℚ) :
    (character.takeDamage damageAmount).1.DeathAgrees := by
  rw [takeDamage_eq]
  by_cases lethal : (character.playerStats.health.spend damageAmount).Empty
  · simp only [lethal, if_true]
    exact iff_of_true ⟨rfl, rfl⟩ lethal
  · simp only [lethal, if_false]
    have alive : ¬ character.playerStats.health.Empty := by
      intro empty
      exact lethal (by rwa [Gauge.spend_of_empty empty])
    exact iff_of_false (fun died => alive (agrees.mp died)) lethal

end RPGLearnGameCharacter

namespace Session

open RPGLearnGameCharacter

/-- Damage, healing and raised maxima with nonnegative amounts. -/
def IsHarmOrHealing (_session : Session) : Callback → Prop
  | .takeDamage damageAmount => 0 ≤ damageAmount
  | .increaseHealth newHealth => 0 ≤ newHealth
  | .increaseMaxHealth newMaxHealth => 0 ≤ newMaxHealth
  | _ => False

instance (session : Session) : (callback : Callback) → Decidable (session.IsHarmOrHealing callback)
  | .takeDamage damageAmount => inferInstanceAs (Decidable (0 ≤ damageAmount))
  | .increaseHealth newHealth => inferInstanceAs (Decidable (0 ≤ newHealth))
  | .increaseMaxHealth newMaxHealth => inferInstanceAs (Decidable (0 ≤ newMaxHealth))
  | .startCrouch | .stopCrouch | .startSprint | .stopSprint | .drainStamina | .restoreStamina
  | .movementUpdate | .tick _ => inferInstanceAs (Decidable False)

/-- The character under damage and healing. -/
def mortal : EventMachine Session Callback := callbacks.guarded IsHarmOrHealing

instance (session : Session) (callback : Callback) :
    Decidable (mortal.Admits session callback) :=
  inferInstanceAs (Decidable (callbacks.Admits session callback ∧ session.IsHarmOrHealing callback))

/-- No healing lifts the health of a dead character above zero. -/
def RevivesNobody (session : Session) : Callback → Prop
  | .increaseHealth newHealth =>
      session.character.playerStats.currentHealth ≤ 0 →
        session.character.playerStats.currentHealth + newHealth ≤ 0
  | _ => True

instance (session : Session) : (callback : Callback) → Decidable (session.RevivesNobody callback)
  | .increaseHealth _ => inferInstanceAs (Decidable (_ → _))
  | .startCrouch | .stopCrouch | .startSprint | .stopSprint | .drainStamina | .restoreStamina
  | .movementUpdate | .tick _ | .takeDamage _ | .increaseMaxHealth _ =>
      inferInstanceAs (Decidable True)

/-- One step keeps the two records of death together exactly when it does not
revive a dead character's health. -/
theorem deathAgrees_exact :
    mortal.ExactCondition (fun session => 0 < session.character.playerStats.maxHealth)
      (fun session => session.character.DeathAgrees) RevivesNobody where
  supported := by
    constructor
    rintro session callback positive ⟨-, harm⟩
    cases callback with
    | takeDamage damageAmount =>
        change 0 < (session.character.takeDamage damageAmount).1.playerStats.health.max
        rw [takeDamage_eq]
        by_cases lethal : (session.character.playerStats.health.spend damageAmount).Empty
        · simpa [lethal, die] using positive
        · simpa [lethal] using positive
    | increaseHealth newHealth =>
        simpa [mortal, callbacks, fire, PlayerStatsComponent.increaseHealth,
          PlayerStatsComponent.withHealth] using positive
    | increaseMaxHealth newMaxHealth => exact add_pos_of_pos_of_nonneg positive harm
    | _ => exact harm.elim
  exact := by
    rintro session callback positive agrees ⟨-, harm⟩
    cases callback with
    | takeDamage damageAmount =>
        exact iff_of_true (session.character.takeDamage_deathAgrees agrees damageAmount) trivial
    | increaseHealth newHealth =>
        have healed : (session.character.fire (.increaseHealth newHealth)).DeathAgrees ↔
            (session.character.Died ↔
              session.character.playerStats.currentHealth + newHealth ≤ 0) := by
          rw [← Gauge.empty_refill_iff positive]
          simp [fire, DeathAgrees, Died, Gauge.Empty, PlayerStatsComponent.increaseHealth,
            PlayerStatsComponent.withHealth]
        have before : session.character.Died ↔
            session.character.playerStats.currentHealth ≤ 0 := agrees
        rw [before] at healed
        refine healed.trans ?_
        constructor
        · exact fun same => same.mp
        · exact fun stillDead => ⟨stillDead, fun dead => (le_add_of_nonneg_right harm).trans dead⟩
    | increaseMaxHealth newMaxHealth => exact iff_of_true agrees trivial
    | _ => exact harm.elim

/-- From any living start, `Die` has run exactly when the health is not positive,
in every state of a run, exactly when no healing of the run revives a dead
character's health. -/
theorem mortal_deathAgrees_iff (start : Session) (unharmed : start.character.Unharmed)
    (alive : 0 < start.character.playerStats.currentHealth)
    (bounded : start.character.playerStats.currentHealth ≤ start.character.playerStats.maxHealth)
    (callbacks : List Callback) (admissible : mortal.Admissible start callbacks) :
    mortal.Throughout (fun session => session.character.DeathAgrees) start callbacks ↔
      mortal.EachStep RevivesNobody start callbacks := by
  refine deathAgrees_exact.throughout_iff (alive.trans_le bounded) ?_ admissible
  refine iff_of_false (fun died => ?_) (not_le.mpr alive)
  exact Bool.false_ne_true (died.1.symm.trans unharmed.input)

/-- Hits and heals of a living character, up to and including the fatal hit. -/
theorem mortal_deathAgrees_fatal_hit :
    mortal.Throughout (fun session => session.character.DeathAgrees) ⟨construct, {}⟩
      [.takeDamage 60, .increaseHealth 20, .takeDamage 60, .takeDamage 5, .increaseMaxHealth 10] :=
  (mortal_deathAgrees_iff ⟨construct, {}⟩ ⟨rfl, rfl⟩ (by decide +kernel) (by decide +kernel) _
    (by decide +kernel)).mpr (by decide +kernel)

/-- A dead character healed by 50 has 50 health and stays a ragdoll. -/
theorem healed_after_death :
    mortal.Admissible ⟨construct, {}⟩ [.takeDamage 100, .increaseHealth 50] ∧
      (mortal.run ⟨construct, {}⟩ [.takeDamage 100, .increaseHealth 50]).character.Died ∧
      (mortal.run ⟨construct, {}⟩
        [.takeDamage 100, .increaseHealth 50]).character.playerStats.currentHealth = 50 ∧
      ¬ mortal.Throughout (fun session => session.character.DeathAgrees) ⟨construct, {}⟩
        [.takeDamage 100, .increaseHealth 50] := by
  decide +kernel

end Session

end RPGLearnGame
