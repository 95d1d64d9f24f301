import RPGLearnGame.Character.Death
import RPGLearnGame.Character.Gait

/-!
# What death leaves running

`Die` disables input and turns the mesh into a ragdoll. It stops no timer, and the
callback that would stop the drain is an input callback, which no longer arrives.
So a character that dies while its drain runs goes on sprinting and paying for
it, and a character that dies at any other moment does neither.
-/

namespace RPGLearnGame

namespace Session

open RPGLearnGameCharacter

/-- The keys while input is enabled, the two stamina timers, movement updates and
damage. -/
def IsMortalLocomotion (session : Session) : Callback → Prop
  | .startCrouch | .stopCrouch | .startSprint | .stopSprint =>
      session.character.inputEnabled = true
  | .drainStamina | .restoreStamina | .movementUpdate => True
  | .takeDamage damageAmount => 0 ≤ damageAmount
  | .tick _ | .increaseHealth _ | .increaseMaxHealth _ => False

instance (session : Session) :
    (callback : Callback) → Decidable (session.IsMortalLocomotion callback)
  | .startCrouch | .stopCrouch | .startSprint | .stopSprint => inferInstanceAs (Decidable (_ = _))
  | .drainStamina | .restoreStamina | .movementUpdate => inferInstanceAs (Decidable True)
  | .takeDamage damageAmount => inferInstanceAs (Decidable (0 ≤ damageAmount))
  | .tick _ | .increaseHealth _ | .increaseMaxHealth _ => inferInstanceAs (Decidable False)

/-- Walking, crouching and sprinting under damage; no input reaches the dead. -/
def dying : EventMachine Session Callback := callbacks.guarded IsMortalLocomotion

instance (session : Session) (callback : Callback) : Decidable (dying.Admits session callback) :=
  inferInstanceAs
    (Decidable (callbacks.Admits session callback ∧ session.IsMortalLocomotion callback))

/-- A dead character is not sprinting, and a drain tick that could come now would not
lower its stamina. -/
def StaysDown (session : Session) : Prop :=
  session.character.Died →
    session.character.isSprinting = false ∧
      (dying.Admits session .drainStamina →
        ¬ (dying.next session .drainStamina).character.playerStats.currentStamina <
          session.character.playerStats.currentStamina)

instance (session : Session) : Decidable session.StaysDown :=
  inferInstanceAs (Decidable (_ → _ ∧ (_ → ¬ _)))

/-- A drain tick of a dead character does not lower its stamina. -/
def SparesTheDead (session : Session) : Callback → Prop
  | .drainStamina =>
      session.character.Died →
        ¬ (dying.next session .drainStamina).character.playerStats.currentStamina <
          session.character.playerStats.currentStamina
  | _ => True

/-- A fatal hit meets a character that is not sprinting and has no drain to lower its
stamina, and nothing gives stamina back to a dead character that would drain it. -/
def SparesSprinter (session : Session) : Callback → Prop
  | .takeDamage damageAmount =>
      session.character.playerStats.currentHealth ≤ damageAmount →
        session.character.isSprinting = false ∧
          (session.character.Draining → session.character.playerStats.currentStamina ≤ 0)
  | .restoreStamina =>
      session.character.Died → session.character.Draining →
        min (session.character.playerStats.currentStamina + 1)
          session.character.playerStats.maxStamina ≤ 0
  | _ => True

instance (session : Session) : (callback : Callback) → Decidable (session.SparesSprinter callback)
  | .takeDamage _ => inferInstanceAs (Decidable (_ → _ ∧ (_ → _)))
  | .restoreStamina => inferInstanceAs (Decidable (_ → _ → _))
  | .startCrouch | .stopCrouch | .startSprint | .stopSprint | .drainStamina | .movementUpdate
  | .tick _ | .increaseHealth _ | .increaseMaxHealth _ => inferInstanceAs (Decidable True)

/-- A dead character stays down when it is not sprinting and its drain, if it has one,
finds no stamina. -/
theorem staysDown_iff (session : Session) :
    session.StaysDown ↔
      (session.character.Died → session.character.isSprinting = false ∧
        (session.character.Draining → session.character.playerStats.stamina.Empty)) := by
  have due : dying.Admits session .drainStamina ↔ session.character.sprintTime.armed = true :=
    ⟨fun admits => admits.1 rfl, fun armed => ⟨fun _ => armed, trivial⟩⟩
  have lowers : ((dying.next session .drainStamina).character.playerStats.currentStamina <
      session.character.playerStats.currentStamina) ↔
        session.character.canSprint = true ∧ ¬ session.character.playerStats.stamina.Empty :=
    drainStamina_lowers_iff session.character
  rw [StaysDown, due, lowers]
  simp only [Draining, and_imp, not_and, not_not]

/-- No callback of the keys and the timers enables or disables anything. -/
theorem fire_died_iff {session : Session} {callback : Callback}
    (admits : locomotion.Admits session callback) :
    (session.character.fire callback).Died ↔ session.character.Died := by
  refine fire_cases admits ?_ ?_ ?_ ?_ ?_ ?_ ?_ ?_ ?_
  all_goals
    intros
    exact Iff.rfl

/-- The locomotion callbacks among those of the dying machine. -/
theorem locomotion_of_dying {session : Session} {callback : Callback}
    (admits : dying.Admits session callback) (isLocomotion : callback.IsLocomotion := by trivial) :
    locomotion.Admits session callback :=
  ⟨admits.1, isLocomotion⟩

/-- An input callback finds a living character and leaves it alive. -/
theorem staysDown_of_input {session : Session} {callback : Callback}
    (admits : locomotion.Admits session callback)
    (enabled : session.character.inputEnabled = true) :
    (dying.next session callback).StaysDown := by
  intro died
  have before : session.character.Died := (fire_died_iff admits).mp died
  exact absurd (before.1.symm.trans enabled) Bool.false_ne_true

/-- Damage keeps a character down exactly when a fatal hit spares the sprinter. -/
theorem takeDamage_staysDown_iff {session : Session} (down : session.StaysDown)
    {damageAmount : ℚ} (nonneg : 0 ≤ damageAmount) :
    (dying.next session (.takeDamage damageAmount)).StaysDown ↔
      session.SparesSprinter (.takeDamage damageAmount) := by
  have fatal : (session.character.playerStats.health.spend damageAmount).Empty ↔
      session.character.playerStats.currentHealth ≤ damageAmount := Gauge.empty_spend_iff nonneg
  have next : (dying.next session (.takeDamage damageAmount)).character =
      (session.character.takeDamage damageAmount).1 := rfl
  rw [staysDown_iff] at down ⊢
  rw [next, takeDamage_eq]
  by_cases lethal : (session.character.playerStats.health.spend damageAmount).Empty
  · simp only [lethal, if_true]
    have died : ∀ character : RPGLearnGameCharacter, character.die.Died := fun _ => ⟨rfl, rfl⟩
    simp only [died, forall_const, SparesSprinter, fatal.mp lethal]
    exact Iff.rfl
  · simp only [lethal, if_false]
    exact iff_of_true down fun hit => absurd (fatal.mpr hit) lethal

/-- A drain tick of a dead character that stays down finds no stamina and ends the
drain. -/
theorem drainStamina_staysDown {session : Session} (down : session.StaysDown)
    (admits : locomotion.Admits session .drainStamina) :
    (dying.next session .drainStamina).StaysDown := by
  have next : (dying.next session .drainStamina).character = session.character.drainStamina := rfl
  rw [staysDown_iff] at down ⊢
  intro died
  have before : session.character.Died := (fire_died_iff admits).mp died
  obtain ⟨still, dry⟩ := down before
  rw [next]
  cases canSprint : session.character.canSprint with
  | false =>
      rw [drainStamina_of_exhausted _ canSprint]
      exact ⟨still, fun draining => absurd (canSprint.symm.trans draining.2) Bool.false_ne_true⟩
  | true =>
      have empty := dry ⟨admits.1 rfl, canSprint⟩
      have tired : ¬ session.character.Lasts := not_lt.mpr (empty.trans zero_le_one)
      rw [drainStamina_of_canSprint _ canSprint]
      exact ⟨decide_eq_false tired, fun draining => absurd (of_decide_eq_true draining.2) tired⟩

/-- A restore tick keeps a dead character down exactly when it leaves nothing to
drain. -/
theorem restoreStamina_staysDown_iff {session : Session} (down : session.StaysDown) :
    (dying.next session .restoreStamina).StaysDown ↔ session.SparesSprinter .restoreStamina := by
  have next : (dying.next session .restoreStamina).character =
      session.character.restoreStamina := rfl
  rw [staysDown_iff] at down ⊢
  rw [next, restoreStamina_eq]
  refine imp_congr_right fun died => ?_
  exact and_iff_right (down died).1

/-- One step keeps the dead down exactly when it spares the sprinter. -/
theorem staysDown_exact :
    dying.ExactCondition (fun _ => True) StaysDown SparesSprinter where
  supported := ⟨fun _ _ => trivial⟩
  exact := by
    rintro session callback - down admits
    have guard := admits.2
    cases callback with
    | startCrouch | stopCrouch | startSprint | stopSprint =>
        exact iff_of_true (staysDown_of_input (locomotion_of_dying admits) guard) trivial
    | drainStamina =>
        exact iff_of_true (drainStamina_staysDown down (locomotion_of_dying admits)) trivial
    | restoreStamina => exact restoreStamina_staysDown_iff down
    | movementUpdate =>
        exact iff_of_true ((staysDown_iff _).mpr ((staysDown_iff session).mp down)) trivial
    | takeDamage damageAmount => exact takeDamage_staysDown_iff down guard
    | _ => exact guard.elim

/-- From any start with input enabled, every dead character of a run stays down
exactly when no fatal hit of the run meets a sprinter or a drain with stamina
left, and no restore tick feeds the drain of a dead one. -/
theorem dying_staysDown_iff (start : Session) (enabled : start.character.inputEnabled = true)
    (callbacks : List Callback) (admissible : dying.Admissible start callbacks) :
    dying.Throughout StaysDown start callbacks ↔ dying.EachStep SparesSprinter start callbacks := by
  refine staysDown_exact.throughout_iff trivial (fun died => ?_) admissible
  exact absurd (died.1.symm.trans enabled) Bool.false_ne_true

/-- The dead stay down exactly when none of them sprints and neither the drain ticks of the
run nor those of the runs that break off for a drain tick lower their stamina. -/
theorem staysDown_iff_ticks {start : Session} {callbacks : List Callback}
    (admissible : dying.Admissible start callbacks) :
    dying.Throughout StaysDown start callbacks ↔
      dying.Throughout
          (fun session => session.character.Died → session.character.isSprinting = false)
          start callbacks ∧
        dying.EachStep SparesTheDead start callbacks ∧
          ∀ before after, callbacks = before ++ after →
            dying.Admissible start (before ++ [.drainStamina]) →
              dying.EachStep SparesTheDead start (before ++ [.drainStamina]) := by
  have others : ∀ (session : Session) (callback : Callback), callback ≠ .drainStamina →
      session.SparesTheDead callback := by
    intro session callback other
    cases callback with
    | drainStamina => exact absurd rfl other
    | _ => trivial
  have promise := EventMachine.throughout_promise_iff others admissible
  constructor
  · intro down
    refine ⟨down.mono fun session down died => (down died).1, ?_, promise.mp ?_⟩
    · refine down.eachStep admissible fun session callback down admits => ?_
      cases callback with
      | drainStamina => exact fun died => (down died).2 admits
      | _ => trivial
    · exact down.mono fun session down admits died => (down died).2 admits
  · rintro ⟨still, -, breaksOff⟩
    have spared := promise.mpr breaksOff
    rw [EventMachine.throughout_iff] at still spared ⊢
    exact fun before after split died =>
      ⟨still before after split died, fun admits => spared before after split admits died⟩

/-- A sprint that is released before the fatal hit. -/
theorem dying_staysDown_released :
    dying.Throughout StaysDown ⟨construct, {}⟩
      [.startSprint, .drainStamina, .takeDamage 60, .stopSprint, .takeDamage 60, .restoreStamina] :=
  (dying_staysDown_iff ⟨construct, {}⟩ rfl _ (by decide +kernel)).mpr (by decide +kernel)

/-- A character killed in the middle of a sprint is still sprinting as a ragdoll, and
its next drain tick takes another stamina. -/
theorem dead_sprinter_pays :
    dying.Admissible ⟨construct, {}⟩
        [.startSprint, .drainStamina, .takeDamage 100, .drainStamina] ∧
      (dying.run ⟨construct, {}⟩
        [.startSprint, .drainStamina, .takeDamage 100]).character.Died ∧
      (dying.run ⟨construct, {}⟩
        [.startSprint, .drainStamina, .takeDamage 100]).character.isSprinting = true ∧
      (dying.run ⟨construct, {}⟩ [.startSprint, .drainStamina, .takeDamage 100,
        .drainStamina]).character.playerStats.currentStamina = 98 ∧
      ¬ dying.Throughout StaysDown ⟨construct, {}⟩
        [.startSprint, .drainStamina, .takeDamage 100, .drainStamina] := by
  decide +kernel

end Session

end RPGLearnGame
