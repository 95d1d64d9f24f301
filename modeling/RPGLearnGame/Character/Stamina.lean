import RPGLearnGame.Character.Gait

/-!
# Stamina

Three laws about the drain and restore timers, each with the exact steps that
break it. Stamina is spent only on sprinting as long as no crouch callback
arrives during a drain and no sprint is accepted while crouching. A character
can sprint again later as long as no tick exhausts it, because nothing ever sets
`canSprint` back. `RestoreTime` and `isSprinting` exclude each other as long as
no tick starts a sprint, because `RestoreTime` is armed once and never cleared.
-/

namespace RPGLearnGame

namespace Session

open RPGLearnGameCharacter

section Spending

/-- A character that can still sprint has stamina left, below a positive
maximum. -/
structure Stocked (character : RPGLearnGameCharacter) : Prop where
  positive : 0 < character.playerStats.maxStamina
  left : character.canSprint = true → ¬ character.playerStats.stamina.Empty

/-- A constructed character with stamina left is stocked. -/
theorem construct_stocked {playerStats : PlayerStatsComponent} (curve : Option CurveFloat)
    (left : 0 < playerStats.currentStamina) (positive : 0 < playerStats.maxStamina) :
    Stocked (construct playerStats curve) :=
  ⟨positive, fun _ => not_le.mpr left⟩

/-- No locomotion callback lets a character sprint on an empty gauge. -/
theorem stocked_invariant :
    locomotion.Invariant fun session => Stocked session.character where
  preserved := by
    rintro session callback ⟨positive, left⟩ admits
    rw [next_character]
    refine fire_cases admits (fun _ _ => ⟨positive, left⟩) (fun _ _ => ⟨positive, left⟩)
      (fun _ => ⟨positive, left⟩) (fun _ => ⟨positive, left⟩) ⟨positive, left⟩
      (fun _ _ => ⟨positive, left⟩) (fun _ canSprint => ⟨?_, fun lasts => ?_⟩)
      ⟨?_, fun canSprint => ?_⟩ ⟨positive, left⟩
    · simpa using positive
    · rw [empty_spend_one_iff]
      exact not_not.mpr (of_decide_eq_true lasts)
    · simpa using positive
    · have before : 0 < session.character.playerStats.stamina.current :=
        not_le.mp (left canSprint)
      rw [Gauge.empty_refill_iff positive]
      linarith

/-- A drain tick that could come now and would lower the stamina finds the
character sprinting upright. -/
def SpendsOnSprinting (session : Session) : Prop :=
  locomotion.Admits session .drainStamina →
    (locomotion.next session .drainStamina).character.playerStats.currentStamina <
        session.character.playerStats.currentStamina →
      session.character.isCrouching = false ∧ session.character.maxWalkSpeed = 750

instance (session : Session) : Decidable session.SpendsOnSprinting :=
  inferInstanceAs (Decidable (_ → _ → _ ∧ _))

/-- A drain tick that lowers the stamina finds the character sprinting upright. -/
def SpendsUpright (session : Session) : Callback → Prop
  | .drainStamina =>
      (locomotion.next session .drainStamina).character.playerStats.currentStamina <
          session.character.playerStats.currentStamina →
        session.character.isCrouching = false ∧ session.character.maxWalkSpeed = 750
  | _ => True

/-- The steps that keep the drain on sprinting: no crouch callback during a drain
and no sprint accepted while crouching. -/
def KeepsDrainOnSprint (session : Session) : Callback → Prop
  | .startCrouch | .stopCrouch => ¬ session.character.Draining
  | .startSprint => session.character.AcceptsSprint → session.character.isCrouching = false
  | _ => True

instance (session : Session) : (callback : Callback) → Decidable (session.KeepsDrainOnSprint callback)
  | .startCrouch | .stopCrouch => inferInstanceAs (Decidable (¬ session.character.Draining))
  | .startSprint => inferInstanceAs (Decidable (_ → _))
  | .stopSprint | .drainStamina | .restoreStamina | .movementUpdate | .tick _ | .takeDamage _
  | .increaseHealth _ | .increaseMaxHealth _ => inferInstanceAs (Decidable True)

/-- The ticks that lower the stamina are those of a draining character. -/
theorem spendsOnSprinting_iff {session : Session} (stocked : Stocked session.character) :
    session.SpendsOnSprinting ↔
      (session.character.Draining →
        session.character.isCrouching = false ∧ session.character.maxWalkSpeed = 750) := by
  have due : locomotion.Admits session .drainStamina ↔
      session.character.sprintTime.armed = true :=
    ⟨fun admits => admits.1 rfl, fun armed => ⟨fun _ => armed, trivial⟩⟩
  have lowers : session.character.drainStamina.playerStats.currentStamina <
      session.character.playerStats.currentStamina ↔ session.character.canSprint = true := by
    rw [drainStamina_lowers_iff]
    exact and_iff_left_of_imp stocked.left
  rw [SpendsOnSprinting, due, next_character, fire, lowers, Draining, and_imp]

/-- One locomotion step keeps the drain on sprinting exactly when it is not a
crouch callback during a drain or a sprint accepted while crouching. -/
theorem spendsOnSprinting_exact :
    locomotion.ExactCondition
      (fun session => Stocked session.character ∧ session.character.ConstructedSpeeds)
      SpendsOnSprinting KeepsDrainOnSprint where
  supported := stocked_invariant.and constructedSpeeds_invariant
  exact := by
    rintro session callback ⟨stocked, speeds⟩ spends admits
    rw [spendsOnSprinting_iff (stocked_invariant.preserved stocked admits), next_character]
    rw [spendsOnSprinting_iff stocked] at spends
    refine fire_cases admits (fun _ _ => ?_) (fun _ _ => ?_) (fun accepts => ?_)
      (fun refuses => ?_) ?_ (fun _ canSprint => ?_) (fun armed canSprint => ?_) ?_ ?_
    · simp [Draining, KeepsDrainOnSprint]
    · simp [Draining, KeepsDrainOnSprint, speeds.walk]
    · simp [Draining, KeepsDrainOnSprint, accepts, accepts.1, TimerHandle.armed]
    · exact iff_of_true spends fun accepted => absurd accepted refuses
    · exact iff_of_true (fun draining => absurd draining.1 Bool.false_ne_true) trivial
    · refine iff_of_true (fun draining => ?_) trivial
      exact absurd (canSprint.symm.trans draining.2) Bool.false_ne_true
    · exact iff_of_true (fun _ => spends ⟨armed, canSprint⟩) trivial
    · exact iff_of_true spends trivial
    · exact iff_of_true spends trivial

/-- Along any interleaving of the keys and the timers, stamina is spent only by a
character that sprints upright exactly when no crouch callback arrives during a
drain and no sprint is accepted while crouching. -/
theorem locomotion_spendsOnSprinting_iff (playerStats : PlayerStatsComponent)
    (curve : Option CurveFloat) (left : 0 < playerStats.currentStamina)
    (bounded : playerStats.currentStamina ≤ playerStats.maxStamina) (callbacks : List Callback)
    (admissible : locomotion.Admissible ⟨construct playerStats curve, {}⟩ callbacks) :
    locomotion.Throughout SpendsOnSprinting ⟨construct playerStats curve, {}⟩ callbacks ↔
      locomotion.EachStep KeepsDrainOnSprint ⟨construct playerStats curve, {}⟩ callbacks := by
  have stocked := construct_stocked curve left (left.trans_le bounded)
  refine spendsOnSprinting_exact.throughout_iff ⟨stocked, ⟨rfl, rfl⟩⟩ ?_ admissible
  exact fun admits => absurd (admits.1 rfl) Bool.false_ne_true

/-- Stamina is spent only by a character that sprints upright exactly when the drain ticks of
the run, and of the runs that break off for a drain tick, spend it upright. -/
theorem spendsOnSprinting_iff_ticks {start : Session} {callbacks : List Callback}
    (admissible : locomotion.Admissible start callbacks) :
    locomotion.Throughout SpendsOnSprinting start callbacks ↔
      locomotion.EachStep SpendsUpright start callbacks ∧
        ∀ before after, callbacks = before ++ after →
          locomotion.Admissible start (before ++ [.drainStamina]) →
            locomotion.EachStep SpendsUpright start (before ++ [.drainStamina]) := by
  have others : ∀ (session : Session) (callback : Callback), callback ≠ .drainStamina →
      session.SpendsUpright callback := by
    intro session callback other
    cases callback with
    | drainStamina => exact absurd rfl other
    | _ => trivial
  have promise := EventMachine.throughout_promise_iff others admissible
  refine ⟨fun spends => ⟨?_, promise.mp spends⟩, fun spends => promise.mpr spends.2⟩
  refine spends.eachStep admissible fun session callback spends admits => ?_
  cases callback with
  | drainStamina => exact spends admits
  | _ => trivial

/-- A sprint released before crouching spends stamina on sprinting only. -/
theorem locomotion_spendsOnSprinting_released_first :
    locomotion.Throughout SpendsOnSprinting ⟨construct, {}⟩
      [.startSprint, .drainStamina, .drainStamina, .stopSprint, .startCrouch, .restoreStamina] :=
  (locomotion_spendsOnSprinting_iff {} none (by decide +kernel) (by decide +kernel) _
    (by decide +kernel)).mpr (by decide +kernel)

/-- Crouching in the middle of a sprint leaves the drain running: a crouching
character pays a stamina at the crouching speed. -/
theorem crouched_drain_spends :
    keyed.Admissible ⟨construct, {}⟩ [.startSprint, .startCrouch, .drainStamina] ∧
      (keyed.run ⟨construct, {}⟩ [.startSprint, .startCrouch]).character.isCrouching = true ∧
      (keyed.run ⟨construct, {}⟩ [.startSprint, .startCrouch]).character.maxWalkSpeed = 350 ∧
      (keyed.run ⟨construct, {}⟩
        [.startSprint, .startCrouch, .drainStamina]).character.playerStats.currentStamina = 99 ∧
      ¬ locomotion.Throughout SpendsOnSprinting ⟨construct, {}⟩
        [.startSprint, .startCrouch, .drainStamina] := by
  decide +kernel

end Spending

section Recovery

/-- Some continuation, with each key alternating, ends with both keys up and the
character standing, and a press of the sprint key there sets the sprinting speed
and arms the idle drain timer. -/
def CanRecover (session : Session) : Prop :=
  ∃ continuation, keyed.Admissible session continuation ∧
    let rested := keyed.run session continuation
    rested.keys.crouch = false ∧ rested.character.bIsCrouched = false ∧
      rested.character.sprintTime.armed = false ∧ keyed.Admits rested .startSprint ∧
      (keyed.next rested .startSprint).character.maxWalkSpeed = 750 ∧
      (keyed.next rested .startSprint).character.sprintTime.armed = true

/-- Only a drain tick writes `canSprint`. -/
theorem fire_canSprint {session : Session} {callback : Callback}
    (admits : locomotion.Admits session callback) (notDrain : callback ≠ .drainStamina) :
    (session.character.fire callback).canSprint = session.character.canSprint := by
  revert notDrain
  refine fire_cases admits (fun _ _ _ => rfl) (fun _ _ _ => rfl) (fun _ _ => rfl) (fun _ _ => rfl)
    (fun _ => rfl) ?_ ?_ (fun _ => rfl) (fun _ => rfl)
  · exact fun _ _ notDrain => absurd rfl notDrain
  · exact fun _ _ notDrain => absurd rfl notDrain

/-- An exhausted character stays exhausted. -/
theorem exhausted_invariant :
    locomotion.Invariant fun session => session.character.canSprint = false where
  preserved := by
    intro session callback exhausted admits
    rw [next_character]
    by_cases drain : callback = .drainStamina
    · rw [drain, fire, drainStamina_of_exhausted _ exhausted]
      exact exhausted
    · rw [fire_canSprint admits drain]
      exact exhausted

/-- Let go of the sprint key, pressing it first when it is up. -/
def releaseSprint (keys : Keys) : List Callback :=
  if keys.sprint then [.stopSprint] else [.startSprint, .stopSprint]

/-- Let go of the crouch key, pressing it first when it is up, and wait for the
engine to stand the character up. -/
def standUp (keys : Keys) : List Callback :=
  if keys.crouch then [.stopCrouch, .movementUpdate]
  else [.startCrouch, .stopCrouch, .movementUpdate]

/-- Letting go of the sprint key disarms the drain timer. -/
theorem releaseSprint_spec (session : Session) :
    keyed.Admissible session (releaseSprint session.keys) ∧
      let released := keyed.run session (releaseSprint session.keys)
      released.keys.sprint = false ∧ released.character.sprintTime.armed = false ∧
        released.character.canSprint = session.character.canSprint := by
  cases held : session.keys.sprint with
  | true =>
      simp only [releaseSprint, held, if_true]
      exact ⟨⟨keyed_admits held, trivial⟩, rfl, rfl, rfl⟩
  | false =>
      simp only [releaseSprint, held, Bool.false_eq_true, if_false]
      refine ⟨⟨keyed_admits held, keyed_admits rfl, trivial⟩, rfl, rfl, ?_⟩
      obtain ⟨_, _, pressed⟩ := session.character.startSprint_frame
      simp [fire, stopSprint, pressed]

/-- Standing up clears `bIsCrouched` and leaves the sprint key alone. -/
theorem standUp_spec (session : Session) :
    keyed.Admissible session (standUp session.keys) ∧
      let standing := keyed.run session (standUp session.keys)
      standing.keys = { session.keys with crouch := false } ∧
        standing.character.bIsCrouched = false ∧
        standing.character.sprintTime = session.character.sprintTime ∧
        standing.character.canSprint = session.character.canSprint := by
  cases held : session.keys.crouch with
  | true =>
      simp only [standUp, held, if_true]
      refine ⟨⟨keyed_admits held, keyed_admits trivial, trivial⟩, rfl, ?_⟩
      simp [fire, stopCrouch_eq, movementUpdate]
  | false =>
      simp only [standUp, held, Bool.false_eq_true, if_false]
      refine ⟨⟨keyed_admits held, keyed_admits rfl, keyed_admits trivial, trivial⟩, rfl, ?_⟩
      simp [fire, startCrouch_eq, stopCrouch_eq, movementUpdate]

/-- A character can recover exactly while it can sprint: an exhausted one refuses
every press, and any other only has to let go of both keys. -/
theorem canRecover_iff (session : Session) :
    session.CanRecover ↔ session.character.canSprint = true := by
  constructor
  · rintro ⟨continuation, admissible, _, _, idle, _, _, armed⟩
    by_contra cannot
    have exhausted : session.character.canSprint = false := Bool.eq_false_of_not_eq_true cannot
    have still : (keyed.run session continuation).character.canSprint = false :=
      (exhausted_invariant.guarded.throughout exhausted admissible).final
    have refuses : ¬ (keyed.run session continuation).character.AcceptsSprint :=
      fun accepts => Bool.false_ne_true (still.symm.trans accepts.1)
    rw [keyed_next, next_character, fire, startSprint_of_refuses _ refuses, idle] at armed
    exact Bool.false_ne_true armed
  · intro canSprint
    obtain ⟨releasing, keyUp, idle, kept⟩ := releaseSprint_spec session
    obtain ⟨standing, keys, upright, sameTimer, sameFlag⟩ :=
      standUp_spec (keyed.run session (releaseSprint session.keys))
    refine ⟨_, EventMachine.admissible_append releasing standing, ?_⟩
    rw [EventMachine.run_append]
    have accepts := And.intro ((sameFlag.trans kept).trans canSprint) upright
    refine ⟨by rw [keys], upright, by rw [sameTimer]; exact idle, keyed_admits ?_, ?_, ?_⟩
    · rw [Keys.Fits, keys]
      exact keyUp
    · rw [keyed_next, next_character, fire, startSprint_of_accepts _ accepts]
    · rw [keyed_next, next_character, fire, startSprint_of_accepts _ accepts]
      rfl

/-- No drain tick takes the last stamina. -/
def KeepsBreath (session : Session) : Callback → Prop
  | .drainStamina => session.character.Lasts
  | _ => True

instance (session : Session) : (callback : Callback) → Decidable (session.KeepsBreath callback)
  | .drainStamina => inferInstanceAs (Decidable session.character.Lasts)
  | .startCrouch | .stopCrouch | .startSprint | .stopSprint | .restoreStamina | .movementUpdate
  | .tick _ | .takeDamage _ | .increaseHealth _ | .increaseMaxHealth _ =>
      inferInstanceAs (Decidable True)

/-- One locomotion step leaves a character able to sprint exactly when it is not
a drain tick that takes the last stamina. -/
theorem canSprint_exact :
    locomotion.ExactCondition (fun _ => True) (fun session => session.character.canSprint = true)
      KeepsBreath where
  supported := ⟨fun _ _ => trivial⟩
  exact := by
    rintro session callback - canSprint admits
    rw [next_character]
    by_cases drain : callback = .drainStamina
    · rw [drain, fire, drainStamina_of_canSprint _ canSprint]
      exact decide_eq_true_iff
    · rw [fire_canSprint admits drain]
      refine iff_of_true canSprint ?_
      cases callback with
      | drainStamina => exact absurd rfl drain
      | _ => trivial

/-- From a start that can sprint, every state of a run can recover exactly when no
drain tick of the run takes the last stamina. -/
theorem locomotion_canRecover_iff (start : Session)
    (canSprint : start.character.canSprint = true) (callbacks : List Callback)
    (admissible : locomotion.Admissible start callbacks) :
    locomotion.Throughout CanRecover start callbacks ↔
      locomotion.EachStep KeepsBreath start callbacks := by
  rw [funext fun session => propext (canRecover_iff session)]
  exact canSprint_exact.throughout_iff trivial canSprint admissible

/-- With two stamina left, one drain tick and a release keep the character able to
recover. -/
theorem locomotion_canRecover_short_sprint :
    locomotion.Throughout CanRecover ⟨construct { stamina := ⟨2, 100⟩ }, {}⟩
      [.startSprint, .drainStamina, .stopSprint, .restoreStamina] :=
  (locomotion_canRecover_iff ⟨construct { stamina := ⟨2, 100⟩ }, {}⟩ rfl _
    (by decide +kernel)).mpr (by decide +kernel)

/-- A sprint to exhaustion is the character's last one. -/
theorem exhausted_cannot_recover :
    keyed.Admissible ⟨construct { stamina := ⟨1, 100⟩ }, {}⟩ [.startSprint, .drainStamina] ∧
      ¬ locomotion.Throughout CanRecover ⟨construct { stamina := ⟨1, 100⟩ }, {}⟩
        [.startSprint, .drainStamina] := by
  refine ⟨by decide +kernel, fun recovers => ?_⟩
  have canSprint := (canRecover_iff _).mp recovers.final
  exact absurd canSprint (by decide +kernel)

end Recovery

section Regeneration

/-- `RestoreTime` is armed exactly while the character is not sprinting. -/
def RestoresAtRest (session : Session) : Prop :=
  session.character.restoreTime.armed = true ↔ session.character.isSprinting = false

instance (session : Session) : Decidable session.RestoresAtRest :=
  inferInstanceAs (Decidable (_ ↔ _))

/-- A restore tick that raises the stamina finds the character not sprinting. -/
def RaisesAtRest (session : Session) : Callback → Prop
  | .restoreStamina =>
      session.character.playerStats.currentStamina <
          (timed.next session .restoreStamina).character.playerStats.currentStamina →
        session.character.isSprinting = false
  | _ => True

instance (session : Session) : (callback : Callback) → Decidable (session.RaisesAtRest callback)
  | .restoreStamina => inferInstanceAs (Decidable (_ → _))
  | .startCrouch | .stopCrouch | .startSprint | .stopSprint | .drainStamina | .movementUpdate
  | .tick _ | .takeDamage _ | .increaseHealth _ | .increaseMaxHealth _ =>
      inferInstanceAs (Decidable True)

/-- No drain tick leaves the character sprinting. -/
def KeepsAtRest (session : Session) : Callback → Prop
  | .drainStamina => session.character.canSprint = true → ¬ session.character.Lasts
  | _ => True

instance (session : Session) : (callback : Callback) → Decidable (session.KeepsAtRest callback)
  | .drainStamina => inferInstanceAs (Decidable (_ → _))
  | .startCrouch | .stopCrouch | .startSprint | .stopSprint | .restoreStamina | .movementUpdate
  | .tick _ | .takeDamage _ | .increaseHealth _ | .increaseMaxHealth _ =>
      inferInstanceAs (Decidable True)

/-- No locomotion callback writes `RestoreTime`. -/
theorem fire_restoreTime {session : Session} {callback : Callback}
    (admits : locomotion.Admits session callback) :
    (session.character.fire callback).restoreTime = session.character.restoreTime := by
  refine fire_cases admits ?_ ?_ ?_ ?_ ?_ ?_ ?_ ?_ ?_
  all_goals
    intros
    rfl

/-- Only a drain tick starts a sprint, and only one that leaves stamina. -/
theorem fire_isSprinting_iff {session : Session} {callback : Callback}
    (admits : locomotion.Admits session callback)
    (atRest : session.character.isSprinting = false) :
    (session.character.fire callback).isSprinting = false ↔ session.KeepsAtRest callback := by
  have stillAtRest : ∀ {condition : Prop}, condition →
      (session.character.isSprinting = false ↔ condition) := iff_of_true atRest
  refine fire_cases admits (fun _ _ => stillAtRest trivial) (fun _ _ => stillAtRest trivial)
    (fun _ => stillAtRest trivial) (fun _ => stillAtRest trivial) (iff_of_true rfl trivial)
    (fun _ canSprint => ?_) (fun _ canSprint => ?_) (stillAtRest trivial) (stillAtRest trivial)
  · exact stillAtRest fun able => absurd (canSprint.symm.trans able) Bool.false_ne_true
  · simp [KeepsAtRest, canSprint]

/-- With `RestoreTime` armed, one step keeps it apart from sprinting exactly when
no drain tick starts a sprint. -/
theorem restoresAtRest_exact :
    timed.ExactCondition (fun session => session.character.restoreTime.armed = true)
      RestoresAtRest KeepsAtRest where
  supported := by
    constructor
    intro session callback armed admits
    exact (congrArg TimerHandle.armed (fire_restoreTime admits.1)).trans armed
  exact := by
    intro session callback armed atRest admits
    have stillArmed : (session.character.fire callback).restoreTime.armed = true :=
      (congrArg TimerHandle.armed (fire_restoreTime admits.1)).trans armed
    exact (iff_true_left stillArmed).trans (fire_isSprinting_iff admits.1 (atRest.mp armed))

/-- After `BeginPlay`, `RestoreTime` is armed exactly outside sprints and no
restore tick raises the stamina of a sprinting character, throughout a run,
exactly when no drain tick of the run starts a sprint. -/
theorem timed_restoresAtRest_iff (playerStats : PlayerStatsComponent)
    (curve : Option CurveFloat) (callbacks : List Callback)
    (admissible : timed.Admissible ⟨(construct playerStats curve).beginPlay, {}⟩ callbacks) :
    timed.Throughout RestoresAtRest ⟨(construct playerStats curve).beginPlay, {}⟩ callbacks ∧
        timed.EachStep RaisesAtRest ⟨(construct playerStats curve).beginPlay, {}⟩ callbacks ↔
      timed.EachStep KeepsAtRest ⟨(construct playerStats curve).beginPlay, {}⟩ callbacks := by
  have law := restoresAtRest_exact.throughout_iff
    (show (construct playerStats curve).beginPlay.restoreTime.armed = true from rfl)
    (iff_of_true rfl rfl) admissible
  rw [← law, and_iff_left_iff_imp]
  intro atRest
  refine atRest.eachStep admissible fun session callback rests admits => ?_
  cases callback with
  | restoreStamina => exact fun _ => rests.mp (admits.2 rfl)
  | _ => trivial

/-- Pressing sprint without holding it for a tick leaves the restore timer alone
with a resting character. -/
theorem timed_restoresAtRest_tap :
    timed.Throughout RestoresAtRest ⟨(construct).beginPlay, {}⟩
        [.startSprint, .stopSprint, .restoreStamina, .startCrouch] ∧
      timed.EachStep RaisesAtRest ⟨(construct).beginPlay, {}⟩
        [.startSprint, .stopSprint, .restoreStamina, .startCrouch] :=
  (timed_restoresAtRest_iff {} none _ (by decide +kernel)).mpr (by decide +kernel)

/-- Two drain ticks into a sprint, the restore timer still ticks and gives a
stamina back to the sprinting character. -/
theorem restored_while_sprinting :
    keyed.Admissible ⟨(construct).beginPlay, {}⟩
        [.startSprint, .drainStamina, .drainStamina, .restoreStamina] ∧
      timed.Admissible ⟨(construct).beginPlay, {}⟩
        [.startSprint, .drainStamina, .drainStamina, .restoreStamina] ∧
      ¬ timed.Throughout RestoresAtRest ⟨(construct).beginPlay, {}⟩
        [.startSprint, .drainStamina, .drainStamina, .restoreStamina] ∧
      ¬ timed.EachStep RaisesAtRest ⟨(construct).beginPlay, {}⟩
        [.startSprint, .drainStamina, .drainStamina, .restoreStamina] := by
  decide +kernel

end Regeneration

end Session

end RPGLearnGame
