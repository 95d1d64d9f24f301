import RPGLearnGame.Character.Stamina

/-!
# Sprinting and its drain

What the character does get right. The sprinting speed and `isSprinting` are set
by different callbacks, yet neither is ever seen without an armed drain timer.
And whichever way the two keys are nested, the callback that releases the last
of them leaves the character at rest.
-/

namespace RPGLearnGame

namespace Session

open RPGLearnGameCharacter

section LiveDrain

/-- The sprinting speed needs an armed drain timer, and the sprinting flag also a
character that can sprint and has stamina left. -/
structure LiveDrain (character : RPGLearnGameCharacter) : Prop where
  speed : character.maxWalkSpeed = 750 → character.sprintTime.armed = true
  flag : character.isSprinting = true →
    character.sprintTime.armed = true ∧ character.canSprint = true ∧
      0 < character.playerStats.currentStamina

/-- A constructed character is not sprinting. -/
theorem construct_liveDrain (playerStats : PlayerStatsComponent) (curve : Option CurveFloat) :
    LiveDrain (construct playerStats curve) := by
  refine ⟨fun speed => ?_, fun flag => absurd flag Bool.false_ne_true⟩
  norm_num [construct] at speed

/-- Every locomotion callback keeps the drain alive: the two crouch callbacks and the
release set other speeds, a press arms the timer, a stamina tick leaves the flag set only
where it leaves some stamina, and a restore tick only adds stamina. -/
theorem liveDrain_invariant :
    locomotion.Invariant fun session =>
      LiveDrain session.character ∧
        Stocked session.character ∧ session.character.ConstructedSpeeds where
  preserved := by
    rintro session callback ⟨live, stocked, speeds⟩ admits
    have support := (stocked_invariant.and constructedSpeeds_invariant).preserved
      ⟨stocked, speeds⟩ admits
    refine ⟨?_, support⟩
    rw [next_character]
    refine fire_cases admits (fun _ _ => ?_) (fun _ _ => ?_) (fun _ => ?_) (fun _ => live) ?_
      (fun _ _ => ?_) (fun armed _ => ?_) ?_ ⟨live.speed, live.flag⟩
    · refine ⟨fun speed => ?_, live.flag⟩
      norm_num [speeds.crouched] at speed
    · refine ⟨fun speed => ?_, live.flag⟩
      norm_num [speeds.walk] at speed
    · exact ⟨fun _ => rfl, fun flag => ⟨rfl, (live.flag flag).2⟩⟩
    · refine ⟨fun speed => ?_, fun flag => absurd flag Bool.false_ne_true⟩
      norm_num at speed
    · refine ⟨fun speed => ?_, live.flag⟩
      norm_num at speed
    · refine ⟨fun _ => armed, fun flag => ⟨armed, flag, ?_⟩⟩
      have lasts : session.character.Lasts := of_decide_eq_true flag
      have left : ¬ (session.character.playerStats.stamina.spend 1).Empty :=
        mt session.character.empty_spend_one_iff.mp (not_not.mpr lasts)
      exact not_le.mp left
    · refine ⟨live.speed, fun flag => ?_⟩
      obtain ⟨armed, canSprint, left⟩ := live.flag flag
      have refilled : 0 < session.character.playerStats.stamina.current + 1 := by linarith
      exact ⟨armed, canSprint, lt_min refilled stocked.positive⟩

/-- From a constructed character with stamina left, neither the sprinting speed nor
the sprinting flag is ever seen without a live drain. -/
theorem locomotion_liveDrain (playerStats : PlayerStatsComponent) (curve : Option CurveFloat)
    (left : 0 < playerStats.currentStamina)
    (bounded : playerStats.currentStamina ≤ playerStats.maxStamina) (callbacks : List Callback)
    (admissible : locomotion.Admissible ⟨construct playerStats curve, {}⟩ callbacks) :
    locomotion.Throughout (fun session => LiveDrain session.character)
      ⟨construct playerStats curve, {}⟩ callbacks := by
  have live := construct_liveDrain playerStats curve
  have stocked := construct_stocked curve left (left.trans_le bounded)
  have throughout := liveDrain_invariant.throughout ⟨live, stocked, ⟨rfl, rfl⟩⟩ admissible
  exact throughout.mono fun _ => And.left

/-- A sprint into a crouch and on to the last stamina. -/
theorem locomotion_liveDrain_exhausting :
    locomotion.Throughout (fun session => LiveDrain session.character)
      ⟨construct { stamina := ⟨2, 100⟩ }, {}⟩
      [.startSprint, .drainStamina, .startCrouch, .drainStamina, .drainStamina, .stopSprint] :=
  locomotion_liveDrain { stamina := ⟨2, 100⟩ } none (by decide +kernel) (by decide +kernel) _
    (by decide +kernel)

end LiveDrain

section Release

/-- The resting state. -/
structure Resting (character : RPGLearnGameCharacter) : Prop where
  speed : character.maxWalkSpeed = 500
  idle : character.sprintTime.armed = false
  notSprinting : character.isSprinting = false
  notCrouching : character.isCrouching = false

/-- With neither key held, the character is at rest. -/
def RestsWhenReleased (session : Session) : Prop :=
  session.keys.crouch = false → session.keys.sprint = false → Resting session.character

/-- What each key accounts for while it is held, with the speed left over for the
case that none is. -/
structure KeysAccount (session : Session) : Prop where
  timer : session.character.sprintTime.armed = true → session.keys.sprint = true
  flag : session.character.isSprinting = true → session.keys.sprint = true
  crouching : session.character.isCrouching = true → session.keys.crouch = true
  speed : session.keys.crouch = false → session.keys.sprint = false →
    session.character.maxWalkSpeed = 500

/-- Every callback of the two keys and the timers stays within what the keys account
for. -/
theorem keysAccount_invariant :
    locomotion.Invariant fun session =>
      session.KeysAccount ∧ session.character.ConstructedSpeeds where
  preserved := by
    rintro session callback ⟨account, speeds⟩ admits
    refine ⟨?_, constructedSpeeds_invariant.preserved speeds admits⟩
    have pressed : ¬ true = false := fun up => Bool.false_ne_true up.symm
    suffices accounts : KeysAccount ⟨session.character.fire callback, session.keys.after callback⟩
      from accounts
    refine fire_cases admits (fun _ _ => ?_) (fun _ _ => ?_) (fun _ => ?_) (fun _ => ?_) ?_
      (fun _ _ => ?_) (fun armed _ => ?_) ?_ ?_
    · exact ⟨account.timer, account.flag, fun _ => rfl, fun up => absurd up pressed⟩
    · exact ⟨account.timer, account.flag, fun crouching => absurd crouching Bool.false_ne_true,
        fun _ _ => speeds.walk⟩
    · exact ⟨fun _ => rfl, fun _ => rfl, account.crouching, fun _ up => absurd up pressed⟩
    · exact ⟨fun _ => rfl, fun _ => rfl, account.crouching, fun _ up => absurd up pressed⟩
    · exact ⟨fun armed => absurd armed Bool.false_ne_true,
        fun flag => absurd flag Bool.false_ne_true, account.crouching, fun _ _ => rfl⟩
    · exact ⟨account.timer, account.flag, account.crouching, fun _ _ => rfl⟩
    · exact ⟨account.timer, fun _ => account.timer armed, account.crouching, account.speed⟩
    · exact ⟨account.timer, account.flag, account.crouching, account.speed⟩
    · exact ⟨account.timer, account.flag, account.crouching, account.speed⟩

/-- Keys that account for the character leave it at rest once they are released. -/
theorem KeysAccount.restsWhenReleased {session : Session} (account : session.KeysAccount) :
    session.RestsWhenReleased := by
  intro crouchUp sprintUp
  have notHeld : ∀ {held : Bool}, held = false → ¬ held = true := by
    rintro _ rfl
    exact Bool.false_ne_true
  exact {
    speed := account.speed crouchUp sprintUp
    idle := Bool.eq_false_of_not_eq_true (mt account.timer (notHeld sprintUp))
    notSprinting := Bool.eq_false_of_not_eq_true (mt account.flag (notHeld sprintUp))
    notCrouching := Bool.eq_false_of_not_eq_true (mt account.crouching (notHeld crouchUp)) }

/-- Whichever way presses and releases of the two keys, stamina ticks and exhaustion
are interleaved, a constructed character is at rest whenever neither key is held. -/
theorem keyed_restsWhenReleased (playerStats : PlayerStatsComponent) (curve : Option CurveFloat)
    (callbacks : List Callback)
    (admissible : keyed.Admissible ⟨construct playerStats curve, {}⟩ callbacks) :
    keyed.Throughout RestsWhenReleased ⟨construct playerStats curve, {}⟩ callbacks := by
  have account : KeysAccount ⟨construct playerStats curve, {}⟩ :=
    ⟨fun armed => absurd armed Bool.false_ne_true, fun flag => absurd flag Bool.false_ne_true,
      fun crouching => absurd crouching Bool.false_ne_true, fun _ _ => rfl⟩
  have throughout := keysAccount_invariant.guarded.throughout ⟨account, ⟨rfl, rfl⟩⟩ admissible
  exact throughout.mono fun _ holds => holds.1.restsWhenReleased

/-- Crouch pressed and released inside a sprint that outlasts it and exhausts the
character. -/
theorem keyed_restsWhenReleased_nested :
    keyed.Throughout RestsWhenReleased ⟨construct { stamina := ⟨1, 100⟩ }, {}⟩
      [.startSprint, .startCrouch, .drainStamina, .stopCrouch, .drainStamina, .stopSprint] :=
  keyed_restsWhenReleased { stamina := ⟨1, 100⟩ } none _ (by decide +kernel)

end Release

end Session

end RPGLearnGame
