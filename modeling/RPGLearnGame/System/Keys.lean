import RPGLearnGame.System.Interleaving

/-!
# What becomes of the player's keys

Input is live from the moment the mapping context is added until `Die`, and nothing brings
it back: whatever the player does after a fatal hit leaves the game as it is.

While input is live the crouch flag and the drain timer follow their keys. They lose them
where a key goes up or down unheard, which happens to whoever dies with a key held, and to
an input that is canceled, as no callback is bound to that.
-/

namespace RPGLearnGame

open EventMachine

namespace Game

variable {K : Type*}

/-- The game without what the player is holding. -/
def unheld (game : Game K) : Game K := { game with held := fun _ => false }

/-- An event that is not input. -/
def IsNotInput : GameEvent K → Prop
  | .input _ _ _ _ => False
  | _ => True

instance : DecidablePred (IsNotInput (K := K))
  | .input _ _ _ _ => inferInstanceAs (Decidable False)
  | .beginPlay _ | .setupPlayerInputComponent _ | .nativeConstruct _ _ | .character _
  | .movementUpdate _ | .movementMode _ | .operation _ | .updateHealth | .updateStamina
  | .vaulting _ | .vaultMotionWarp _ | .steering _ | .clearJumpInput =>
      inferInstanceAs (Decidable True)

variable [Field K] [LinearOrder K] [ToFloat K] (trig : SinCos K) (scales : InputScales K)

section Dead

/-- Input that is disabled stays disabled. -/
theorem inputEnabled_next {game : Game K} (dead : game.character.inputEnabled = false)
    (event : GameEvent K) :
    ((playing trig scales).next game event).character.inputEnabled = false := by
  cases event with
  | setupPlayerInputComponent | nativeConstruct | movementUpdate | movementMode | operation
  | updateHealth | updateStamina | vaulting | vaultMotionWarp | steering | clearJumpInput =>
      exact dead
  | beginPlay hasLocalPlayer =>
      obtain ⟨crouchTimeline, restoreTime, begun⟩ := beginPlay_frame game.character
      have same : game.character.beginPlay.inputEnabled = game.character.inputEnabled := by
        rw [begun]
      cases hasLocalPlayer <;> exact same.trans dead
  | input action triggerEvent value world =>
      have notLive : ¬ game.Live := fun live => Bool.false_ne_true (dead.symm.trans live.2)
      change (game.input trig scales action triggerEvent value world).character.inputEnabled = false
      rw [input_of_not_live trig scales notLive]
      exact dead
  | character callback =>
      change (game.character.fire callback).inputEnabled = false
      rcases callback.subsystem?_cases with everyones | locomotes
      · cases callback with
        | takeDamage damageAmount =>
            rw [RPGLearnGameCharacter.fire, RPGLearnGameCharacter.takeDamage_eq]
            dsimp only
            split
            · rfl
            · exact dead
        | increaseHealth | increaseMaxHealth => exact dead
        | startCrouch | stopCrouch | startSprint | stopSprint | drainStamina | restoreStamina
        | movementUpdate | tick => contradiction
      · exact (game.character.fire_alive locomotes).1.trans dead

/-- What the player holds matters to nothing but input. -/
theorem next_unheld (game : Game K) {event : GameEvent K} (notInput : IsNotInput event) :
    ((playing trig scales).next game event).unheld =
      ((playing trig scales).next game.unheld event).unheld := by
  cases event with
  | input => exact notInput.elim
  | beginPlay hasLocalPlayer => cases hasLocalPlayer <;> rfl
  | setupPlayerInputComponent | nativeConstruct | character | movementUpdate | movementMode
  | operation | updateHealth | updateStamina | vaulting | vaultMotionWarp | steering
  | clearJumpInput => rfl

/-- A dead character depends on no input. -/
theorem dead_unwinding :
    (playing trig scales).Unwinding (fun game => game.character.inputEnabled = false) unheld
      IsNotInput where
  supported := inputEnabled_next trig scales
  silent := by
    intro game event dead isInput
    cases event with
    | input action triggerEvent value world =>
        have notLive : ¬ game.Live := fun live => Bool.false_ne_true (dead.symm.trans live.2)
        change (game.input trig scales action triggerEvent value world).unheld = game.unheld
        rw [input_of_not_live trig scales notLive]
        rfl
    | beginPlay | setupPlayerInputComponent | nativeConstruct | character | movementUpdate
    | movementMode | operation | updateHealth | updateStamina | vaulting | vaultMotionWarp
    | steering | clearJumpInput => exact absurd trivial isInput
  determined := by
    intro first second event _ _ same notInput
    rw [next_unheld trig scales first notInput, next_unheld trig scales second notInput, same]

end Dead

section Obeyed

/-- The input component is as `SetupPlayerInputComponent` leaves it, or nothing is bound. -/
def Standard (game : Game K) : Prop :=
  ∃ isEnhancedInputComponent,
    game.inputComponent = .setupPlayerInputComponent isEnhancedInputComponent

/-- Inputs of the character come to a callback, if they have one. -/
def Responds (game : Game K) : Prop := game.Live ∧ game.inputComponent.bindings ≠ []

instance (game : Game K) : Decidable game.Responds := inferInstanceAs (Decidable (_ ∧ _))

/-- The locomotion callback that an input has. -/
def heard? : InputAction → ETriggerEvent → Option Callback
  | .crouchAction, .started => some .startCrouch
  | .crouchAction, .completed => some .stopCrouch
  | .sprintAction, .started => some .startSprint
  | .sprintAction, .completed => some .stopSprint
  | _, _ => none

/-- An input is a locomotion callback or leaves the character alone. -/
theorem input_character {game : Game K} (standard : game.Standard) (action : InputAction)
    (triggerEvent : ETriggerEvent) (value : FVector2D K) (world : World K) :
    (game.input trig scales action triggerEvent value world).character =
      match heard? action triggerEvent with
      | some callback => if game.Responds then game.character.fire callback else game.character
      | none => game.character := by
  obtain ⟨isEnhancedInputComponent, bound⟩ := standard
  by_cases live : game.Live
  · rw [input_of_live trig scales live, bound]
    cases isEnhancedInputComponent with
    | false =>
        have unbound : ¬ game.Responds := fun responds => responds.2 (by rw [bound]; rfl)
        simp only [if_neg unbound]
        cases heard? action triggerEvent <;> rfl
    | true =>
        have responds : game.Responds := ⟨live, by rw [bound]; exact List.cons_ne_nil _ _⟩
        simp only [if_pos responds]
        cases action <;> cases triggerEvent <;> rfl
  · have deaf : ¬ game.Responds := fun responds => live responds.1
    rw [input_of_not_live trig scales live]
    simp only [if_neg deaf]
    cases heard? action triggerEvent <;> rfl

/-- The crouch flag is the crouch key, and stamina is drained only with the sprint key
held. -/
structure ObeysKeys (game : Game K) : Prop where
  crouch : game.character.isCrouching = game.held .crouchAction
  sprint : game.character.sprintTime.armed = true → game.held .sprintAction = true

/-- A crouch key that goes down or up is heard, and so is a sprint key that goes up while
stamina is drained. None of them is canceled. -/
def HearsKeys (game : Game K) : GameEvent K → Prop
  | .input .crouchAction .started _ _ | .input .crouchAction .completed _ _ => game.Responds
  | .input .crouchAction .canceled _ _ => False
  | .input .sprintAction .completed _ _ =>
      game.character.sprintTime.armed = true → game.Responds
  | .input .sprintAction .canceled _ _ => game.character.sprintTime.armed = false
  | _ => True

/-- An input is recorded as held, whatever else it does. -/
theorem input_held (game : Game K) (action : InputAction) (triggerEvent : ETriggerEvent)
    (value : FVector2D K) (world : World K) :
    (game.input trig scales action triggerEvent value world).held =
      holding game.held action triggerEvent := by
  rcases game.input_cases trig scales action triggerEvent value world with
    undelivered | ⟨handler, -, delivered⟩
  · rw [undelivered]
  · rw [delivered]
    cases handler <;> rfl

omit [Field K] [LinearOrder K] [ToFloat K] in
theorem obeysKeys_iff (game : Game K) :
    game.ObeysKeys ↔ game.character.isCrouching = game.held .crouchAction ∧
      (game.character.sprintTime.armed = true → game.held .sprintAction = true) :=
  ⟨fun obeys => ⟨obeys.crouch, obeys.sprint⟩, fun both => ⟨both.1, both.2⟩⟩

/-- A crouch input keeps a character with its keys exactly when it is heard. -/
theorem crouch_obeysKeys_iff {game : Game K} (standard : game.Standard) (obeys : game.ObeysKeys)
    {triggerEvent : ETriggerEvent} (gives : Gives game.held .crouchAction triggerEvent)
    (value : FVector2D K) (world : World K) :
    (game.input trig scales .crouchAction triggerEvent value world).ObeysKeys ↔
      game.HearsKeys (.input .crouchAction triggerEvent value world) := by
  rw [obeysKeys_iff, input_character trig scales standard, input_held]
  cases triggerEvent with
  | none => exact gives.elim
  | triggered | ongoing => exact iff_of_true ⟨obeys.crouch, obeys.sprint⟩ trivial
  | started =>
      by_cases responds : game.Responds
      · refine iff_of_true ?_ responds
        simp only [heard?, if_pos responds, RPGLearnGameCharacter.fire,
          RPGLearnGameCharacter.startCrouch_eq]
        exact ⟨rfl, obeys.sprint⟩
      · refine iff_of_false (fun kept => ?_) responds
        simp only [heard?, if_neg responds] at kept
        exact Bool.false_ne_true (gives.symm.trans (obeys.crouch.symm.trans kept.1))
  | completed =>
      by_cases responds : game.Responds
      · refine iff_of_true ?_ responds
        simp only [heard?, if_pos responds, RPGLearnGameCharacter.fire,
          RPGLearnGameCharacter.stopCrouch_eq]
        exact ⟨rfl, obeys.sprint⟩
      · refine iff_of_false (fun kept => ?_) responds
        simp only [heard?, if_neg responds] at kept
        exact Bool.false_ne_true (kept.1.symm.trans (obeys.crouch.trans gives))
  | canceled =>
      refine iff_of_false (fun kept => ?_) id
      exact Bool.false_ne_true (kept.1.symm.trans (obeys.crouch.trans gives))

/-- A sprint input keeps a character with its keys exactly when it is heard. -/
theorem sprint_obeysKeys_iff {game : Game K} (standard : game.Standard) (obeys : game.ObeysKeys)
    {triggerEvent : ETriggerEvent} (gives : Gives game.held .sprintAction triggerEvent)
    (value : FVector2D K) (world : World K) :
    (game.input trig scales .sprintAction triggerEvent value world).ObeysKeys ↔
      game.HearsKeys (.input .sprintAction triggerEvent value world) := by
  rw [obeysKeys_iff, input_character trig scales standard, input_held]
  cases triggerEvent with
  | none => exact gives.elim
  | triggered | ongoing => exact iff_of_true ⟨obeys.crouch, obeys.sprint⟩ trivial
  | started =>
      refine iff_of_true ⟨?_, fun _ => rfl⟩ trivial
      simp only [heard?]
      split
      · obtain ⟨_, _, pressed⟩ := RPGLearnGameCharacter.startSprint_frame game.character
        rw [RPGLearnGameCharacter.fire, pressed]
        exact obeys.crouch
      · exact obeys.crouch
  | completed =>
      by_cases responds : game.Responds
      · refine iff_of_true ?_ fun _ => responds
        simp only [heard?, if_pos responds]
        exact ⟨obeys.crouch, fun armed => absurd armed Bool.false_ne_true⟩
      · simp only [heard?, if_neg responds]
        constructor
        · exact fun kept armed => absurd (kept.2 armed) Bool.false_ne_true
        · exact fun hears => ⟨obeys.crouch, fun armed => absurd (hears armed) responds⟩
  | canceled =>
      simp only [heard?]
      constructor
      · exact fun kept => Bool.eq_false_of_not_eq_true fun armed =>
          absurd (kept.2 armed) Bool.false_ne_true
      · exact fun idle => ⟨obeys.crouch, fun armed =>
          absurd (idle.symm.trans armed) Bool.false_ne_true⟩

instance (game : Game K) : (event : GameEvent K) → Decidable (game.HearsKeys event)
  | .input .crouchAction .started _ _ | .input .crouchAction .completed _ _ =>
      inferInstanceAs (Decidable game.Responds)
  | .input .crouchAction .canceled _ _ => inferInstanceAs (Decidable False)
  | .input .sprintAction .completed _ _ => inferInstanceAs (Decidable (_ → game.Responds))
  | .input .sprintAction .canceled _ _ => inferInstanceAs (Decidable (_ = _))
  | .input .crouchAction .none _ _ | .input .crouchAction .triggered _ _
  | .input .crouchAction .ongoing _ _ | .input .sprintAction .none _ _
  | .input .sprintAction .started _ _ | .input .sprintAction .triggered _ _
  | .input .sprintAction .ongoing _ _ | .input .jumpAction _ _ _ | .input .moveAction _ _ _
  | .input .lookAction _ _ _ | .input .vaultAction _ _ _ | .beginPlay _
  | .setupPlayerInputComponent _ | .nativeConstruct _ _ | .character _ | .movementUpdate _
  | .movementMode _ | .operation _ | .updateHealth | .updateStamina | .vaulting _
  | .vaultMotionWarp _ | .steering _ | .clearJumpInput => inferInstanceAs (Decidable True)

/-- Timers, engine updates and damage touch neither. -/
theorem fire_fromEngine (character : RPGLearnGameCharacter) {callback : Callback}
    (fromEngine : FromEngine callback) :
    (character.fire callback).isCrouching = character.isCrouching ∧
      (character.fire callback).sprintTime = character.sprintTime := by
  cases callback with
  | drainStamina =>
      rw [RPGLearnGameCharacter.fire, RPGLearnGameCharacter.drainStamina]
      split
      · exact ⟨rfl, rfl⟩
      · exact ⟨rfl, rfl⟩
  | tick deltaTime =>
      rw [RPGLearnGameCharacter.fire, RPGLearnGameCharacter.tick,
        RPGLearnGameCharacter.driveTimeline_eq]
      exact ⟨rfl, rfl⟩
  | takeDamage damageAmount =>
      rw [RPGLearnGameCharacter.fire, RPGLearnGameCharacter.takeDamage_eq]
      dsimp only
      split
      · exact ⟨rfl, rfl⟩
      · exact ⟨rfl, rfl⟩
  | restoreStamina => exact ⟨rfl, rfl⟩
  | startCrouch | stopCrouch | startSprint | stopSprint | movementUpdate | increaseHealth
  | increaseMaxHealth => exact fromEngine.elim

/-- The input component stays as `SetupPlayerInputComponent` leaves it. -/
theorem standard_invariant : (playing trig scales).Invariant Standard where
  preserved := by
    intro game event standard _
    cases event with
    | setupPlayerInputComponent isEnhancedInputComponent =>
        exact ⟨isEnhancedInputComponent, rfl⟩
    | nativeConstruct | character | movementUpdate | movementMode | operation | updateHealth
    | updateStamina | vaulting | vaultMotionWarp | steering | clearJumpInput => exact standard
    | beginPlay hasLocalPlayer => cases hasLocalPlayer <;> exact standard
    | input action triggerEvent value world =>
        change (game.input trig scales action triggerEvent value world).Standard
        rcases game.input_cases trig scales action triggerEvent value world with
          undelivered | ⟨handler, -, delivered⟩
        · rw [undelivered]
          exact standard
        · rw [delivered]
          cases handler <;> exact standard

/-- One step keeps a character with its keys exactly when it hears them. -/
theorem obeysKeys_exact : (playing trig scales).ExactCondition Standard ObeysKeys HearsKeys where
  supported := standard_invariant trig scales
  exact := by
    intro game event standard obeys admits
    cases event with
    | setupPlayerInputComponent | nativeConstruct | movementUpdate | movementMode | operation
    | updateHealth | updateStamina | vaulting | vaultMotionWarp | steering | clearJumpInput =>
        exact iff_of_true ⟨obeys.crouch, obeys.sprint⟩ trivial
    | beginPlay hasLocalPlayer =>
        obtain ⟨crouchTimeline, restoreTime, begun⟩ := beginPlay_frame game.character
        have crouching : game.character.beginPlay.isCrouching = game.character.isCrouching := by
          rw [begun]
        have timer : game.character.beginPlay.sprintTime = game.character.sprintTime := by
          rw [begun]
        have sprint : game.character.beginPlay.sprintTime.armed = true →
            game.held .sprintAction = true := by
          rw [timer]
          exact obeys.sprint
        refine iff_of_true ?_ trivial
        cases hasLocalPlayer <;> exact ⟨crouching.trans obeys.crouch, sprint⟩
    | character callback =>
        obtain ⟨crouching, timer⟩ := fire_fromEngine game.character admits.1
        refine iff_of_true ⟨crouching.trans obeys.crouch, fun armed => obeys.sprint ?_⟩ trivial
        rw [← timer]
        exact armed
    | input action triggerEvent value world =>
        cases action with
        | crouchAction => exact crouch_obeysKeys_iff trig scales standard obeys admits value world
        | sprintAction => exact sprint_obeysKeys_iff trig scales standard obeys admits value world
        | jumpAction | moveAction | lookAction | vaultAction =>
            refine iff_of_true ?_ trivial
            change (game.input trig scales _ triggerEvent value world).ObeysKeys
            rw [obeysKeys_iff, input_character trig scales standard, input_held]
            cases triggerEvent <;> exact ⟨obeys.crouch, obeys.sprint⟩

/-- In every run of the whole game from the constructed character on, the crouch flag is the
crouch key and stamina is drained only with the sprint key held, exactly when every press
and release of the crouch key and every release of the sprint key that ends a drain finds
input live and bound, and none of them is canceled. -/
theorem playing_obeysKeys_iff (start : Game K) (standard : start.Standard)
    (obeys : start.ObeysKeys) (events : List (GameEvent K))
    (admissible : (playing trig scales).Admissible start events) :
    (playing trig scales).Throughout ObeysKeys start events ↔
      (playing trig scales).EachStep HearsKeys start events :=
  (obeysKeys_exact trig scales).throughout_iff standard obeys admissible

/-- A sprint that a hit ends with the key up, and a crouch key that is let go before a second
one is fatal. -/
theorem playing_obeysKeys_in_time :
    (playing .ahead ⟨1, 1⟩).Throughout ObeysKeys
      (construct {} none (.construct 0 0 0) fun _ => ⟨0, 0⟩)
      [.setupPlayerInputComponent true, .beginPlay true,
        .input .sprintAction .started ⟨1, 0⟩ (Vaulting.course 0 []), .character .drainStamina,
        .character (.takeDamage 30),
        .input .sprintAction .completed ⟨0, 0⟩ (Vaulting.course 0 []),
        .input .crouchAction .started ⟨1, 0⟩ (Vaulting.course 0 []),
        .input .crouchAction .completed ⟨0, 0⟩ (Vaulting.course 0 []),
        .character (.takeDamage 90)] :=
  (playing_obeysKeys_iff .ahead ⟨1, 1⟩ (construct {} none (.construct 0 0 0) fun _ => ⟨0, 0⟩)
    ⟨false, rfl⟩ ⟨rfl, fun armed => absurd armed Bool.false_ne_true⟩ _ (by decide +kernel)).mpr
      (by decide +kernel)

end Obeyed

end Game

end RPGLearnGame
