import RPGLearnGame.Semantics.Refinement
import RPGLearnGame.System.Game

/-!
# The parts of the game in its runs

A widget sees of the game a stats component that publishes its percentages, and the vault
component sees calls and callbacks of its montage. Both are parts in the sense of
`Refinement`: each step of the game gives them one command or none, so the laws of a
mirror and of a vaulting owner are laws of the whole game, under all its other events.
-/

namespace RPGLearnGame

open EventMachine
open PlayerStatsComponent (Operation PositiveMaxima)

namespace Game

variable {K : Type*} [Field K] [LinearOrder K] [ToFloat K] (trig : SinCos K)
  (scales : InputScales K)

/-- No bound callback touches the stats or the widgets. -/
theorem handle_silent (value : FVector2D K) (world : World K) (game : Game K)
    (handler : Handler) :
    (handle trig scales value world game handler).character.playerStats =
        game.character.playerStats ∧
      (handle trig scales value world game handler).widgets = game.widgets ∧
        (handle trig scales value world game handler).begunPlay = game.begunPlay := by
  have silent : ∀ callback, game.character.operation? callback = none →
      (game.call callback).character.playerStats = game.character.playerStats ∧
        (game.call callback).widgets = game.widgets ∧
          (game.call callback).begunPlay = game.begunPlay := by
    intro callback nothing
    refine ⟨?_, ?_, rfl⟩
    · change (game.character.fire callback).playerStats = _
      rw [RPGLearnGameCharacter.fire_playerStats, nothing]
    · change game.widgets.broadcastAll (game.character.broadcasts callback) = _
      rw [RPGLearnGameCharacter.broadcasts, nothing]
      rfl
  cases handler with
  | jump | stopJumping | move | look | vault => exact ⟨rfl, rfl, rfl⟩
  | startCrouch | stopCrouch | startSprint | stopSprint => exact silent _ rfl

/-- No input touches the stats or the widgets. -/
theorem input_silent (game : Game K) (action : InputAction) (triggerEvent : ETriggerEvent)
    (value : FVector2D K) (world : World K) :
    (game.input trig scales action triggerEvent value world).character.playerStats =
        game.character.playerStats ∧
      (game.input trig scales action triggerEvent value world).widgets = game.widgets ∧
        (game.input trig scales action triggerEvent value world).begunPlay = game.begunPlay := by
  rcases game.input_cases trig scales action triggerEvent value world with
    undelivered | ⟨handler, -, delivered⟩
  · rw [undelivered]
    exact ⟨rfl, rfl, rfl⟩
  · rw [delivered]
    exact handle_silent trig scales value world _ handler

/-- `BeginPlay` of the character sets up the camera timeline and the restore timer only. -/
theorem beginPlay_frame (character : RPGLearnGameCharacter) :
    ∃ crouchTimeline restoreTime,
      character.beginPlay = { character with crouchTimeline, restoreTime } := by
  simp only [RPGLearnGameCharacter.beginPlay]
  split
  · exact ⟨_, _, rfl⟩
  · exact ⟨_, _, rfl⟩

section Widget

/-- What the stats component is asked for by whoever uses it. -/
inductive Message where
  | operation (operation : Operation)
  | updateHealth
  | updateStamina
deriving DecidableEq, Repr

/-- The stats component as its widgets see it, with the two calls that repeat a percentage. -/
def messagePublisher : Mirror.Publisher PlayerStatsComponent Message RPGHUD Broadcast where
  Admits
    | stats, .operation operation => Screen.statsPublisher.Admits stats operation
    | _, .updateHealth | _, .updateStamina => True
  next
    | stats, .operation operation => Screen.statsPublisher.next stats operation
    | stats, .updateHealth | stats, .updateStamina => stats
  view := Screen.percentages
  announce := Screen.statsPublisher.announce
  publish
    | stats, .operation operation => Screen.statsPublisher.publish stats operation
    | stats, .updateHealth => stats.updateHealth
    | stats, .updateStamina => stats.updateStamina
  receive := RPGHUD.receive
  announced := Screen.statsPublisher.announced
  published := by
    intro stats message admits
    cases message with
    | operation operation => exact Screen.statsPublisher.published stats operation admits
    | updateHealth => rfl
    | updateStamina => rfl

/-- What a step of the game is to one widget. -/
def widgetCommands (widget : ℕ) (game : Game K) : GameEvent K → List (Mirror.Command Message)
  | .beginPlay _ => [.start]
  | .nativeConstruct other (some .playerStatsComponent) => if other = widget then [.attach] else []
  | .nativeConstruct _ _ => []
  | .character callback =>
      (game.character.operation? callback).toList.map fun operation =>
        .event (.operation operation)
  | .operation operation => [.event (.operation operation)]
  | .updateHealth => [.event .updateHealth]
  | .updateStamina => [.event .updateStamina]
  | .setupPlayerInputComponent _ | .input _ _ _ _ | .movementUpdate _ | .movementMode _
  | .vaulting _ | .vaultMotionWarp _ | .steering _ | .clearJumpInput => []

/-- The game as one of its widgets sees it. -/
def widgetStage (widget : ℕ) (game : Game K) : Mirror.Stage PlayerStatsComponent RPGHUD where
  source := game.character.playerStats
  shown := game.widgets.huds widget
  started := game.begunPlay
  attached := decide (widget ∈ game.widgets.listeners)

/-- Each widget is a mirror of the stats in the running game. -/
def mirrorOf (widget : ℕ) :
    Refinement (playing trig scales) (Mirror.machine messagePublisher) where
  onState := widgetStage widget
  onStep := widgetCommands widget
  next := by
    intro game event
    have delivered : ∀ messages, (game.widgets.broadcastAll messages).huds widget =
        Mirror.deliver RPGHUD.receive (decide (widget ∈ game.widgets.listeners))
          (game.widgets.huds widget) messages := by
      intro messages
      rw [Widgets.broadcastAll_huds, Mirror.deliver]
      simp only [decide_eq_true_eq]
    cases event with
    | setupPlayerInputComponent | movementUpdate | movementMode | vaulting | vaultMotionWarp
    | steering | clearJumpInput => rfl
    | input action triggerEvent value world =>
        change widgetStage widget (game.input trig scales action triggerEvent value world) =
          widgetStage widget game
        obtain ⟨stats, widgets, begun⟩ :=
          input_silent trig scales game action triggerEvent value world
        simp only [widgetStage, stats, widgets, begun]
    | beginPlay hasLocalPlayer =>
        obtain ⟨crouchTimeline, restoreTime, begun⟩ := beginPlay_frame game.character
        change widgetStage widget (game.beginPlay hasLocalPlayer) = _
        cases hasLocalPlayer <;>
          simp [widgetStage, beginPlay, begun, delivered, widgetCommands, Mirror.machine,
            messagePublisher, Screen.statsPublisher]
    | nativeConstruct other component =>
        rcases component with _ | _ | _
        · rfl
        · by_cases same : other = widget
          · subst same
            simp [playing, widgetStage, widgetCommands, Widgets.nativeConstruct,
              Widgets.mem_addUnique, Mirror.machine]
          · simp [playing, widgetStage, widgetCommands, Widgets.nativeConstruct,
              Widgets.mem_addUnique, same, Ne.symm same]
        · rfl
    | character callback =>
        change widgetStage widget (game.call callback) = _
        have after := game.character.fire_playerStats callback
        cases asked : game.character.operation? callback with
        | none =>
            rw [asked] at after
            simp [widgetStage, call, RPGLearnGameCharacter.broadcasts, widgetCommands, asked,
              after, Widgets.broadcastAll]
        | some operation =>
            rw [asked] at after
            simp [widgetStage, call, RPGLearnGameCharacter.broadcasts, widgetCommands, asked,
              after, delivered, Mirror.machine, messagePublisher, Screen.statsPublisher]
    | operation operation =>
        simp [playing, widgetStage, operate, widgetCommands, delivered, Mirror.machine,
          messagePublisher, Screen.statsPublisher]
    | updateHealth =>
        simp [playing, widgetStage, widgetCommands, delivered, Mirror.machine, messagePublisher]
    | updateStamina =>
        simp [playing, widgetStage, widgetCommands, delivered, Mirror.machine, messagePublisher]

/-- What the timers and damage ask of the stats leaves their maxima as they are. -/
theorem positiveMaxima_operation? {character : RPGLearnGameCharacter} {callback : Callback}
    (fromEngine : FromEngine callback) {operation : Operation}
    (asked : character.operation? callback = some operation)
    (positive : PositiveMaxima character.playerStats) :
    PositiveMaxima (character.playerStats.apply operation).stats := by
  obtain ⟨health, stamina⟩ := positive
  cases callback with
  | drainStamina =>
      rw [RPGLearnGameCharacter.operation?] at asked
      split at asked
      · obtain rfl := Option.some.inj asked
        exact ⟨health, by simpa [PlayerStatsComponent.apply,
          PlayerStatsComponent.decreaseStamina, PlayerStatsComponent.withStamina] using stamina⟩
      · contradiction
  | restoreStamina =>
      obtain rfl := Option.some.inj asked
      exact ⟨health, by simpa [PlayerStatsComponent.apply,
        PlayerStatsComponent.increaseStamina, PlayerStatsComponent.withStamina] using stamina⟩
  | takeDamage damageAmount =>
      obtain rfl := Option.some.inj asked
      exact ⟨by simpa [PlayerStatsComponent.apply, PlayerStatsComponent.decreaseHealth,
        PlayerStatsComponent.withHealth] using health, stamina⟩
  | tick => contradiction
  | startCrouch | stopCrouch | startSprint | stopSprint | movementUpdate | increaseHealth
  | increaseMaxHealth => exact fromEngine.elim

/-- The maxima of the stats stay positive in the running game. -/
theorem positiveMaxima_invariant :
    (playing trig scales).Invariant fun game => PositiveMaxima game.character.playerStats where
  preserved := by
    intro game event positive admits
    cases event with
    | setupPlayerInputComponent | nativeConstruct | movementUpdate | movementMode | vaulting
    | vaultMotionWarp | steering | clearJumpInput | updateHealth | updateStamina => exact positive
    | input action triggerEvent value world =>
        obtain ⟨stats, -, -⟩ := input_silent trig scales game action triggerEvent value world
        change PositiveMaxima
          (game.input trig scales action triggerEvent value world).character.playerStats
        rwa [stats]
    | beginPlay hasLocalPlayer =>
        obtain ⟨crouchTimeline, restoreTime, begun⟩ := beginPlay_frame game.character
        have same : game.character.beginPlay.playerStats = game.character.playerStats := by
          rw [begun]
        cases hasLocalPlayer with
        | false => exact same ▸ positive
        | true => exact same ▸ positive
    | operation operation => exact admits
    | character callback =>
        change PositiveMaxima (game.character.fire callback).playerStats
        rw [RPGLearnGameCharacter.fire_playerStats]
        cases asked : game.character.operation? callback with
        | none => exact positive
        | some operation => exact positiveMaxima_operation? admits.1 asked positive

/-- Once the stats have begun play and the widget listens, its bars are the stats over their
maxima. -/
def ShowsStats (widget : ℕ) (game : Game K) : Prop :=
  game.begunPlay → widget ∈ game.widgets.listeners →
    (game.widgets.huds widget).healthBar =
        game.character.playerStats.currentHealth / game.character.playerStats.maxHealth ∧
      (game.widgets.huds widget).staminaBar =
        game.character.playerStats.currentStamina / game.character.playerStats.maxStamina

/-- A widget that finds the stats component after it has begun play, and does not listen
yet, has its bars where the stats are. -/
def BindsInAgreement (widget : ℕ) (game : Game K) : GameEvent K → Prop
  | .nativeConstruct other (some .playerStatsComponent) =>
      other = widget → game.begunPlay → widget ∉ game.widgets.listeners →
        (game.widgets.huds widget).healthBar =
            game.character.playerStats.currentHealth / game.character.playerStats.maxHealth ∧
          (game.widgets.huds widget).staminaBar =
            game.character.playerStats.currentStamina / game.character.playerStats.maxStamina
  | _ => True

instance (widget : ℕ) (game : Game K) : Decidable (game.ShowsStats widget) :=
  inferInstanceAs (Decidable (_ → _ → _ ∧ _))

instance (widget : ℕ) (game : Game K) :
    (event : GameEvent K) → Decidable (game.BindsInAgreement widget event)
  | .nativeConstruct _ (some .playerStatsComponent) =>
      inferInstanceAs (Decidable (_ → _ → _ → _ ∧ _))
  | .nativeConstruct _ (some .other) | .nativeConstruct _ none | .beginPlay _
  | .setupPlayerInputComponent _ | .input _ _ _ _ | .character _ | .movementUpdate _
  | .movementMode _ | .operation _ | .updateHealth | .updateStamina | .vaulting _
  | .vaultMotionWarp _ | .steering _ | .clearJumpInput => inferInstanceAs (Decidable True)

theorem mirrorOf_single (widget : ℕ) : (mirrorOf trig scales widget).Single := by
  intro game event
  cases event with
  | beginPlay | operation | updateHealth | updateStamina => exact le_rfl
  | setupPlayerInputComponent | input | movementUpdate | movementMode | vaulting | vaultMotionWarp
  | steering | clearJumpInput => exact Nat.zero_le 1
  | nativeConstruct other component =>
      rcases component with _ | _ | _
      · exact Nat.zero_le 1
      · change (if other = widget then [Mirror.Command.attach] else []).length ≤ 1
        split
        · exact le_rfl
        · exact Nat.zero_le 1
      · exact Nat.zero_le 1
  | character callback =>
      change ((game.character.operation? callback).toList.map _).length ≤ 1
      rw [List.length_map]
      exact Option.length_toList_le

omit [Field K] [LinearOrder K] [ToFloat K] in
theorem inSync_iff (widget : ℕ) (game : Game K) :
    Mirror.InSync messagePublisher (widgetStage widget game) ↔ game.ShowsStats widget := by
  refine imp_congr_right fun _ => ?_
  rw [widgetStage, decide_eq_true_eq]
  exact imp_congr_right fun _ => Screen.eq_percentages_iff _ _

omit [Field K] [LinearOrder K] [ToFloat K] in
/-- What the mirror law asks of a step is that the widget binds in agreement. -/
theorem attachesInAgreement_iff (widget : ℕ) (game : Game K) (event : GameEvent K) :
    (Mirror.machine messagePublisher).EachStep (Mirror.AttachesInAgreement messagePublisher)
        (widgetStage widget game) (widgetCommands widget game event) ↔
      game.BindsInAgreement widget event := by
  cases event with
  | beginPlay | operation | updateHealth | updateStamina =>
      exact iff_of_true ⟨trivial, trivial⟩ trivial
  | setupPlayerInputComponent | input | movementUpdate | movementMode | vaulting | vaultMotionWarp
  | steering | clearJumpInput => exact iff_of_true trivial trivial
  | character callback =>
      refine iff_of_true ?_ trivial
      refine eachStep_of_forall (fun command member _ => ?_) _
      obtain ⟨operation, -, rfl⟩ := List.mem_map.mp member
      trivial
  | nativeConstruct other component =>
      rcases component with _ | _ | _
      · exact iff_of_true trivial trivial
      · change (Mirror.machine messagePublisher).EachStep _ _
          (if other = widget then [Mirror.Command.attach] else []) ↔ _
        by_cases same : other = widget
        · rw [if_pos same, eachStep_cons]
          refine (and_iff_left trivial).trans (Iff.trans ?_ (forall_prop_of_true same).symm)
          refine imp_congr_right fun _ => ?_
          rw [widgetStage, decide_eq_true_eq]
          exact imp_congr_right fun _ => Screen.eq_percentages_iff _ _
        · rw [if_neg same]
          exact iff_of_true trivial fun other => absurd other same
      · exact iff_of_true trivial trivial

/-- A short game, from start-up to a healed hit. -/
def followed : List (GameEvent ℚ) :=
  [.nativeConstruct 0 (some .playerStatsComponent), .nativeConstruct 1 (some .other),
    .setupPlayerInputComponent true, .beginPlay true,
    .input .sprintAction .started ⟨1, 0⟩ (Vaulting.course 0 []), .character .drainStamina,
    .character (.takeDamage 25), .operation (.increaseHealth 10), .updateStamina]

/-- In every run of the whole game, whatever the character, its player, its timers, the
engine and Blueprints do, and in whatever order play begins and widgets are constructed,
the bars of a widget agree with the stats in every state after both exactly when the
widget is never bound late with bars that differ from the stats. -/
theorem playing_showsStats_iff (widget : ℕ) (start : Game K)
    (positive : PositiveMaxima start.character.playerStats) (shows : start.ShowsStats widget)
    (events : List (GameEvent K)) (admissible : (playing trig scales).Admissible start events) :
    (playing trig scales).Throughout (ShowsStats widget) start events ↔
      (playing trig scales).EachStep (BindsInAgreement widget) start events := by
  have commands : (Mirror.machine messagePublisher).Admissible (widgetStage widget start)
      ((mirrorOf trig scales widget).trace start events) := by
    refine (mirrorOf trig scales widget).admissible_trace (positiveMaxima_invariant trig scales)
      ?_ positive admissible
    intro game event positive admits
    cases event with
    | beginPlay | updateHealth | updateStamina => exact ⟨trivial, trivial⟩
    | setupPlayerInputComponent | input | movementUpdate | movementMode | vaulting
    | vaultMotionWarp | steering | clearJumpInput => trivial
    | operation operation => exact ⟨admits, trivial⟩
    | character callback =>
        change (Mirror.machine messagePublisher).Admissible _
          ((game.character.operation? callback).toList.map _)
        cases asked : game.character.operation? callback with
        | none => trivial
        | some operation => exact ⟨positiveMaxima_operation? admits.1 asked positive, trivial⟩
    | nativeConstruct other component =>
        rcases component with _ | _ | _
        · trivial
        · change (Mirror.machine messagePublisher).Admissible _
            (if other = widget then [Mirror.Command.attach] else [])
          split
          · exact ⟨trivial, trivial⟩
          · trivial
        · trivial
  have law := (mirrorOf trig scales widget).throughout_iff_of_law
    (mirrorOf_single trig scales widget) (Mirror.inSync_exact messagePublisher) trivial
    ((inSync_iff widget start).mpr shows) commands
  refine Iff.trans ?_ (law.trans ?_)
  · constructor
    · exact fun holds => holds.mono fun game => (inSync_iff widget game).mpr
    · exact fun holds => holds.mono fun game => (inSync_iff widget game).mp
  · exact eachStep_congr (attachesInAgreement_iff widget) start events

/-- A widget that is there before play begins follows a sprint, a hit and a Blueprint's
healing. Another widget that finds no stats component does not matter. -/
theorem playing_showsStats_followed :
    (playing .ahead ⟨1, 1⟩).Throughout (ShowsStats 0)
      (construct {} none (.construct 0 0 0) fun _ => ⟨0, 0⟩) followed :=
  (playing_showsStats_iff .ahead ⟨1, 1⟩ 0 (construct {} none (.construct 0 0 0) fun _ => ⟨0, 0⟩)
    (by decide +kernel) (by decide +kernel) followed (by decide +kernel)).mpr (by decide +kernel)

end Widget

section Vault

/-- What a step of the game is to the vault component and its owner. -/
def ownerCommands (game : Game K) : GameEvent K → List (OwnerEvent K)
  | .input action triggerEvent _ world =>
      if game.Live then
        (game.inputComponent.handlers action triggerEvent).flatMap fun handler =>
          if handler = .vault then [.warping (.vaulting (.vault world))] else []
      else []
  | .vaulting event => [.warping (.vaulting event)]
  | .vaultMotionWarp world => [.warping (.vaultMotionWarp world)]
  | .movementMode movementMode => [.movementMode movementMode]
  | .beginPlay _ | .setupPlayerInputComponent _ | .nativeConstruct _ _ | .character _
  | .movementUpdate _ | .operation _ | .updateHealth | .updateStamina | .steering _
  | .clearJumpInput => []

/-- A bound callback vaults or leaves the vault component and its owner alone. -/
theorem handle_vaulting (value : FVector2D K) (world : World K) (game : Game K)
    (handler : Handler) :
    (handle trig scales value world game handler).vaulting =
      if handler = .vault then game.vaulting.vault world else game.vaulting := by
  cases handler <;> rfl

omit [Field K] [LinearOrder K] [ToFloat K] in
/-- An input calls `Vault` once if it is delivered and bound to it, and otherwise not. -/
theorem ownerCommands_input_eq (game : Game K) (action : InputAction)
    (triggerEvent : ETriggerEvent) (value : FVector2D K) (world : World K) :
    ownerCommands game (.input action triggerEvent value world) =
      if game.Live ∧ .vault ∈ game.inputComponent.handlers action triggerEvent then
        [.warping (.vaulting (.vault world))]
      else [] := by
  by_cases live : game.Live
  · rcases game.inputComponent.handlers_cases action triggerEvent with
      unbound | ⟨handler, alone, -⟩
    · simp [ownerCommands, unbound]
    · simp [ownerCommands, live, alone, eq_comm]
  · simp [ownerCommands, live]

/-- An input vaults exactly when it is a call of `Vault`. -/
theorem ownerCommands_input (game : Game K) (action : InputAction) (triggerEvent : ETriggerEvent)
    (value : FVector2D K) (world : World K) :
    ownerCommands game (.input action triggerEvent value world) = [] ∧
        (game.input trig scales action triggerEvent value world).vaulting = game.vaulting ∨
      ownerCommands game (.input action triggerEvent value world) =
          [.warping (.vaulting (.vault world))] ∧
        (game.input trig scales action triggerEvent value world).vaulting =
          game.vaulting.vault world := by
  rw [ownerCommands_input_eq]
  by_cases live : game.Live
  · rw [input_of_live trig scales live]
    rcases game.inputComponent.handlers_cases action triggerEvent with
      unbound | ⟨handler, alone, -⟩
    · exact .inl ⟨by simp [unbound], by rw [unbound]; rfl⟩
    · have after := handle_vaulting trig scales value world
        { game with held := holding game.held action triggerEvent } handler
      rw [alone, List.foldl_cons, List.foldl_nil, after]
      by_cases vaults : handler = .vault
      · exact .inr ⟨by simp [live, vaults], if_pos vaults⟩
      · exact .inl ⟨by simp [Ne.symm vaults], if_neg vaults⟩
  · exact .inl ⟨by simp [live], by rw [input_of_not_live trig scales live]⟩

/-- The vault component and its owner in the running game. -/
def ownerOf : Refinement (playing trig scales) (Vaulting.moving (K := K)) where
  onState := vaulting
  onStep := ownerCommands
  next := by
    intro game event
    cases event with
    | setupPlayerInputComponent | nativeConstruct | character | movementUpdate | movementMode
    | operation | updateHealth | updateStamina | steering | clearJumpInput | vaulting
    | vaultMotionWarp => rfl
    | beginPlay hasLocalPlayer => cases hasLocalPlayer <;> rfl
    | input action triggerEvent value world =>
        rcases ownerCommands_input trig scales game action triggerEvent value world with
          ⟨nothing, same⟩ | ⟨once, after⟩
        · rw [nothing]
          exact same
        · rw [once]
          exact after

theorem ownerOf_single : (ownerOf trig scales).Single := by
  intro game event
  cases event with
  | setupPlayerInputComponent | nativeConstruct | character | movementUpdate | operation
  | updateHealth | updateStamina | steering | clearJumpInput | beginPlay => exact Nat.zero_le 1
  | vaulting | vaultMotionWarp | movementMode => exact le_rfl
  | input action triggerEvent value world =>
      rcases ownerCommands_input trig scales game action triggerEvent value world with
        ⟨nothing, -⟩ | ⟨once, -⟩
      · exact (congrArg List.length nothing).trans_le (Nat.zero_le 1)
      · exact (congrArg List.length once).le

/-- Every vault and every motion warp that an event of the game calls has a montage that can
start, unless another one keeps playing, and no montage is interrupted. -/
def LetsLand (game : Game K) : GameEvent K → Prop
  | .input action triggerEvent _ world =>
      game.Live → .vault ∈ game.inputComponent.handlers action triggerEvent →
        game.vaulting.PlaysOut (.vault world)
  | .vaulting event => game.vaulting.PlaysOut event
  | .vaultMotionWarp world => game.vaulting.WarpPlaysOut world
  | _ => True

instance (game : Game K) : (event : GameEvent K) → Decidable (game.LetsLand event)
  | .input _ _ _ _ => inferInstanceAs (Decidable (_ → _ → _))
  | .vaulting _ => inferInstanceAs (Decidable (Vaulting.PlaysOut _ _))
  | .vaultMotionWarp _ => inferInstanceAs (Decidable (Vaulting.WarpPlaysOut _ _))
  | .beginPlay _ | .setupPlayerInputComponent _ | .nativeConstruct _ _ | .character _
  | .movementUpdate _ | .movementMode _ | .operation _ | .updateHealth | .updateStamina
  | .steering _ | .clearJumpInput => inferInstanceAs (Decidable True)

theorem letsLand_iff (game : Game K) (event : GameEvent K) :
    Vaulting.moving.EachStep Vaulting.LetsLand game.vaulting (ownerCommands game event) ↔
      game.LetsLand event := by
  cases event with
  | setupPlayerInputComponent | nativeConstruct | character | movementUpdate | operation
  | updateHealth | updateStamina | steering | clearJumpInput | beginPlay =>
      exact iff_of_true trivial trivial
  | movementMode => exact iff_of_true ⟨trivial, trivial⟩ trivial
  | vaulting | vaultMotionWarp => exact and_iff_left trivial
  | input action triggerEvent value world =>
      rw [ownerCommands_input_eq]
      by_cases vaults : game.Live ∧ .vault ∈ game.inputComponent.handlers action triggerEvent
      · rw [if_pos vaults, eachStep_cons]
        exact (and_iff_left trivial).trans
          ⟨fun plays _ _ => plays, fun plays => plays vaults.1 vaults.2⟩
      · rw [if_neg vaults]
        exact iff_of_true trivial fun live bound => absurd ⟨live, bound⟩ vaults

/-- In every run of the whole game the owner collides and does not fly whenever no montage
plays, exactly when every warp that input or a Blueprint starts, while no montage plays, has
a montage that starts, and no montage is interrupted. The movement component may take the
owner through any other mode meanwhile. -/
theorem playing_landed_iff (start : Game K)
    (lands : start.vaulting.owner.movementMode ≠ .flying)
    (collides : start.vaulting.owner.actorEnableCollision = true)
    (idle : start.vaulting.owner.playing = none) (events : List (GameEvent K))
    (admissible : (playing trig scales).Admissible start events) :
    (playing trig scales).Throughout (fun game => game.vaulting.Landed) start events ↔
      (playing trig scales).EachStep LetsLand start events := by
  have commands : Vaulting.moving.Admissible start.vaulting
      ((ownerOf trig scales).trace start events) := by
    have anything : (playing trig scales).Invariant fun _ => True := ⟨fun _ _ => trivial⟩
    refine (ownerOf trig scales).admissible_trace anything ?_ trivial admissible
    intro game event _ admits
    cases event with
    | setupPlayerInputComponent | nativeConstruct | character | movementUpdate | operation
    | updateHealth | updateStamina | steering | clearJumpInput | beginPlay => trivial
    | vaulting | movementMode => exact ⟨admits, trivial⟩
    | vaultMotionWarp => exact ⟨trivial, trivial⟩
    | input action triggerEvent value world =>
        change Vaulting.moving.Admissible game.vaulting
          (ownerCommands game (.input action triggerEvent value world))
        rcases ownerCommands_input trig scales game action triggerEvent value world with
          ⟨nothing, -⟩ | ⟨once, -⟩
        · rw [nothing]
          trivial
        · rw [once]
          exact ⟨trivial, trivial⟩
  have intangible : start.vaulting.Intangible := by
    intro plays
    rw [idle] at plays
    contradiction
  have law := (ownerOf trig scales).throughout_iff_of_law (ownerOf_single trig scales)
    Vaulting.landed_exact intangible (fun _ => ⟨lands, collides⟩) commands
  exact law.trans (eachStep_congr letsLand_iff start events)

/-- A jump, a vault during which the character is killed and which completes, and a motion warp
of a Blueprint's own that finds the landing parked. -/
theorem playing_landed_last_vault :
    (playing .ahead ⟨1, 1⟩).Throughout (fun game => game.vaulting.Landed)
      (construct {} none (.construct 0 0 0 (some ⟨"Vault"⟩)) fun _ => ⟨0, 0⟩)
      [.setupPlayerInputComponent true, .beginPlay true,
        .input .jumpAction .started ⟨1, 0⟩ (Vaulting.course 0 []), .movementMode .falling,
        .clearJumpInput, .movementMode .walking,
        .input .vaultAction .started ⟨1, 0⟩ (Vaulting.course 0 [0]),
        .input .vaultAction .triggered ⟨1, 0⟩ (Vaulting.course 0 [0]),
        .character (.takeDamage 200), .vaulting .montageCompleted,
        .vaultMotionWarp (Vaulting.course 0 [0]),
        .input .vaultAction .triggered ⟨1, 0⟩ (Vaulting.course 500 [0])] :=
  (playing_landed_iff .ahead ⟨1, 1⟩
    (construct {} none (.construct 0 0 0 (some ⟨"Vault"⟩)) fun _ => ⟨0, 0⟩)
    (by decide +kernel) rfl rfl _ (by decide +kernel)).mpr (by decide +kernel)

end Vault

end Game

end RPGLearnGame
