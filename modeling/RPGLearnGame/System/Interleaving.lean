import RPGLearnGame.Character.Death
import RPGLearnGame.Semantics.Unwinding
import RPGLearnGame.System.Parts

/-!
# The subsystems apart

Locomotion, vaulting, steering and jumping share the player's input and nothing else.
Whether input is live depends on start-up and on the health, so events of either kind are
shared by all four; every other event belongs to one subsystem and is not noticed by the
rest. Events of different subsystems can therefore change places: a game is determined by
what each subsystem sees of its events.

The movement mode belongs to vaulting, and the engine looks at it when it decides whether a
movement update leaves the character crouched. That decision comes with the update, so an
update and a change of mode can change places where the engine decides the same after both.
-/

namespace RPGLearnGame

open EventMachine
open PlayerStatsComponent (Operation apply_gauge apply_broadcasts heard)

/-- The parts of the character that input goes to. -/
inductive Subsystem where
  | locomotion
  | vaulting
  | steering
  | jumping
deriving DecidableEq, Repr

/-- The subsystem that an action is meant for. -/
def InputAction.subsystem : InputAction → Subsystem
  | .jumpAction => .jumping
  | .moveAction | .lookAction => .steering
  | .crouchAction | .sprintAction => .locomotion
  | .vaultAction => .vaulting

/-- The subsystem that a bound callback acts on. -/
def Handler.subsystem : Handler → Subsystem
  | .jump | .stopJumping => .jumping
  | .move | .look => .steering
  | .startCrouch | .stopCrouch | .startSprint | .stopSprint => .locomotion
  | .vault => .vaulting

/-- The subsystem that a callback belongs to, if it is not shared. -/
def Callback.subsystem? : Callback → Option Subsystem
  | .takeDamage _ | .increaseHealth _ | .increaseMaxHealth _ => none
  | .startCrouch | .stopCrouch | .startSprint | .stopSprint | .drainStamina | .restoreStamina
  | .movementUpdate | .tick _ => some .locomotion

/-- A callback is shared or belongs to locomotion. -/
theorem Callback.subsystem?_cases (callback : Callback) :
    callback.subsystem? = none ∨ callback.subsystem? = some .locomotion := by
  cases callback <;> first | exact .inl rfl | exact .inr rfl

/-- Stamina belongs to locomotion, and health is shared. -/
def Stat.subsystem? : Stat → Option Subsystem
  | .health => none
  | .stamina => some .locomotion

/-- The subsystem that an event belongs to, if it is not shared. -/
def GameEvent.subsystem? {K : Type*} : GameEvent K → Option Subsystem
  | .beginPlay _ | .setupPlayerInputComponent _ | .nativeConstruct _ _ | .updateHealth => none
  | .input action _ _ _ => some action.subsystem
  | .character callback => callback.subsystem?
  | .operation called => called.stat.subsystem?
  | .movementUpdate _ | .updateStamina => some .locomotion
  | .movementMode _ | .vaulting _ | .vaultMotionWarp _ => some .vaulting
  | .steering _ => some .steering
  | .clearJumpInput => some .jumping

/-- A subsystem sees its own events and the shared ones. -/
def Subsystem.Sees {K : Type*} (subsystem : Subsystem) (event : GameEvent K) : Prop :=
  event.subsystem? = none ∨ event.subsystem? = some subsystem

instance {K : Type*} (subsystem : Subsystem) : DecidablePred (subsystem.Sees (K := K)) :=
  fun _ => inferInstanceAs (Decidable (_ ∨ _))

namespace Widgets

/-- The bars of a stat, on all widgets. -/
def bars (widgets : Widgets) (stat : Stat) : ℕ → ℚ := fun widget => (widgets.huds widget).bar stat

/-- The bars of a stat after some broadcasts. -/
def heardBy (stat : Stat) (listeners : List ℕ) (messages : List Broadcast) (bars : ℕ → ℚ) :
    ℕ → ℚ :=
  fun widget => if widget ∈ listeners then barAfter stat messages (bars widget) else bars widget

theorem bars_broadcastAll (widgets : Widgets) (messages : List Broadcast) (stat : Stat) :
    (widgets.broadcastAll messages).bars stat =
      heardBy stat widgets.listeners messages (widgets.bars stat) :=
  funext fun widget => broadcastAll_bar widgets messages widget stat

/-- Broadcasts about the other stat move no bar. -/
theorem heardBy_of_forall {stat : Stat} {messages : List Broadcast}
    (other : ∀ message ∈ messages, message.stat ≠ stat) (listeners : List ℕ) (bars : ℕ → ℚ) :
    heardBy stat listeners messages bars = bars := by
  funext widget
  rw [heardBy, barAfter_of_forall other, ite_self]

/-- All widgets show their two bars. -/
theorem eq_of_bars {widgets other : Widgets} (listeners : widgets.listeners = other.listeners)
    (same : ∀ stat, widgets.bars stat = other.bars stat) : widgets = other := by
  obtain ⟨huds, listening⟩ := widgets
  obtain ⟨otherHuds, otherListening⟩ := other
  obtain rfl : listening = otherListening := listeners
  have hud : huds = otherHuds := by
    funext widget
    exact RPGHUD.ext (congrFun (same .health) widget) (congrFun (same .stamina) widget)
  rw [hud]

end Widgets

/-- What all subsystems depend on: health and whether input is live. -/
structure Shared where
  health : Gauge ℚ
  inputEnabled : Bool
  simulatesPhysics : Bool
  inputComponent : InputComponent
  mapped : Bool
  begunPlay : Bool
  listeners : List ℕ
  healthBars : ℕ → ℚ

/-- The state of one subsystem. -/
inductive Part (K : Type*) where
  | locomotion (character : RPGLearnGameCharacter) (staminaBars : ℕ → ℚ)
  | vaulting (vaulting : Vaulting K)
  | steering (steering : Steering K)
  | jumping (bPressedJump : Bool)

/-- A subsystem with what it shares and what the player gives it. -/
@[ext]
structure View (K : Type*) where
  shared : Shared
  part : Part K
  held : InputAction → Bool

namespace Shared

/-- A health operation. -/
def operate (shared : Shared) (operation : Operation) : Shared :=
  { shared with
    health := shared.health.enter operation.entry
    healthBars := Widgets.heardBy .health shared.listeners
      (heard .onUpdateHealthBar shared.health operation.entry) shared.healthBars }

/-- `TakeDamage`. -/
def hit (shared : Shared) (damageAmount : ℚ) : Shared :=
  let hurt := shared.operate (.decreaseHealth damageAmount)
  if hurt.health.Empty then { hurt with inputEnabled := false, simulatesPhysics := true } else hurt

end Shared

namespace RPGLearnGameCharacter

variable (character : RPGLearnGameCharacter) {callback : Callback}

/-- Callbacks of locomotion ask for stamina operations only. -/
theorem operation?_stat (locomotes : callback.subsystem? = some .locomotion) :
    ∀ operation, character.operation? callback = some operation → operation.stat = .stamina := by
  intro operation asks
  cases callback with
  | startCrouch | stopCrouch | startSprint | stopSprint | movementUpdate | tick => contradiction
  | drainStamina =>
      rw [operation?] at asks
      split at asks
      · exact Option.some.inj asks ▸ rfl
      · contradiction
  | restoreStamina => exact Option.some.inj asks ▸ rfl
  | takeDamage | increaseHealth | increaseMaxHealth => contradiction

/-- Callbacks of locomotion kill nobody. -/
theorem fire_alive (locomotes : callback.subsystem? = some .locomotion) :
    (character.fire callback).inputEnabled = character.inputEnabled ∧
      (character.fire callback).simulatesPhysics = character.simulatesPhysics := by
  cases callback with
  | startCrouch =>
      rw [fire, startCrouch_eq]
      exact ⟨rfl, rfl⟩
  | stopCrouch =>
      rw [fire, stopCrouch_eq]
      exact ⟨rfl, rfl⟩
  | startSprint =>
      obtain ⟨_, _, pressed⟩ := startSprint_frame character
      rw [fire, pressed]
      exact ⟨rfl, rfl⟩
  | drainStamina =>
      rw [fire, drainStamina]
      split
      · exact ⟨rfl, rfl⟩
      · exact ⟨rfl, rfl⟩
  | tick deltaTime =>
      rw [fire, tick, driveTimeline_eq]
      exact ⟨rfl, rfl⟩
  | stopSprint | restoreStamina | movementUpdate => exact ⟨rfl, rfl⟩
  | takeDamage | increaseHealth | increaseMaxHealth => contradiction

end RPGLearnGameCharacter

namespace Game

variable {K : Type*}

/-- What the subsystems of a game share. -/
def shared (game : Game K) : Shared where
  health := game.character.playerStats.health
  inputEnabled := game.character.inputEnabled
  simulatesPhysics := game.character.simulatesPhysics
  inputComponent := game.inputComponent
  mapped := game.mapped
  begunPlay := game.begunPlay
  listeners := game.widgets.listeners
  healthBars := game.widgets.bars .health

/-- One subsystem of a game. -/
def part (game : Game K) : Subsystem → Part K
  | .locomotion => .locomotion game.character (game.widgets.bars .stamina)
  | .vaulting => .vaulting game.vaulting
  | .steering => .steering game.steering
  | .jumping => .jumping game.bPressedJump

/-- The actions of one subsystem that are held. -/
def heldOf (held : InputAction → Bool) (subsystem : Subsystem) : InputAction → Bool :=
  fun action => decide (action.subsystem = subsystem) && held action

/-- What one subsystem sees of a game. -/
def view (subsystem : Subsystem) (game : Game K) : View K :=
  ⟨game.shared, game.part subsystem, heldOf game.held subsystem⟩

/-- A game is what its subsystems see of it. -/
theorem eq_of_view {game other : Game K}
    (same : ∀ subsystem, game.view subsystem = other.view subsystem) : game = other := by
  have shared : game.shared = other.shared := congrArg View.shared (same .locomotion)
  have locomotion := congrArg View.part (same .locomotion)
  have vaulting := congrArg View.part (same .vaulting)
  have steering := congrArg View.part (same .steering)
  have jumping := congrArg View.part (same .jumping)
  obtain ⟨character, staminaBars⟩ := Part.locomotion.inj locomotion
  have widgets : game.widgets = other.widgets := by
    refine Widgets.eq_of_bars (congrArg Shared.listeners shared) fun stat => ?_
    cases stat with
    | health => exact congrArg Shared.healthBars shared
    | stamina => exact staminaBars
  have held : game.held = other.held := by
    funext action
    have own := congrFun (congrArg View.held (same action.subsystem)) action
    simpa [view, heldOf] using own
  exact Game.ext character (Part.vaulting.inj vaulting) (Part.steering.inj steering)
    (Part.jumping.inj jumping) (congrArg Shared.inputComponent shared)
    (congrArg Shared.mapped shared) (congrArg Shared.begunPlay shared) widgets held

/-- Every bound callback acts on the subsystem of its action. -/
def Wired (game : Game K) : Prop :=
  ∀ binding ∈ game.inputComponent.bindings, binding.handler.subsystem = binding.action.subsystem

instance (game : Game K) : Decidable game.Wired :=
  inferInstanceAs (Decidable (∀ _binding ∈ _, _ = _))

section Shared

/-- An operation broadcasts nothing about the other stat. -/
theorem apply_broadcasts_other {stats : PlayerStatsComponent} {operation : Operation}
    {stat : Stat} (other : ¬ operation.stat = stat) :
    ∀ message ∈ (stats.apply operation).broadcasts, message.stat ≠ stat := by
  intro message member
  rw [apply_broadcasts, heard] at member
  split at member
  · exact absurd member List.not_mem_nil
  · rw [List.mem_singleton.mp member, Stat.delegate_stat]
    exact other

/-- Operations on the health act on what is shared. -/
theorem operate_shared_of_health (game : Game K) {operation : Operation}
    (about : operation.stat = .health) :
    (game.operate operation).shared = game.shared.operate operation := by
  have health := apply_gauge game.character.playerStats operation .health
  rw [if_pos about] at health
  have bars := game.widgets.bars_broadcastAll
    (game.character.playerStats.apply operation).broadcasts .health
  rw [apply_broadcasts, about] at bars
  simp only [shared, operate, Shared.operate, Widgets.broadcastAll_listeners]
  congr 1
  rw [apply_broadcasts, about]
  exact bars

/-- Operations on the stamina leave what is shared alone. -/
theorem operate_shared_of_stamina (game : Game K) {operation : Operation}
    (about : operation.stat = .stamina) : (game.operate operation).shared = game.shared := by
  have elsewhere : ¬ operation.stat = .health := by
    rw [about]
    decide
  have health := apply_gauge game.character.playerStats operation .health
  rw [if_neg elsewhere] at health
  have bars := game.widgets.bars_broadcastAll
    (game.character.playerStats.apply operation).broadcasts .health
  rw [Widgets.heardBy_of_forall (apply_broadcasts_other elsewhere)] at bars
  simp only [shared, operate, Widgets.broadcastAll_listeners, bars]
  congr 1

/-- Damage is a health operation, and death if it empties the health. -/
theorem call_takeDamage_eq (game : Game K) (damageAmount : ℚ) :
    game.call (.takeDamage damageAmount) =
      let hurt := game.operate (.decreaseHealth damageAmount)
      if hurt.character.playerStats.health.Empty then
        { hurt with character := hurt.character.die }
      else hurt := by
  have after : (game.character.playerStats.apply (.decreaseHealth damageAmount)).stats =
      { game.character.playerStats with
        health := game.character.playerStats.health.spend damageAmount } := by
    simp [PlayerStatsComponent.apply, PlayerStatsComponent.decreaseHealth,
      PlayerStatsComponent.withHealth]
  simp only [call, operate, RPGLearnGameCharacter.fire, RPGLearnGameCharacter.takeDamage_eq,
    RPGLearnGameCharacter.broadcasts, RPGLearnGameCharacter.operation?, after]
  split
  · rfl
  · rfl

/-- Damage acts on what is shared. -/
theorem call_takeDamage_shared (game : Game K) (damageAmount : ℚ) :
    (game.call (.takeDamage damageAmount)).shared = game.shared.hit damageAmount := by
  have hurt : (game.operate (.decreaseHealth damageAmount)).shared = _ :=
    operate_shared_of_health game rfl
  have health := congrArg Shared.health hurt
  rw [call_takeDamage_eq, Shared.hit, ← hurt]
  change (if (game.operate (.decreaseHealth damageAmount)).shared.health.Empty then _ else _ :
    Game K).shared = _
  split
  · rfl
  · rfl

/-- Callbacks of locomotion leave what is shared alone. -/
theorem call_shared (game : Game K) {callback : Callback}
    (locomotes : callback.subsystem? = some .locomotion) :
    (game.call callback).shared = game.shared := by
  have asked := game.character.operation?_stat locomotes
  obtain ⟨input, physics⟩ := game.character.fire_alive locomotes
  have stats := game.character.fire_playerStats callback
  have bars := game.widgets.bars_broadcastAll (game.character.broadcasts callback) .health
  cases asks : game.character.operation? callback with
  | none =>
      rw [asks] at stats
      have silent : game.character.broadcasts callback = [] := by
        rw [RPGLearnGameCharacter.broadcasts, asks]
      simp only [shared, call, input, physics, stats, silent]
      rfl
  | some operation =>
      have elsewhere : ¬ operation.stat = .health := by
        rw [asked operation asks]
        decide
      have health := apply_gauge game.character.playerStats operation .health
      rw [if_neg elsewhere] at health
      rw [asks] at stats
      have sent : game.character.broadcasts callback =
          (game.character.playerStats.apply operation).broadcasts := by
        rw [RPGLearnGameCharacter.broadcasts, asks]
      rw [sent, Widgets.heardBy_of_forall (apply_broadcasts_other elsewhere)] at bars
      simp only [shared, call, input, physics, stats, sent, Widgets.broadcastAll_listeners, bars]
      congr 1

/-- What an operation does to what is shared depends on what is shared. -/
theorem operate_shared_congr {first second : Game K} (same : first.shared = second.shared)
    (operation : Operation) :
    (first.operate operation).shared = (second.operate operation).shared := by
  cases about : operation.stat with
  | health =>
      rw [operate_shared_of_health first about, operate_shared_of_health second about, same]
  | stamina =>
      rw [operate_shared_of_stamina first about, operate_shared_of_stamina second about, same]

/-- What a callback does to what is shared depends on what is shared. -/
theorem call_shared_congr {first second : Game K} (same : first.shared = second.shared)
    (callback : Callback) : (first.call callback).shared = (second.call callback).shared := by
  rcases callback.subsystem?_cases with everyones | locomotes
  · cases callback with
    | takeDamage damageAmount => rw [call_takeDamage_shared, call_takeDamage_shared, same]
    | increaseHealth newHealth => exact operate_shared_congr same (.increaseHealth newHealth)
    | increaseMaxHealth newMaxHealth =>
        exact operate_shared_congr same (.increaseMaxHealth newMaxHealth)
    | startCrouch | stopCrouch | startSprint | stopSprint | drainStamina | restoreStamina
    | movementUpdate | tick => contradiction
  · rw [call_shared first locomotes, call_shared second locomotes, same]

/-- Repeating the health percentage acts on what is shared. -/
theorem updateHealth_shared (game : Game K) :
    ({ game with
        widgets := game.widgets.broadcastAll game.character.playerStats.updateHealth } :
          Game K).shared =
      { game.shared with
        healthBars := Widgets.heardBy .health game.shared.listeners
          [.onUpdateHealthBar game.shared.health.percent] game.shared.healthBars } := by
  have bars := game.widgets.bars_broadcastAll game.character.playerStats.updateHealth .health
  simp only [shared, Widgets.broadcastAll_listeners, bars]
  rfl

/-- Repeating the stamina percentage leaves what is shared alone. -/
theorem updateStamina_shared (game : Game K) :
    ({ game with
        widgets := game.widgets.broadcastAll game.character.playerStats.updateStamina } :
          Game K).shared = game.shared := by
  have other : ∀ message ∈ game.character.playerStats.updateStamina, message.stat ≠ .health := by
    intro message member
    rw [List.mem_singleton.mp member]
    exact Stat.noConfusion
  have bars := game.widgets.bars_broadcastAll game.character.playerStats.updateStamina .health
  rw [Widgets.heardBy_of_forall other] at bars
  simp only [shared, Widgets.broadcastAll_listeners, bars]

end Shared

section Part

/-- A change of the character that is told to the widgets. -/
def report (game : Game K) (change : RPGLearnGameCharacter → RPGLearnGameCharacter)
    (messages : RPGLearnGameCharacter → List Broadcast) : Game K :=
  { game with
    character := change game.character
    widgets := game.widgets.broadcastAll (messages game.character) }

/-- An operation changes the stats and tells the widgets. -/
theorem operate_eq (game : Game K) (operation : Operation) :
    game.operate operation = game.report
      (fun character => { character with
        playerStats := (character.playerStats.apply operation).stats })
      fun character => (character.playerStats.apply operation).broadcasts := rfl

/-- What a change of the character does to a subsystem depends on the subsystem and on what
is shared. -/
theorem report_part_congr {first second : Game K} {subsystem : Subsystem}
    (shared : first.shared = second.shared) (part : first.part subsystem = second.part subsystem)
    (change : RPGLearnGameCharacter → RPGLearnGameCharacter)
    (messages : RPGLearnGameCharacter → List Broadcast) :
    (first.report change messages).part subsystem =
      (second.report change messages).part subsystem := by
  cases subsystem with
  | vaulting | steering | jumping => exact part
  | locomotion =>
      obtain ⟨character, staminaBars⟩ := Part.locomotion.inj part
      have listeners : first.widgets.listeners = second.widgets.listeners :=
        congrArg Shared.listeners shared
      simp only [Game.part, report, Widgets.bars_broadcastAll, character, staminaBars, listeners]

/-- A change of the character is locomotion. -/
theorem report_part_of_ne (game : Game K) {subsystem : Subsystem}
    (other : subsystem ≠ .locomotion) (change : RPGLearnGameCharacter → RPGLearnGameCharacter)
    (messages : RPGLearnGameCharacter → List Broadcast) :
    (game.report change messages).part subsystem = game.part subsystem := by
  cases subsystem with
  | locomotion => exact absurd rfl other
  | vaulting | steering | jumping => rfl

/-- `BeginPlay` changes the character, tells the widgets, and sets two flags. -/
theorem beginPlay_eq (game : Game K) (hasLocalPlayer : Bool) :
    game.beginPlay hasLocalPlayer =
      { game.report .beginPlay fun character => character.playerStats.beginPlay.broadcasts with
        mapped := hasLocalPlayer || game.mapped
        begunPlay := true } := by
  cases hasLocalPlayer <;> rfl

/-- `BeginPlay` acts on what is shared. -/
theorem beginPlay_shared (game : Game K) (hasLocalPlayer : Bool) :
    (game.beginPlay hasLocalPlayer).shared =
      { game.shared with
        mapped := hasLocalPlayer || game.shared.mapped
        begunPlay := true
        healthBars := Widgets.heardBy .health game.shared.listeners
          [.onUpdateHealthBar game.shared.health.percent] game.shared.healthBars } := by
  have bars := game.widgets.bars_broadcastAll
    game.character.playerStats.beginPlay.broadcasts .health
  obtain ⟨crouchTimeline, restoreTime, begun⟩ := beginPlay_frame game.character
  rw [beginPlay_eq]
  simp only [shared, report, begun, Widgets.broadcastAll_listeners, bars]
  rfl

/-- What `BeginPlay` does to a subsystem depends on the subsystem and on what is shared. -/
theorem beginPlay_part_congr {first second : Game K} {subsystem : Subsystem}
    (shared : first.shared = second.shared) (part : first.part subsystem = second.part subsystem)
    (hasLocalPlayer : Bool) :
    (first.beginPlay hasLocalPlayer).part subsystem =
      (second.beginPlay hasLocalPlayer).part subsystem := by
  have begun : ∀ game : Game K, (game.beginPlay hasLocalPlayer).part subsystem =
      (game.report .beginPlay fun character =>
        character.playerStats.beginPlay.broadcasts).part subsystem := by
    intro game
    rw [beginPlay_eq]
    cases subsystem <;> rfl
  rw [begun, begun, report_part_congr shared part]

end Part

section Held

variable {held : InputAction → Bool} {action : InputAction} {subsystem : Subsystem}

/-- An action of the subsystem is held there. -/
theorem heldOf_holding (own : action.subsystem = subsystem) (triggerEvent : ETriggerEvent) :
    heldOf (holding held action triggerEvent) subsystem =
      holding (heldOf held subsystem) action triggerEvent := by
  funext other
  cases triggerEvent with
  | none | triggered | ongoing => rfl
  | started | canceled | completed =>
      by_cases same : other = action
      · subst same
        simp [heldOf, holding, own]
      · simp [heldOf, holding, same]

/-- An action of another subsystem is held elsewhere. -/
theorem heldOf_holding_of_ne (other : action.subsystem ≠ subsystem)
    (triggerEvent : ETriggerEvent) :
    heldOf (holding held action triggerEvent) subsystem = heldOf held subsystem := by
  funext another
  cases triggerEvent with
  | none | triggered | ongoing => rfl
  | started | canceled | completed =>
      by_cases same : another = action
      · subst same
        simp [heldOf, other]
      · simp [heldOf, holding, same]

end Held

variable [Field K] [LinearOrder K] [ToFloat K] (trig : SinCos K) (scales : InputScales K)

/-- A bound callback is not noticed by the subsystems it does not act on. -/
theorem view_handle_of_ne (value : FVector2D K) (world : World K) (game : Game K)
    {handler : Handler} {subsystem : Subsystem} (other : handler.subsystem ≠ subsystem) :
    (handle trig scales value world game handler).view subsystem = game.view subsystem := by
  have called : ∀ callback : Callback, callback.subsystem? = some .locomotion →
      subsystem ≠ .locomotion → (game.call callback).view subsystem = game.view subsystem :=
    fun callback locomotes elsewhere => View.ext (call_shared game locomotes)
      (report_part_of_ne game elsewhere (·.fire callback) (·.broadcasts callback)) rfl
  cases handler with
  | startCrouch | stopCrouch | startSprint | stopSprint => exact called _ rfl (Ne.symm other)
  | jump | stopJumping | move | look | vault =>
      cases subsystem with
      | locomotion | vaulting | steering | jumping => first | exact absurd rfl other | rfl

/-- A bound callback treats games alike that look alike to the subsystem it acts on. -/
theorem view_handle_congr (value : FVector2D K) (world : World K) {first second : Game K}
    {handler : Handler} {subsystem : Subsystem} (acts : handler.subsystem = subsystem)
    (same : first.view subsystem = second.view subsystem) :
    (handle trig scales value world first handler).view subsystem =
      (handle trig scales value world second handler).view subsystem := by
  subst acts
  have shared : first.shared = second.shared := congrArg View.shared same
  have part : first.part handler.subsystem = second.part handler.subsystem :=
    congrArg View.part same
  have held : heldOf first.held handler.subsystem = heldOf second.held handler.subsystem :=
    congrArg View.held same
  cases handler with
  | jump | stopJumping => exact View.ext shared rfl held
  | move | look =>
      have steering : first.steering = second.steering := Part.steering.inj part
      refine View.ext shared (congrArg Part.steering ?_) held
      simp only [handle, steering]
  | vault =>
      have vaulting : first.vaulting = second.vaulting := Part.vaulting.inj part
      refine View.ext shared (congrArg Part.vaulting ?_) held
      simp only [handle, vaulting]
  | startCrouch | stopCrouch | startSprint | stopSprint =>
      refine View.ext ?_ (report_part_congr shared part (·.fire _) (·.broadcasts _)) held
      exact (call_shared first rfl).trans (shared.trans (call_shared second rfl).symm)

/-- An input is not noticed by the subsystems that it is not meant for. -/
theorem view_input_of_ne {game : Game K} (wired : game.Wired) {action : InputAction}
    {subsystem : Subsystem} (other : action.subsystem ≠ subsystem) (triggerEvent : ETriggerEvent)
    (value : FVector2D K) (world : World K) :
    (game.input trig scales action triggerEvent value world).view subsystem =
      game.view subsystem := by
  have kept : ({ game with held := holding game.held action triggerEvent } : Game K).view
      subsystem = game.view subsystem :=
    View.ext rfl rfl (heldOf_holding_of_ne other triggerEvent)
  rcases game.input_cases trig scales action triggerEvent value world with
    undelivered | ⟨handler, bound, delivered⟩
  · rw [undelivered]
    exact kept
  · have acts : handler.subsystem = action.subsystem := wired _ bound
    rw [delivered, view_handle_of_ne trig scales value world _ (acts ▸ other)]
    exact kept

/-- An input treats games alike that look alike to the subsystem it is meant for. -/
theorem view_input_congr {first second : Game K} (wired : first.Wired) {action : InputAction}
    {subsystem : Subsystem} (own : action.subsystem = subsystem)
    (same : first.view subsystem = second.view subsystem) (triggerEvent : ETriggerEvent)
    (value : FVector2D K) (world : World K) :
    (first.input trig scales action triggerEvent value world).view subsystem =
      (second.input trig scales action triggerEvent value world).view subsystem := by
  have shared : first.shared = second.shared := congrArg View.shared same
  have part : first.part subsystem = second.part subsystem := congrArg View.part same
  have held : heldOf (holding first.held action triggerEvent) subsystem =
      heldOf (holding second.held action triggerEvent) subsystem := by
    rw [heldOf_holding own, heldOf_holding own]
    exact congrArg (holding · action triggerEvent) (congrArg View.held same)
  have given : ({ first with held := holding first.held action triggerEvent } : Game K).view
      subsystem = ({ second with held := holding second.held action triggerEvent } :
        Game K).view subsystem := View.ext shared part held
  have live : first.Live ↔ second.Live :=
    iff_of_eq (congrArg (fun shared : Shared =>
      shared.mapped = true ∧ shared.inputEnabled = true) shared)
  have handlers : second.inputComponent.handlers action triggerEvent =
      first.inputComponent.handlers action triggerEvent :=
    congrArg (fun shared : Shared => shared.inputComponent.handlers action triggerEvent)
      shared.symm
  by_cases alive : first.Live
  · rw [input_of_live trig scales alive, input_of_live trig scales (live.mp alive), handlers]
    rcases first.inputComponent.handlers_cases action triggerEvent with
      unbound | ⟨handler, alone, bound⟩
    · rw [unbound]
      exact given
    · rw [alone]
      exact view_handle_congr trig scales value world ((wired _ bound).trans own) given
  · rw [input_of_not_live trig scales alive, input_of_not_live trig scales (mt live.mpr alive)]
    exact given

/-- The bindings stay with the subsystems of their actions. -/
theorem wired_next {game : Game K} (wired : game.Wired) (event : GameEvent K) :
    ((playing trig scales).next game event).Wired := by
  cases event with
  | setupPlayerInputComponent isEnhancedInputComponent =>
      change ∀ binding ∈ (InputComponent.setupPlayerInputComponent
        isEnhancedInputComponent).bindings, _
      cases isEnhancedInputComponent <;> decide
  | nativeConstruct | character | movementUpdate | movementMode | operation | updateHealth
  | updateStamina | vaulting | vaultMotionWarp | steering | clearJumpInput => exact wired
  | beginPlay hasLocalPlayer => cases hasLocalPlayer <;> exact wired
  | input action triggerEvent value world =>
      change (game.input trig scales action triggerEvent value world).Wired
      rcases game.input_cases trig scales action triggerEvent value world with
        undelivered | ⟨handler, -, delivered⟩
      · rw [undelivered]
        exact wired
      · rw [delivered]
        cases handler <;> exact wired

/-- A subsystem depends on its own events and the shared ones only. -/
theorem subsystem_unwinding (subsystem : Subsystem) :
    (playing trig scales).Unwinding Wired (view subsystem) subsystem.Sees where
  supported := wired_next trig scales
  silent := by
    intro game event wired unseen
    have own : ∀ other, event.subsystem? = some other → other ≠ subsystem :=
      fun other belongs same => unseen (.inr (same ▸ belongs))
    have notShared : event.subsystem? ≠ none := fun shared => unseen (.inl shared)
    cases event with
    | beginPlay | setupPlayerInputComponent | nativeConstruct | updateHealth =>
        exact absurd rfl notShared
    | input action triggerEvent value world =>
        exact view_input_of_ne trig scales wired (own _ rfl) triggerEvent value world
    | character callback =>
        rcases callback.subsystem?_cases with shared | locomotes
        · exact absurd shared notShared
        · exact View.ext (call_shared game locomotes)
            (report_part_of_ne game (Ne.symm (own _ locomotes)) (·.fire callback)
              (·.broadcasts callback)) rfl
    | operation operation =>
        cases about : operation.stat with
        | health => exact absurd (congrArg Stat.subsystem? about) notShared
        | stamina =>
            have elsewhere := own _ (congrArg Stat.subsystem? about)
            have still : (game.operate operation).part subsystem = game.part subsystem := by
              rw [operate_eq, report_part_of_ne game (Ne.symm elsewhere)]
            exact View.ext (operate_shared_of_stamina game about) still rfl
    | updateStamina =>
        exact View.ext (updateStamina_shared game)
          (report_part_of_ne game (Ne.symm (own _ rfl)) id (·.playerStats.updateStamina)) rfl
    | movementUpdate bIsCrouched =>
        cases subsystem with
        | locomotion => exact absurd rfl (own _ rfl)
        | vaulting | steering | jumping => rfl
    | movementMode | vaulting | vaultMotionWarp =>
        cases subsystem with
        | vaulting => exact absurd rfl (own _ rfl)
        | locomotion | steering | jumping => rfl
    | steering event =>
        cases subsystem with
        | steering => exact absurd rfl (own _ rfl)
        | locomotion | vaulting | jumping => rfl
    | clearJumpInput =>
        cases subsystem with
        | jumping => exact absurd rfl (own _ rfl)
        | locomotion | vaulting | steering => rfl
  determined := by
    intro first second event wired _ same seen
    have shared : first.shared = second.shared := congrArg View.shared same
    have part : first.part subsystem = second.part subsystem := congrArg View.part same
    have held : heldOf first.held subsystem = heldOf second.held subsystem :=
      congrArg View.held same
    cases event with
    | beginPlay hasLocalPlayer =>
        refine View.ext ?_ (beginPlay_part_congr shared part hasLocalPlayer) ?_
        · change (first.beginPlay hasLocalPlayer).shared = (second.beginPlay hasLocalPlayer).shared
          rw [beginPlay_shared, beginPlay_shared, shared]
        · cases hasLocalPlayer <;> exact held
    | setupPlayerInputComponent isEnhancedInputComponent =>
        refine View.ext ?_ ?_ held
        · exact congrArg (fun shared : Shared =>
            { shared with
              inputComponent := .setupPlayerInputComponent isEnhancedInputComponent }) shared
        · cases subsystem <;> exact part
    | nativeConstruct widget component =>
        rcases component with _ | _ | _
        · exact same
        · refine View.ext ?_ ?_ held
          · exact congrArg (fun shared : Shared =>
              { shared with listeners := Widgets.addUnique shared.listeners widget }) shared
          · cases subsystem <;> exact part
        · exact same
    | updateHealth =>
        refine View.ext ?_ (report_part_congr shared part id (·.playerStats.updateHealth)) held
        exact (updateHealth_shared first).trans (shared ▸ (updateHealth_shared second).symm)
    | input action triggerEvent value world =>
        have own : action.subsystem = subsystem := by
          simpa [Subsystem.Sees, GameEvent.subsystem?] using seen
        exact view_input_congr trig scales wired own same triggerEvent value world
    | character callback =>
        exact View.ext (call_shared_congr shared callback)
          (report_part_congr shared part (·.fire callback) (·.broadcasts callback)) held
    | operation operation =>
        have moved : (first.operate operation).part subsystem =
            (second.operate operation).part subsystem := by
          rw [operate_eq, operate_eq, report_part_congr shared part]
        exact View.ext (operate_shared_congr shared operation) moved held
    | updateStamina =>
        refine View.ext ?_ (report_part_congr shared part id (·.playerStats.updateStamina)) held
        exact (updateStamina_shared first).trans (shared.trans (updateStamina_shared second).symm)
    | movementUpdate bIsCrouched =>
        obtain rfl : Subsystem.locomotion = subsystem := by
          simpa [Subsystem.Sees, GameEvent.subsystem?] using seen
        obtain ⟨character, staminaBars⟩ := Part.locomotion.inj part
        refine View.ext shared ?_ held
        exact congrArg₂ Part.locomotion (congrArg (fun character : RPGLearnGameCharacter =>
          { character with bIsCrouched }) character) staminaBars
    | movementMode | vaulting | vaultMotionWarp =>
        obtain rfl : Subsystem.vaulting = subsystem := by
          simpa [Subsystem.Sees, GameEvent.subsystem?] using seen
        have vaulting : first.vaulting = second.vaulting := Part.vaulting.inj part
        refine View.ext shared (congrArg Part.vaulting ?_) held
        simp only [playing, vaulting]
    | steering event =>
        obtain rfl : Subsystem.steering = subsystem := by
          simpa [Subsystem.Sees, GameEvent.subsystem?] using seen
        have steering : first.steering = second.steering := Part.steering.inj part
        exact View.ext shared (congrArg (fun steering =>
          Part.steering ((Steering.steering trig scales).next steering event)) steering) held
    | clearJumpInput =>
        obtain rfl : Subsystem.jumping = subsystem := by
          simpa [Subsystem.Sees, GameEvent.subsystem?] using seen
        exact View.ext shared rfl held

/-- Events of different subsystems commute in the running game. Lists that have the same
shared events, and the same events of each subsystem in between, lead to the same game,
however the subsystems are interleaved: whatever the player does with one of them, by
input, by timers or by Blueprint, the others cannot tell, and health and the start-up of
input are all that ties them together. A movement update is the same event when it ends in
the same crouch. -/
theorem playing_interleaving (game : Game K) (wired : game.Wired)
    (events others : List (GameEvent K))
    (same : ∀ subsystem : Subsystem, (events.filter fun event => subsystem.Sees event) =
      others.filter fun event => subsystem.Sees event) :
    (playing trig scales).run game events = (playing trig scales).run game others :=
  eq_of_view fun subsystem =>
    (subsystem_unwinding trig scales subsystem).run_eq wired wired rfl (same subsystem)

/-- A crouch, a sprint, a look and a vault before a hit, and the same in another order. The
vault may come before the update that stands the character up, and is still a run there. -/
theorem playing_interleaving_before_hit :
    let start := construct {} none (.construct 0 0 0) fun _ => ⟨0, 0⟩
    let crouch : List (GameEvent ℚ) :=
      [.setupPlayerInputComponent true, .beginPlay true,
        .input .crouchAction .started ⟨1, 0⟩ (Vaulting.course 0 []), .movementUpdate true,
        .input .crouchAction .completed ⟨0, 0⟩ (Vaulting.course 0 [])]
    let sprint : List (GameEvent ℚ) :=
      [.movementUpdate false, .input .sprintAction .started ⟨1, 0⟩ (Vaulting.course 0 []),
        .character .drainStamina]
    let look : List (GameEvent ℚ) :=
      [.input .lookAction .started ⟨0, 1⟩ (Vaulting.course 0 []),
        .input .lookAction .triggered ⟨0, 1⟩ (Vaulting.course 0 [])]
    let vault : List (GameEvent ℚ) :=
      [.input .vaultAction .started ⟨1, 0⟩ (Vaulting.course 0 [0]),
        .input .vaultAction .triggered ⟨1, 0⟩ (Vaulting.course 0 [0])]
    let hit : GameEvent ℚ := .character (.takeDamage 30)
    (playing .ahead ⟨1, 1⟩).Admissible start (crouch ++ sprint ++ look ++ vault ++ [hit]) ∧
      (playing .ahead ⟨1, 1⟩).Admissible start (crouch ++ vault ++ sprint ++ look ++ [hit]) ∧
      (playing .ahead ⟨1, 1⟩).run start (crouch ++ sprint ++ look ++ vault ++ [hit]) =
        (playing .ahead ⟨1, 1⟩).run start (crouch ++ vault ++ sprint ++ look ++ [hit]) := by
  intro start crouch sprint look vault hit
  refine ⟨by decide +kernel, by decide +kernel, ?_⟩
  refine playing_interleaving .ahead ⟨1, 1⟩ start (by decide +kernel) _ _ fun subsystem => ?_
  cases subsystem <;> rfl

end Game

end RPGLearnGame
