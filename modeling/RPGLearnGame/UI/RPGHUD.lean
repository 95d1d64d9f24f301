import RPGLearnGame.Semantics.Mirror
import RPGLearnGame.Semantics.Simulation
import RPGLearnGame.Stats.Range

/-!
# The HUD and the stats it shows

`RPGHUD` is a widget with two progress bars. `nativeConstruct` binds it to the
two delegates of the owning pawn's stats component and does nothing else; the
bars move only when a broadcast reaches a bound widget. The component broadcasts
both percentages in `beginPlay` and again whenever an operation changes a stat.

The component is a publisher in the sense of `Mirror`, so the HUD is a mirror of
it and `screen_showsStats_iff` is the mirror law read back: the bars agree with
the stats once both sides are set up exactly when no widget is bound after
`beginPlay` with bars that show something else.
-/

namespace RPGLearnGame

open PlayerStatsComponent (Operation Result GaugeResult PositiveMaxima)

/-- `URPGHUD`: the percent of each of its two bars. -/
@[ext]
structure RPGHUD where
  healthBar : ℚ
  staminaBar : ℚ
deriving DecidableEq, Repr

namespace RPGHUD

def onUpdateHealthBar (hud : RPGHUD) (healthPercentage : ℚ) : RPGHUD :=
  { hud with healthBar := healthPercentage }

def onUpdateStaminaBar (hud : RPGHUD) (staminaPercentage : ℚ) : RPGHUD :=
  { hud with staminaBar := staminaPercentage }

/-- The handler bound to each delegate. -/
def receive (hud : RPGHUD) : Broadcast → RPGHUD
  | .onUpdateHealthBar healthPercentage => hud.onUpdateHealthBar healthPercentage
  | .onUpdateStaminaBar staminaPercentage => hud.onUpdateStaminaBar staminaPercentage

end RPGHUD

/-- A stats component and the HUD of its owner. `bound` says that the HUD is in
the invocation lists of both delegates, `begunPlay` that `BeginPlay` has run. -/
structure Screen where
  stats : PlayerStatsComponent
  hud : RPGHUD
  begunPlay : Bool := false
  bound : Bool := false
deriving DecidableEq, Repr

namespace Screen

/-- Store what a component function leaves behind and deliver its broadcasts to
the listeners bound at that moment. -/
def accept (screen : Screen) (result : Result) : Screen :=
  { screen with
    stats := result.stats
    hud := if screen.bound then result.broadcasts.foldl RPGHUD.receive screen.hud else screen.hud }

/-- `UPlayerStatsComponent::BeginPlay`. -/
def beginPlay (screen : Screen) : Screen :=
  { screen.accept screen.stats.beginPlay with begunPlay := true }

/-- `URPGHUD::NativeConstruct` with the owning pawn's component found:
`AddUniqueDynamic` on both delegates, so a second call adds nothing. -/
def nativeConstruct (screen : Screen) : Screen := { screen with bound := true }

/-- What can happen to the two of them. -/
inductive Event where
  | beginPlay
  | nativeConstruct
  | operation (operation : Operation)
deriving DecidableEq, Repr

/-- Start-up in any order, mixed with operations that keep the maxima positive. -/
def screenMachine : EventMachine Screen Event where
  Admits
    | screen, .operation operation => PositiveMaxima (screen.stats.apply operation).stats
    | _, _ => True
  next
    | screen, .beginPlay => screen.beginPlay
    | screen, .nativeConstruct => screen.nativeConstruct
    | screen, .operation operation => screen.accept (screen.stats.apply operation)

instance (screen : Screen) : (event : Event) → Decidable (screenMachine.Admits screen event)
  | .operation operation =>
      inferInstanceAs (Decidable (PositiveMaxima (screen.stats.apply operation).stats))
  | .beginPlay | .nativeConstruct => inferInstanceAs (Decidable True)

/-- Once both sides are set up, each bar's percent is the stat over its maximum. -/
def ShowsStats (screen : Screen) : Prop :=
  screen.begunPlay → screen.bound →
    screen.hud.healthBar = screen.stats.currentHealth / screen.stats.maxHealth ∧
      screen.hud.staminaBar = screen.stats.currentStamina / screen.stats.maxStamina

instance (screen : Screen) : Decidable screen.ShowsStats :=
  inferInstanceAs (Decidable (_ → _ → _ ∧ _))

/-- A first `NativeConstruct` that comes after `BeginPlay` finds the bars at the
current percentages. -/
def BindsInAgreement (screen : Screen) : Event → Prop
  | .nativeConstruct =>
      screen.begunPlay → ¬ screen.bound →
        screen.hud.healthBar = screen.stats.currentHealth / screen.stats.maxHealth ∧
          screen.hud.staminaBar = screen.stats.currentStamina / screen.stats.maxStamina
  | _ => True

instance (screen : Screen) : (event : Event) → Decidable (screen.BindsInAgreement event)
  | .nativeConstruct => inferInstanceAs (Decidable (_ → _ → _ ∧ _))
  | .beginPlay | .operation _ => inferInstanceAs (Decidable True)

/-- What the bars should show. -/
def percentages (stats : PlayerStatsComponent) : RPGHUD :=
  ⟨stats.health.percent, stats.stamina.percent⟩

theorem eq_percentages_iff (hud : RPGHUD) (stats : PlayerStatsComponent) :
    hud = percentages stats ↔
      hud.healthBar = stats.currentHealth / stats.maxHealth ∧
        hud.staminaBar = stats.currentStamina / stats.maxStamina :=
  RPGHUD.ext_iff

/-- A reported health result carries the bars to the new percentages. -/
theorem receive_withHealth {stats : PlayerStatsComponent} {result : GaugeResult}
    (reports : result.Reports .onUpdateHealthBar stats.health) :
    (stats.withHealth result).broadcasts.foldl RPGHUD.receive (percentages stats) =
      percentages (stats.withHealth result).stats := by
  rcases reports with ⟨unchanged, silent⟩ | sent
  · simp [PlayerStatsComponent.withHealth, unchanged, silent]
  · simp [PlayerStatsComponent.withHealth, sent, percentages, RPGHUD.receive,
      RPGHUD.onUpdateHealthBar]

/-- A reported stamina result carries the bars to the new percentages. -/
theorem receive_withStamina {stats : PlayerStatsComponent} {result : GaugeResult}
    (reports : result.Reports .onUpdateStaminaBar stats.stamina) :
    (stats.withStamina result).broadcasts.foldl RPGHUD.receive (percentages stats) =
      percentages (stats.withStamina result).stats := by
  rcases reports with ⟨unchanged, silent⟩ | sent
  · simp [PlayerStatsComponent.withStamina, unchanged, silent]
  · simp [PlayerStatsComponent.withStamina, sent, percentages, RPGHUD.receive,
      RPGHUD.onUpdateStaminaBar]

/-- The stats component publishes its percentages: `BeginPlay` announces both and
every operation broadcasts what it changes. -/
def statsPublisher : Mirror.Publisher PlayerStatsComponent Operation RPGHUD Broadcast where
  Admits stats operation := PositiveMaxima (stats.apply operation).stats
  next stats operation := (stats.apply operation).stats
  view := percentages
  announce stats := stats.beginPlay.broadcasts
  publish stats operation := (stats.apply operation).broadcasts
  receive := RPGHUD.receive
  announced _ _ := rfl
  published := by
    intro stats operation _
    cases operation with
    | decreaseHealth damage =>
        exact receive_withHealth (PlayerStatsComponent.decrease_reports ..)
    | increaseMaxHealth newMaxHealth =>
        exact receive_withHealth (PlayerStatsComponent.increaseMax_reports ..)
    | increaseHealth newHealth =>
        exact receive_withHealth (PlayerStatsComponent.increase_reports ..)
    | decreaseStamina staminaCost =>
        exact receive_withStamina (PlayerStatsComponent.decrease_reports ..)
    | increaseMaxStamina newMaxStamina =>
        exact receive_withStamina (PlayerStatsComponent.increaseMax_reports ..)
    | increaseStamina newStamina =>
        exact receive_withStamina (PlayerStatsComponent.increase_reports ..)

/-- The HUD is a mirror of the component: `BeginPlay` starts the source and
`NativeConstruct` attaches the mirror. -/
def mirrorSimulation :
    EventMachine.Simulation screenMachine (Mirror.machine statsPublisher) where
  onState screen := ⟨screen.stats, screen.hud, screen.begunPlay, screen.bound⟩
  onEvent
    | .beginPlay => .start
    | .nativeConstruct => .attach
    | .operation operation => .event operation
  admits := by
    intro screen event admits
    cases event with
    | beginPlay => trivial
    | nativeConstruct => trivial
    | operation operation => exact admits
  next := by
    intro screen event
    cases event <;> rfl

theorem inSync_iff (screen : Screen) :
    Mirror.InSync statsPublisher (mirrorSimulation.onState screen) ↔ screen.ShowsStats :=
  imp_congr_right fun _ => imp_congr_right fun _ => eq_percentages_iff _ _

theorem attachesInAgreement_iff (screen : Screen) (event : Event) :
    Mirror.AttachesInAgreement statsPublisher (mirrorSimulation.onState screen)
        (mirrorSimulation.onEvent event) ↔ screen.BindsInAgreement event := by
  cases event with
  | beginPlay => exact Iff.rfl
  | nativeConstruct => exact imp_congr_right fun _ => imp_congr_right fun _ => eq_percentages_iff _ _
  | operation operation => exact Iff.rfl

/-- Whatever the start-up order, the stats and the initial bars, the bars show
the stats in every state after both start-ups exactly when no widget is bound
late with bars that differ from the stats. -/
theorem screen_showsStats_iff (stats : PlayerStatsComponent) (hud : RPGHUD) (events : List Event)
    (admissible : screenMachine.Admissible { stats, hud } events) :
    screenMachine.Throughout ShowsStats { stats, hud } events ↔
      screenMachine.EachStep BindsInAgreement { stats, hud } events := by
  have law := (Mirror.inSync_exact statsPublisher).throughout_iff_of_simulation mirrorSimulation
    trivial (by simp [Mirror.InSync, mirrorSimulation]) admissible
  simpa only [inSync_iff, attachesInAgreement_iff] using law

/-- A widget constructed before `BeginPlay` follows the stats from then on. -/
theorem screen_showsStats_early_widget :
    screenMachine.Throughout ShowsStats { stats := {}, hud := ⟨0, 0⟩ }
      [.nativeConstruct, .beginPlay, .operation (.decreaseHealth 25), .nativeConstruct] :=
  (screen_showsStats_iff {} ⟨0, 0⟩ _ (by decide +kernel)).mpr (by decide +kernel)

/-- A widget constructed after `BeginPlay` keeps its initial empty bars while the
component is at full health and stamina. -/
theorem screen_late_widget_is_stale :
    screenMachine.Admissible { stats := {}, hud := ⟨0, 0⟩ } [.beginPlay, .nativeConstruct] ∧
      screenMachine.run { stats := {}, hud := ⟨0, 0⟩ } [.beginPlay, .nativeConstruct] =
        { stats := {}, hud := ⟨0, 0⟩, begunPlay := true, bound := true } ∧
      ¬ screenMachine.Throughout ShowsStats { stats := {}, hud := ⟨0, 0⟩ }
        [.beginPlay, .nativeConstruct] :=
  ⟨⟨trivial, trivial, trivial⟩, rfl, by decide +kernel⟩

end Screen

end RPGLearnGame
