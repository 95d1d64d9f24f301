import RPGLearnGame.Stats.Ledger
import RPGLearnGame.UI.RPGHUD

/-!
# What a bound widget hears

A bar moves when a broadcast about its stat arrives and at no other time. A broadcast
carries the percentage that the stat then has, and a stat that is not broadcast has not
changed. So a bar of a bound widget is right from the first broadcast about its stat on,
and until then exactly as long as it happened to be right when the widget was bound.
-/

namespace RPGLearnGame

open EventMachine
open PlayerStatsComponent (Unheard apply_gauge apply_broadcasts enter_of_unheard heard)

/-- The percent of the bar of a stat. -/
def RPGHUD.bar (hud : RPGHUD) : Stat → ℚ
  | .health => hud.healthBar
  | .stamina => hud.staminaBar

/-- A broadcast moves the bar of its stat only. -/
theorem RPGHUD.receive_bar (hud : RPGHUD) (broadcast : Broadcast) (stat : Stat) :
    (hud.receive broadcast).bar stat =
      if broadcast.stat = stat then broadcast.percentage else hud.bar stat := by
  cases broadcast <;> cases stat <;> rfl

@[simp] theorem Stat.delegate_percentage (stat : Stat) (percentage : ℚ) :
    (stat.delegate percentage).percentage = percentage := by
  cases stat <;> rfl

namespace Screen

/-- The bar of a stat shows its percentage. -/
def Shows (stat : Stat) (screen : Screen) : Prop :=
  screen.hud.bar stat = (screen.stats.gauge stat).percent

/-- Nothing is broadcast about a stat: neither `BeginPlay` nor an operation on the stat
happens, unless it is a decrease that finds the stat empty. -/
def SilentAbout (stat : Stat) (screen : Screen) : Event → Prop
  | .beginPlay => False
  | .nativeConstruct => True
  | .operation operation =>
      operation.stat = stat → Unheard (screen.stats.gauge stat) operation.entry

instance (stat : Stat) (screen : Screen) : Decidable (screen.Shows stat) :=
  inferInstanceAs (Decidable (_ = _))

instance (stat : Stat) (screen : Screen) :
    (event : Event) → Decidable (screen.SilentAbout stat event)
  | .beginPlay => inferInstanceAs (Decidable False)
  | .nativeConstruct => inferInstanceAs (Decidable True)
  | .operation _ => inferInstanceAs (Decidable (_ → _))

/-- Nothing unbinds a widget. -/
theorem bound_invariant : screenMachine.Invariant fun screen => screen.bound = true where
  preserved := by
    intro screen event bound _
    cases event with
    | beginPlay => exact bound
    | nativeConstruct => rfl
    | operation operation => exact bound

/-- What a bound widget shows of a stat after an operation. -/
theorem accept_bar {screen : Screen} (bound : screen.bound = true)
    (operation : PlayerStatsComponent.Operation) (stat : Stat) :
    (screen.accept (screen.stats.apply operation)).hud.bar stat =
      if operation.stat = stat ∧ ¬ Unheard (screen.stats.gauge stat) operation.entry then
        ((screen.stats.gauge stat).enter operation.entry).percent
      else screen.hud.bar stat := by
  simp only [accept, bound, if_true, apply_broadcasts, heard]
  by_cases about : operation.stat = stat
  · subst about
    by_cases unheard : Unheard (screen.stats.gauge operation.stat) operation.entry
    · simp [unheard]
    · simp [unheard, RPGHUD.receive_bar]
  · split <;> simp [RPGHUD.receive_bar, about]

/-- A bound bar shows its stat after an event exactly when the event broadcasts something
about the stat or the bar showed it before. -/
theorem shows_next_iff {screen : Screen} (bound : screen.bound = true) (stat : Stat)
    (event : Event) :
    (screenMachine.next screen event).Shows stat ↔
      (screen.SilentAbout stat event → screen.Shows stat) := by
  cases event with
  | nativeConstruct => exact ⟨fun shows _ => shows, fun shows => shows trivial⟩
  | beginPlay =>
      refine iff_of_true ?_ fun silent => silent.elim
      change (screen.accept screen.stats.beginPlay).hud.bar stat = _
      simp only [accept, bound, if_true]
      cases stat <;> rfl
  | operation operation =>
      change (screen.accept (screen.stats.apply operation)).hud.bar stat =
        ((screen.stats.apply operation).stats.gauge stat).percent ↔ _
      rw [accept_bar bound, apply_gauge]
      by_cases about : operation.stat = stat
      · by_cases unheard : Unheard (screen.stats.gauge stat) operation.entry
        · simp [SilentAbout, Shows, about, unheard, enter_of_unheard unheard]
        · simp [SilentAbout, about, unheard]
      · simp [SilentAbout, Shows, about]

/-- However late a widget was bound and whatever its bars showed then, after any further
run the bar of each stat is right exactly when something was broadcast about the stat in
that run or the bar had been right from the start. -/
theorem screen_shows_iff (stat : Stat) (screen : Screen) (bound : screen.bound = true)
    (events : List Event) (admissible : screenMachine.Admissible screen events) :
    (screenMachine.run screen events).Shows stat ↔
      (screenMachine.EachStep (SilentAbout stat) screen events → screen.Shows stat) :=
  bound_invariant.run_iff_of_refreshed (fun bound _ => shows_next_iff bound stat _) bound
    admissible

/-- A stale widget learns the health from the first hit. -/
theorem screen_shows_after_hit :
    (screenMachine.run { stats := {}, hud := ⟨0, 0⟩, begunPlay := true, bound := true }
      [.operation (.decreaseHealth 10), .operation (.decreaseHealth 20)]).Shows .health :=
  (screen_shows_iff .health { stats := {}, hud := ⟨0, 0⟩, begunPlay := true, bound := true } rfl _
    (by decide +kernel)).mpr fun silent => absurd silent.1 (by decide +kernel)

end Screen

end RPGLearnGame
