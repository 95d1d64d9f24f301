import Mathlib.Logic.Function.Basic
import RPGLearnGame.UI.Listening

/-!
# The widgets of a stats component

A component broadcasts to every widget in the invocation lists of its two delegates.
`NativeConstruct` puts a widget there once it has found the component on the owning pawn.
A handler sets a bar to what it is told, so being called twice with one broadcast is the
same as being called once, and what a widget shows does not depend on the others.
-/

namespace RPGLearnGame

/-- What `GetComponentByClass` may return: a stats component, or one that the cast to it
fails for. -/
inductive ActorComponent where
  | playerStatsComponent
  | other
deriving DecidableEq, Repr

/-- All widgets, and those that are in the invocation lists of both delegates. -/
structure Widgets where
  huds : ℕ → RPGHUD
  listeners : List ℕ := []

namespace Widgets

/-- `AddUniqueDynamic`. -/
def addUnique (listeners : List ℕ) (widget : ℕ) : List ℕ :=
  if widget ∈ listeners then listeners else listeners ++ [widget]

/-- `URPGHUD::NativeConstruct`, with the component found for `PlayerStatsComponentClass`. -/
def nativeConstruct (widgets : Widgets) (widget : ℕ) (component : Option ActorComponent) :
    Widgets :=
  match component with
  | some .playerStatsComponent =>
      { widgets with listeners := addUnique widgets.listeners widget }
  | some .other => widgets
  | none => widgets

/-- `Broadcast` calls the handler of every listener. -/
def broadcast (widgets : Widgets) (message : Broadcast) : Widgets :=
  { widgets with
    huds := widgets.listeners.foldl
      (fun huds widget => Function.update huds widget ((huds widget).receive message))
      widgets.huds }

/-- Several broadcasts in order. -/
def broadcastAll (widgets : Widgets) (messages : List Broadcast) : Widgets :=
  messages.foldl broadcast widgets

theorem mem_addUnique {listeners : List ℕ} {widget other : ℕ} :
    other ∈ addUnique listeners widget ↔ other ∈ listeners ∨ other = widget := by
  unfold addUnique
  split
  · rename_i member
    refine ⟨Or.inl, ?_⟩
    rintro (already | rfl)
    · exact already
    · exact member
  · simp

/-- A handler called again with the same broadcast changes nothing. -/
theorem receive_receive (hud : RPGHUD) (message : Broadcast) :
    (hud.receive message).receive message = hud.receive message := by
  cases message <;> rfl

/-- A broadcast reaches the listeners and nobody else. -/
theorem broadcast_huds (widgets : Widgets) (message : Broadcast) (widget : ℕ) :
    (widgets.broadcast message).huds widget =
      if widget ∈ widgets.listeners then (widgets.huds widget).receive message
      else widgets.huds widget := by
  obtain ⟨huds, listeners⟩ := widgets
  simp only [broadcast]
  induction listeners generalizing huds with
  | nil => simp
  | cons first rest inductionHypothesis =>
      rw [List.foldl_cons, inductionHypothesis]
      by_cases here : widget = first
      · subst here
        simp [receive_receive]
      · simp [here]

@[simp] theorem broadcastAll_listeners (widgets : Widgets) (messages : List Broadcast) :
    (widgets.broadcastAll messages).listeners = widgets.listeners := by
  induction messages generalizing widgets with
  | nil => rfl
  | cons message rest inductionHypothesis => exact inductionHypothesis _

/-- Several broadcasts reach every listener in order. -/
theorem broadcastAll_huds (widgets : Widgets) (messages : List Broadcast) (widget : ℕ) :
    (widgets.broadcastAll messages).huds widget =
      if widget ∈ widgets.listeners then messages.foldl RPGHUD.receive (widgets.huds widget)
      else widgets.huds widget := by
  induction messages generalizing widgets with
  | nil => simp [broadcastAll]
  | cons message rest inductionHypothesis =>
      have later := inductionHypothesis (widgets.broadcast message)
      rw [broadcast_huds] at later
      change ((widgets.broadcast message).broadcastAll rest).huds widget = _
      rw [later]
      by_cases member : widget ∈ widgets.listeners
      · have still : widget ∈ (widgets.broadcast message).listeners := member
        simp [member, still]
      · have still : widget ∉ (widgets.broadcast message).listeners := member
        simp [member, still]

/-- What a bar shows after some broadcasts: the last one about its stat. -/
def barAfter (stat : Stat) (messages : List Broadcast) (percent : ℚ) : ℚ :=
  messages.foldl
    (fun percent message => if message.stat = stat then message.percentage else percent) percent

/-- A bar moves with the broadcasts about its stat. -/
theorem broadcastAll_bar (widgets : Widgets) (messages : List Broadcast) (widget : ℕ)
    (stat : Stat) :
    ((widgets.broadcastAll messages).huds widget).bar stat =
      if widget ∈ widgets.listeners then barAfter stat messages ((widgets.huds widget).bar stat)
      else (widgets.huds widget).bar stat := by
  rw [broadcastAll_huds]
  by_cases member : widget ∈ widgets.listeners
  · rw [if_pos member, if_pos member]
    generalize widgets.huds widget = hud
    induction messages generalizing hud with
    | nil => rfl
    | cons message rest inductionHypothesis =>
        rw [List.foldl_cons, inductionHypothesis, RPGHUD.receive_bar]
        rfl
  · rw [if_neg member, if_neg member]

/-- Broadcasts about the other stat leave a bar alone. -/
theorem barAfter_of_forall {stat : Stat} {messages : List Broadcast}
    (other : ∀ message ∈ messages, message.stat ≠ stat) (percent : ℚ) :
    barAfter stat messages percent = percent := by
  induction messages with
  | nil => rfl
  | cons message rest inductionHypothesis =>
      have elsewhere := other message List.mem_cons_self
      rw [barAfter, List.foldl_cons, if_neg elsewhere]
      exact inductionHypothesis fun later member => other later (List.mem_cons_of_mem _ member)

end Widgets

end RPGLearnGame
