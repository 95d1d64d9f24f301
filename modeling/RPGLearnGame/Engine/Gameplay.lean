import Mathlib.Algebra.Order.Ring.Rat
import Mathlib.Data.Rat.Defs

/-!
# Engine services the character uses

Timers, float timelines and linear interpolation, as far as the character's code
relies on them. These follow the engine's documented behaviour; everything else
in the development is translated from the repository.
-/

namespace RPGLearnGame

/-- An armed timer: its rate in seconds and whether it repeats. -/
structure Timer where
  inRate : ℚ
  inbLoop : Bool
deriving DecidableEq, Repr

/-- `FTimerHandle`: the timer behind the handle while it is armed. -/
abbrev TimerHandle := Option Timer

namespace TimerHandle

/-- `SetTimer` replaces whatever the handle was armed with. -/
def setTimer (_handle : TimerHandle) (inRate : ℚ) (inbLoop : Bool) : TimerHandle :=
  some ⟨inRate, inbLoop⟩

/-- `ClearTimer` disarms the handle. -/
def clearTimer (_handle : TimerHandle) : TimerHandle := none

/-- The handle's callback may fire. -/
def armed (handle : TimerHandle) : Bool := handle.isSome

/-- The time from arming to the first firing and from each firing to the next. -/
def rate (handle : TimerHandle) : ℚ := (handle.map Timer.inRate).getD 0

@[simp] theorem armed_setTimer (handle : TimerHandle) (inRate : ℚ) (inbLoop : Bool) :
    (handle.setTimer inRate inbLoop).armed = true := rfl

@[simp] theorem armed_clearTimer (handle : TimerHandle) : handle.clearTimer.armed = false := rfl

@[simp] theorem armed_none : armed none = false := rfl

end TimerHandle

/-- `UCurveFloat`: its values and the time of its last key. -/
structure CurveFloat where
  value : ℚ → ℚ
  lastKey : ℚ

/-- `FTimeline` with at most one float track, whose update delegate is bound to
the owner. -/
structure Timeline where
  position : ℚ := 0
  playing : Bool := false
  reversing : Bool := false
  interpFloat : Option CurveFloat := none

namespace Timeline

/-- `GetTimelineLength`: the last key of the track. -/
def length (timeline : Timeline) : ℚ :=
  match timeline.interpFloat with
  | some curve => curve.lastKey
  | none => 0

/-- The value the update delegate is called with, when there is a track. -/
def updateValue (timeline : Timeline) : Option ℚ :=
  timeline.interpFloat.map fun curve => curve.value timeline.position

/-- What a timeline call does: the timeline after it, and the argument of the
update delegate when that is called. -/
structure Update where
  timeline : Timeline
  value : Option ℚ

/-- Move the position and call the update delegate with the curve there. -/
def setPlaybackPosition (timeline : Timeline) (position : ℚ) : Update :=
  let timeline := { timeline with position }
  ⟨timeline, timeline.updateValue⟩

/-- `PlayFromStart`: play forward from position zero. -/
def playFromStart (timeline : Timeline) : Update :=
  { timeline with playing := true, reversing := false }.setPlaybackPosition 0

/-- `ReverseFromEnd`: play backward from the end. -/
def reverseFromEnd (timeline : Timeline) : Update :=
  { timeline with playing := true, reversing := true }.setPlaybackPosition timeline.length

/-- `TickTimeline`: a playing timeline moves in its direction and stops at either
end. -/
def tickTimeline (timeline : Timeline) (deltaTime : ℚ) : Update :=
  if timeline.playing then
    let position := timeline.position + if timeline.reversing then -deltaTime else deltaTime
    if timeline.length < position then
      { timeline with playing := false }.setPlaybackPosition timeline.length
    else if position < 0 then
      { timeline with playing := false }.setPlaybackPosition 0
    else timeline.setPlaybackPosition position
  else ⟨timeline, none⟩

end Timeline

/-- `FMath::Lerp`. -/
def lerp (a b alpha : ℚ) : ℚ := a + alpha * (b - a)

end RPGLearnGame
