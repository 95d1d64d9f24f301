import RPGLearnGame.Animation.Turning
import RPGLearnGame.Semantics.Contraction

/-!
# Following the pawn

What the animation instance copies from its pawn is as old as the last update that found
the pawn, and `IsFalling` as old as the last that found its movement component as well.

The lean follows the turn rate in time. While the pawn turns at a constant rate, what the
lean still lacks to a tenth of the rate decays with the time that passes, into however many
frames it is cut, and the first frame that finds it small takes the target itself. From
then on the lean is exact.
-/

namespace RPGLearnGame

namespace HeroAnimInstance

open EventMachine

section Copies

variable {Value : Type*}

/-- What a call copies from the pawn it finds. -/
def copied? (copy : Hero → Option Value) : AnimCall → Option Value
  | .threadSafeUpdate (some hero) _ => copy hero
  | .threadSafeUpdate none _ | .update _ => none

/-- A field that an update copies from its pawn, when it has one, is a register. -/
theorem copied_register {read : HeroAnimInstance → Value} {copy : Hero → Option Value}
    (gameThread : ∀ self deltaSeconds, read (self.nativeUpdateAnimation deltaSeconds) = read self)
    (forgets : ∀ self : HeroAnimInstance, read { self with heroCharacter := none } = read self)
    (copies : ∀ self hero deltaSeconds,
      read (self.nativeThreadSafeUpdateAnimation (some hero) deltaSeconds) =
        (copy hero).getD (read self)) :
    calls.Register read (copied? copy) where
  written := by
    intro self call
    cases call with
    | update deltaSeconds => exact gameThread self deltaSeconds
    | threadSafeUpdate pawnOwner deltaSeconds =>
        cases pawnOwner with
        | none =>
            refine Eq.trans ?_ (forgets self)
            exact congrArg read (threadSafe_of_none self deltaSeconds)
        | some hero => exact copies self hero deltaSeconds

/-- The pawn that a call looks up. -/
def pawn? : AnimCall → Option (Option Hero)
  | .threadSafeUpdate pawnOwner _ => some pawnOwner
  | .update _ => none

/-- The instance holds the pawn that was looked up last. -/
theorem heroCharacter_register : calls.Register heroCharacter pawn? where
  written := by
    intro self call
    cases call with
    | update deltaSeconds => rfl
    | threadSafeUpdate pawnOwner deltaSeconds =>
        cases pawnOwner with
        | none => rfl
        | some hero => exact congrArg heroCharacter (threadSafe_of_hero self deltaSeconds hero)

/-- After any calls on the two threads, in any order, the instance holds the pawn of the last
worker-thread update; its crouch, velocity, speed and rotation are those of the pawn in the
last update that found one, and it falls as the pawn did in the last update that found its
movement component. -/
theorem calls_copied (start : HeroAnimInstance) (events : List AnimCall) :
    let self := calls.run start events
    self.heroCharacter = (lastWritten pawn? events).getD start.heroCharacter ∧
      self.isCrouching =
        (lastWritten (copied? fun hero => some hero.character.isCrouching) events).getD
          start.isCrouching ∧
      self.velocity =
        (lastWritten (copied? fun hero => some hero.velocity) events).getD start.velocity ∧
      self.speed =
        (lastWritten (copied? fun hero => some hero.velocityLength) events).getD start.speed ∧
      self.lastFrameRotation =
        (lastWritten (copied? fun hero => some hero.actorRotation) events).getD
          start.lastFrameRotation ∧
      self.isFalling =
        (lastWritten (copied? Hero.isFalling) events).getD start.isFalling := by
  refine ⟨heroCharacter_register.run start events, ?_, ?_, ?_, ?_, ?_⟩
  · refine (copied_register (fun _ _ => rfl) (fun _ => rfl) ?_).run start events
    exact fun self hero deltaSeconds =>
      congrArg isCrouching (threadSafe_of_hero self deltaSeconds hero)
  · refine (copied_register (fun _ _ => rfl) (fun _ => rfl) ?_).run start events
    exact fun self hero deltaSeconds =>
      congrArg velocity (threadSafe_of_hero self deltaSeconds hero)
  · refine (copied_register (fun _ _ => rfl) (fun _ => rfl) ?_).run start events
    exact fun self hero deltaSeconds =>
      congrArg speed (threadSafe_of_hero self deltaSeconds hero)
  · refine (copied_register (fun _ _ => rfl) (fun _ => rfl) ?_).run start events
    exact fun self hero deltaSeconds =>
      congrArg lastFrameRotation (threadSafe_of_hero self deltaSeconds hero)
  · refine (copied_register (fun _ _ => rfl) (fun _ => rfl) ?_).run start events
    exact fun self hero deltaSeconds =>
      congrArg isFalling (threadSafe_of_hero self deltaSeconds hero)

end Copies

section Settling

/-- How far the lean is from a tenth of the turn rate. -/
def leanError (rate : ℚ) (state : Turning) : ℚ := |state.self.yawnDelta.getD 0 - rate / 10|

/-- The part of the distance that a frame leaves is at most exponential in its time. -/
theorem one_sub_clamp_le_exp {part : ℚ} (positive : 0 < part) :
    ((1 - Easing.clamp part 0 1 : ℚ) : ℝ) ≤ Real.exp (-part) := by
  rcases le_total part 1 with small | large
  · have clamped : Easing.clamp part 0 1 = part := by
      rw [Easing.clamp, min_eq_left small, max_eq_right positive.le]
    rw [clamped]
    push_cast
    exact Real.one_sub_le_exp_neg _
  · have clamped : Easing.clamp part 0 1 = 1 := by
      rw [Easing.clamp, min_eq_right large, max_eq_right zero_le_one]
    rw [clamped, sub_self, Rat.cast_zero]
    exact (Real.exp_pos _).le

/-- Turning at a constant rate contracts the lean towards a tenth of the rate. -/
theorem turning_contraction (rate : ℚ) :
    (turning rate).Contraction Remembers (fun state => leanError rate state)
      fun _ frame => 10 * frame.deltaSeconds where
  supported := remembers_invariant rate
  contracts := by
    intro state frame remembers admits
    have part : 0 < frame.deltaSeconds * 10 := mul_pos admits.1 (by norm_num)
    have eased : leanError rate ((turning rate).next state frame) ≤
        (1 - Easing.clamp (frame.deltaSeconds * 10) 0 1) * leanError rate state := by
      rw [leanError, turning_yawnDelta remembers admits]
      exact Easing.abs_approach_sub_le_mul _ _ _ _
    have left : ((1 - Easing.clamp (frame.deltaSeconds * 10) 0 1 : ℚ) : ℝ) ≤
        Real.exp (-(10 * frame.deltaSeconds)) := by
      refine (one_sub_clamp_le_exp part).trans_eq ?_
      push_cast
      rw [mul_comm]
    calc ((leanError rate ((turning rate).next state frame) : ℚ) : ℝ)
        ≤ ((1 - Easing.clamp (frame.deltaSeconds * 10) 0 1 : ℚ) : ℝ) * leanError rate state := by
          exact_mod_cast eased
      _ ≤ Real.exp (-(10 * frame.deltaSeconds)) * leanError rate state := by
          have nonneg : (0 : ℝ) ≤ leanError rate state := by
            exact_mod_cast abs_nonneg (state.self.yawnDelta.getD 0 - rate / 10)
          gcongr

/-- The time that frames take. -/
def elapsed (events : List AnimFrame) : ℚ := (events.map AnimFrame.deltaSeconds).sum

/-- The exponents of a run add up to ten times its time. -/
theorem total_exponent (rate : ℚ) (state : Turning) (events : List AnimFrame) :
    (turning rate).total (fun _ frame => 10 * (frame.deltaSeconds : ℝ)) state events =
      10 * elapsed events := by
  induction events generalizing state with
  | nil => simp [elapsed]
  | cons frame rest inductionHypothesis =>
      rw [total_cons, inductionHypothesis]
      simp only [elapsed, List.map_cons, List.sum_cons]
      push_cast
      ring

/-- A lean that is near its target takes it. -/
theorem turning_takes_target {rate : ℚ} {state : Turning} {frame : AnimFrame}
    (remembers : Remembers state) (near : leanError rate state < 1 / 10 ^ 4)
    (admits : (turning rate).Admits state frame) :
    ((turning rate).next state frame).self.yawnDelta = some (rate / 10) := by
  have taken : (rate / 10 - state.self.yawnDelta.getD 0) ^ 2 < smallNumber := by
    rw [← sq_abs, abs_sub_comm]
    calc leanError rate state ^ 2 < (1 / 10 ^ 4) ^ 2 :=
          pow_lt_pow_left₀ near (abs_nonneg _) two_ne_zero
      _ = smallNumber := by norm_num [smallNumber]
  rw [turning_yawnDelta remembers admits, Easing.approach, if_pos taken]

/-- While the pawn turns at a constant rate, the distance of the lean to a tenth of the rate
decays exponentially in the time that has passed, whatever times the frames take; and once
the bound is below a ten-thousandth, every further frame leaves it at a tenth of the rate
exactly. -/
theorem turning_settles (rate : ℚ) (start : Turning) (remembers : Remembers start)
    (events : List AnimFrame) (admissible : (turning rate).Admissible start events) :
    leanError rate ((turning rate).run start events) ≤
        Real.exp (-(10 * elapsed events)) * leanError rate start ∧
      (Real.exp (-(10 * elapsed events)) * leanError rate start < 1 / 10 ^ 4 →
        ∀ frame, (turning rate).Admits ((turning rate).run start events) frame →
          ((turning rate).next ((turning rate).run start events) frame).self.yawnDelta =
            some (rate / 10)) := by
  have near := (turning_contraction rate).run remembers admissible
  rw [total_exponent] at near
  refine ⟨near, fun decayed frame admits => ?_⟩
  have remembersThen := ((remembers_invariant rate).throughout remembers admissible).final
  refine turning_takes_target remembersThen ?_ admits
  have small := near.trans_lt decayed
  rw [← Rat.cast_lt (K := ℝ)]
  push_cast
  exact small

/-- A quarter turn a second, from a lean to the other side: after two seconds the next
frame leans exactly. -/
theorem turning_settles_quarter_turn :
    ((turning 90).next ((turning 90).run
        ⟨{ yawnDelta := some (-3), lastFrameRotation := ⟨0, 170, 0⟩ }, ⟨0, 170, 0⟩⟩
        [⟨1, facing (-100)⟩, ⟨1, facing (-10)⟩])
      ⟨1 / 60, facing (-17 / 2)⟩).self.yawnDelta = some (90 / 10) := by
  have settles := turning_settles 90
    ⟨{ yawnDelta := some (-3), lastFrameRotation := ⟨0, 170, 0⟩ }, ⟨0, 170, 0⟩⟩ ⟨rfl, rfl⟩
    [⟨1, facing (-100)⟩, ⟨1, facing (-10)⟩]
    ⟨⟨by decide +kernel, by decide +kernel, -1, by decide +kernel⟩,
      ⟨by decide +kernel, by decide +kernel, 0, by decide +kernel⟩, trivial⟩
  refine settles.2 ?_ _ ⟨by decide +kernel, by decide +kernel, 0, by decide +kernel⟩
  have doubles : (2 : ℝ) ≤ Real.exp 1 := by
    have bound := Real.add_one_le_exp 1
    linarith
  have large : (2 : ℝ) ^ 20 ≤ Real.exp 20 := by
    calc (2 : ℝ) ^ 20 ≤ Real.exp 1 ^ 20 := by gcongr
      _ = Real.exp 20 := by
        rw [← Real.exp_nat_mul]
        norm_num
  have small : Real.exp (-20) ≤ 1 / 2 ^ 20 := by
    rw [Real.exp_neg, ← one_div]
    gcongr
  have time : elapsed [⟨1, facing (-100)⟩, ⟨1, facing (-10)⟩] = 2 := by decide +kernel
  have apart : leanError 90
      ⟨{ yawnDelta := some (-3), lastFrameRotation := ⟨0, 170, 0⟩ }, ⟨0, 170, 0⟩⟩ = 12 := by
    decide +kernel
  rw [time, apart]
  norm_num at small ⊢
  linarith

end Settling

end HeroAnimInstance

end RPGLearnGame
