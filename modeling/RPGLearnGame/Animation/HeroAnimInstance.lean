import RPGLearnGame.Arithmetic.Easing
import RPGLearnGame.Arithmetic.Heading
import RPGLearnGame.Character.Model
import RPGLearnGame.Engine.World
import Mathlib.Data.Rat.Floor

/-!
# The animation instance

`UHeroAnimInstance` copies what it animates from its pawn and eases `YawnDelta`, the
lean, towards the rate at which the pawn turns. The game thread stores the frame time in
`DeltaTime`; the worker thread's update divides by it.

A quotient by zero is no number, and whatever is computed from it is none either, so
`yawnDelta` is an option that has no value once such a quotient has gone into it.
-/

namespace RPGLearnGame

namespace FRotator

instance : Sub (FRotator ℚ) := ⟨fun a b => ⟨a.pitch - b.pitch, a.yaw - b.yaw, a.roll - b.roll⟩⟩

/-- `FRotator::Normalize`: each angle modulo 360, above -180 and up to 180. -/
def normalize (rotator : FRotator ℚ) : FRotator ℚ :=
  ⟨Heading.wrap 360 rotator.pitch, Heading.wrap 360 rotator.yaw, Heading.wrap 360 rotator.roll⟩

end FRotator

/-- `UE_SMALL_NUMBER`. -/
def smallNumber : ℚ := 1 / 10 ^ 8

/-- `FMath::FInterpTo`. -/
def fInterpTo (current target deltaTime interpSpeed : ℚ) : ℚ :=
  if interpSpeed ≤ 0 then target
  else Easing.approach smallNumber current target (deltaTime * interpSpeed)

/-- A quotient, which is a number unless the divisor is zero. -/
def divided (dividend divisor : ℚ) : Option ℚ :=
  if divisor = 0 then none else some (dividend / divisor)

/-- What the animation instance reads of its pawn. -/
structure Hero where
  character : RPGLearnGameCharacter
  /-- `GetActorRotation()`. -/
  actorRotation : FRotator ℚ
  /-- `GetVelocity()`. -/
  velocity : FVector ℚ
  /-- `GetVelocity().Length()`. -/
  velocityLength : ℚ
  /-- `GetCharacterMovement()->IsFalling()`, when there is a movement component. -/
  isFalling : Option Bool

/-- `UHeroAnimInstance`. -/
structure HeroAnimInstance where
  heroCharacter : Option Hero := none
  isCrouching : Bool := false
  isFalling : Bool := false
  velocity : FVector ℚ := 0
  speed : ℚ := 0
  yawnDelta : Option ℚ := some 0
  lastFrameRotation : FRotator ℚ := ⟨0, 0, 0⟩
  deltaTime : ℚ := 0

namespace HeroAnimInstance

/-- `NativeUpdateAnimation`, on the game thread. -/
def nativeUpdateAnimation (self : HeroAnimInstance) (deltaSeconds : ℚ) : HeroAnimInstance :=
  { self with deltaTime := deltaSeconds }

/-- `GetCharacter`; the pawn is there when `TryGetPawnOwner()` is a character. -/
def getCharacter (self : HeroAnimInstance) (pawnOwner : Option Hero) : HeroAnimInstance :=
  { self with heroCharacter := pawnOwner }

def calculateMovementParams (self : HeroAnimInstance) : HeroAnimInstance :=
  match self.heroCharacter with
  | some hero =>
      let self :=
        match hero.isFalling with
        | some isFalling => { self with isFalling }
        | none => self
      { self with
        speed := hero.velocityLength
        velocity := hero.velocity
        isCrouching := hero.character.isCrouching }
  | none => self

/-- `DeltaCalculated` of `CalculateLeanDelta`: a tenth of the turn rate since the last
frame. -/
def deltaCalculated (self : HeroAnimInstance) (heroRotation : FRotator ℚ) : Option ℚ :=
  let deltaRotator := (heroRotation - self.lastFrameRotation).normalize
  let normalizedRotatorYaw := deltaRotator.yaw
  (divided normalizedRotatorYaw self.deltaTime).map fun rate => rate / 10

def calculateLeanDelta (self : HeroAnimInstance) : HeroAnimInstance :=
  match self.heroCharacter with
  | some hero =>
      let heroRotation := hero.actorRotation
      { self with
        yawnDelta := do
          let yawnDelta ← self.yawnDelta
          let deltaCalculated ← self.deltaCalculated heroRotation
          return fInterpTo yawnDelta deltaCalculated self.deltaTime 10
        lastFrameRotation := heroRotation }
  | none => self

/-- `NativeThreadSafeUpdateAnimation`, on the worker thread. It does not look at its own
`DeltaSeconds`. -/
def nativeThreadSafeUpdateAnimation (self : HeroAnimInstance) (pawnOwner : Option Hero)
    (_deltaSeconds : ℚ) : HeroAnimInstance :=
  let self := self.getCharacter pawnOwner
  let self := self.calculateMovementParams
  self.calculateLeanDelta

@[simp] theorem nativeUpdateAnimation_yawnDelta (self : HeroAnimInstance) (deltaSeconds : ℚ) :
    (self.nativeUpdateAnimation deltaSeconds).yawnDelta = self.yawnDelta := rfl

@[simp] theorem nativeUpdateAnimation_deltaTime (self : HeroAnimInstance) (deltaSeconds : ℚ) :
    (self.nativeUpdateAnimation deltaSeconds).deltaTime = deltaSeconds := rfl

section ThreadSafe

variable (self : HeroAnimInstance) (deltaSeconds : ℚ)

/-- Without a pawn the worker thread forgets the pawn and does nothing else. -/
theorem threadSafe_of_none :
    self.nativeThreadSafeUpdateAnimation none deltaSeconds =
      { self with heroCharacter := none } := rfl

/-- With a pawn the worker thread copies its movement, eases the lean and remembers the
rotation. -/
theorem threadSafe_of_hero (hero : Hero) :
    self.nativeThreadSafeUpdateAnimation (some hero) deltaSeconds =
      { self with
        heroCharacter := some hero
        isCrouching := hero.character.isCrouching
        isFalling := hero.isFalling.getD self.isFalling
        velocity := hero.velocity
        speed := hero.velocityLength
        yawnDelta := self.yawnDelta.bind fun yawnDelta =>
          (self.deltaCalculated hero.actorRotation).bind fun deltaCalculated =>
            some (fInterpTo yawnDelta deltaCalculated self.deltaTime 10)
        lastFrameRotation := hero.actorRotation } := by
  obtain ⟨character, actorRotation, velocity, velocityLength, isFalling⟩ := hero
  cases isFalling <;> rfl

/-- The target of the lean is defined exactly when the frame time is not zero. -/
theorem deltaCalculated_isSome_iff (heroRotation : FRotator ℚ) :
    (self.deltaCalculated heroRotation).isSome = true ↔ self.deltaTime ≠ 0 := by
  by_cases still : self.deltaTime = 0
  · simp [deltaCalculated, divided, still]
  · simp [deltaCalculated, divided, still]

/-- The target of the lean after a frame that takes some time. -/
theorem deltaCalculated_of_ne_zero (heroRotation : FRotator ℚ) (takesTime : self.deltaTime ≠ 0) :
    self.deltaCalculated heroRotation =
      some (Heading.wrap 360 (heroRotation.yaw - self.lastFrameRotation.yaw) /
        self.deltaTime / 10) := by
  have quotient : divided (Heading.wrap 360 (heroRotation.yaw - self.lastFrameRotation.yaw))
      self.deltaTime = some (Heading.wrap 360 (heroRotation.yaw - self.lastFrameRotation.yaw) /
        self.deltaTime) := if_neg takesTime
  exact congrArg (Option.map fun rate => rate / 10) quotient

end ThreadSafe

end HeroAnimInstance

end RPGLearnGame
