import RPGLearnGame.Arithmetic.Rotation
import RPGLearnGame.Engine.World

/-!
# Player input as the engine provides it

Input values, the axes of a rotation, and what a pawn and its controller keep of the
input they are given until the next movement and the next rotation update use it up.
Angles are in degrees wherever sine and cosine are. The factors with which a controller
takes turns are its own and a parameter here.
-/

namespace RPGLearnGame

/-- `FVector2D`. -/
@[ext]
structure FVector2D (K : Type*) where
  x : K
  y : K
deriving DecidableEq, Repr

/-- `FRotationMatrix`: the axes of a rotated frame. -/
structure FRotationMatrix (K : Type*) where
  xAxis : FVector K
  yAxis : FVector K
  zAxis : FVector K

/-- The axes of a rotator. They have unit length, so `GetUnitAxis` returns them as they
are. -/
def FRotator.rotationMatrix {K : Type*} [CommRing K] (trig : SinCos K) (rotator : FRotator K) :
    FRotationMatrix K where
  xAxis :=
    ⟨trig.cos rotator.pitch * trig.cos rotator.yaw,
      trig.cos rotator.pitch * trig.sin rotator.yaw,
      trig.sin rotator.pitch⟩
  yAxis :=
    ⟨trig.sin rotator.roll * trig.sin rotator.pitch * trig.cos rotator.yaw -
        trig.cos rotator.roll * trig.sin rotator.yaw,
      trig.sin rotator.roll * trig.sin rotator.pitch * trig.sin rotator.yaw +
        trig.cos rotator.roll * trig.cos rotator.yaw,
      -(trig.sin rotator.roll * trig.cos rotator.pitch)⟩
  zAxis :=
    ⟨-(trig.cos rotator.roll * trig.sin rotator.pitch * trig.cos rotator.yaw +
        trig.sin rotator.roll * trig.sin rotator.yaw),
      trig.cos rotator.yaw * trig.sin rotator.roll -
        trig.cos rotator.roll * trig.sin rotator.pitch * trig.sin rotator.yaw,
      trig.cos rotator.roll * trig.cos rotator.pitch⟩

/-- A player controller: which way it looks, and the turn it has been asked for. -/
structure Controller (K : Type*) where
  controlRotation : FRotator K
  rotationInput : FRotator K
deriving DecidableEq, Repr

/-- The factors that a controller takes the player's turns with: its input scales where the
project enables the legacy ones, and otherwise one. -/
structure InputScales (K : Type*) where
  yaw : K
  pitch : K
deriving DecidableEq, Repr

namespace Controller

variable {K : Type*} [Add K] [Mul K] (scales : InputScales K)

/-- `AddYawInput`. -/
def addYawInput (controller : Controller K) (val : K) : Controller K :=
  { controller with rotationInput :=
      { controller.rotationInput with yaw := controller.rotationInput.yaw + val * scales.yaw } }

/-- `AddPitchInput`. -/
def addPitchInput (controller : Controller K) (val : K) : Controller K :=
  { controller with rotationInput :=
      { controller.rotationInput with
        pitch := controller.rotationInput.pitch + val * scales.pitch } }

end Controller

/-- The part of a pawn that input goes to: its controller, if it is possessed, and the
movement it has been asked for. -/
structure Steering (K : Type*) where
  controller : Option (Controller K)
  controlInputVector : FVector K
deriving DecidableEq, Repr

namespace Steering

variable {K : Type*} [Field K]

/-- `AddMovementInput`. -/
def addMovementInput (pawn : Steering K) (worldDirection : FVector K) (scaleValue : K) :
    Steering K :=
  { pawn with
    controlInputVector := pawn.controlInputVector + worldDirection.scale scaleValue }

/-- `AddControllerYawInput`, which needs a controller. -/
def addControllerYawInput (scales : InputScales K) (pawn : Steering K) (val : K) : Steering K :=
  { pawn with
    controller := pawn.controller.map fun controller => controller.addYawInput scales val }

/-- `AddControllerPitchInput`. -/
def addControllerPitchInput (scales : InputScales K) (pawn : Steering K) (val : K) : Steering K :=
  { pawn with
    controller := pawn.controller.map fun controller => controller.addPitchInput scales val }

/-- `ConsumeMovementInputVector`, by the movement component. -/
def consumeMovementInputVector (pawn : Steering K) : Steering K :=
  { pawn with controlInputVector := 0 }

/-- The controller's rotation update: the yaw turns as it was asked to, while pitch and
roll are left to the camera manager, which limits them. -/
def updateRotation (pawn : Steering K) (pitch roll : K) : Steering K :=
  { pawn with
    controller := pawn.controller.map fun controller =>
      { controlRotation :=
          ⟨pitch, controller.controlRotation.yaw + controller.rotationInput.yaw, roll⟩
        rotationInput := ⟨0, 0, 0⟩ } }

/-- The pawn gets a controller that looks some way. -/
def possessedBy (pawn : Steering K) (controlRotation : FRotator K) : Steering K :=
  { pawn with controller := some ⟨controlRotation, ⟨0, 0, 0⟩⟩ }

/-- The pawn loses its controller. -/
def unPossessed (pawn : Steering K) : Steering K := { pawn with controller := none }

end Steering

end RPGLearnGame
