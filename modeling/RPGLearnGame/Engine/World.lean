import Mathlib.Algebra.Order.Field.Basic
import Mathlib.Data.Fintype.Defs
import Mathlib.Data.Finset.Insert
import RPGLearnGame.Arithmetic.BinaryFormat

/-!
# The world a vault looks at

Vectors, traces and their answers, movement modes, warp targets and montages, as
far as the vault component relies on them. Coordinates live in any linearly
ordered field with a conversion to `float`. The world answers every trace of a
`Vault()` call arbitrarily; nothing is assumed about where its hits lie.
-/

namespace RPGLearnGame

/-- A type of coordinates with the conversion of a coordinate to `float`, which can run over
to an infinity. -/
class ToFloat (K : Type*) where
  toFloat : K → WithBot (WithTop K)

export ToFloat (toFloat)

instance {K : Type*} [Field K] [LinearOrder K] [FloorRing K] : ToFloat K where
  toFloat := BinaryFormat.binary32.convert

/-- `FVector`. -/
@[ext]
structure FVector (K : Type*) where
  x : K
  y : K
  z : K
deriving DecidableEq, Repr

namespace FVector

variable {K : Type*} [Field K]

instance : Zero (FVector K) := ⟨⟨0, 0, 0⟩⟩
instance : Add (FVector K) := ⟨fun a b => ⟨a.x + b.x, a.y + b.y, a.z + b.z⟩⟩
instance : Sub (FVector K) := ⟨fun a b => ⟨a.x - b.x, a.y - b.y, a.z - b.z⟩⟩

/-- The product of two vectors is componentwise. -/
instance : Mul (FVector K) := ⟨fun a b => ⟨a.x * b.x, a.y * b.y, a.z * b.z⟩⟩

/-- The product with a number. -/
def scale (a : FVector K) (k : K) : FVector K := ⟨a.x * k, a.y * k, a.z * k⟩

end FVector

/-- `FRotator`, in degrees. -/
structure FRotator (K : Type*) where
  pitch : K
  yaw : K
  roll : K
deriving DecidableEq, Repr

/-- What is swept along a trace: a sphere, or nothing for a line trace. -/
inductive TraceShape (K : Type*) where
  | sphere (radius : K)
  | line
deriving DecidableEq, Repr

/-- One trace request. -/
structure Trace (K : Type*) where
  shape : TraceShape K
  traceStart : FVector K
  traceEnd : FVector K
deriving DecidableEq, Repr

/-- The fields of `FHitResult` that are read. -/
structure FHitResult (K : Type*) where
  bBlockingHit : Bool
  location : FVector K
  traceStart : FVector K
deriving DecidableEq, Repr

/-- Which trace of a `Vault()` call a request is. -/
inductive Probe where
  | distance (calculateDistanceIndex : ℕ)
  | height (calculateHeightIndex : ℕ)
  | land (calculateHeightIndex : ℕ)
deriving DecidableEq, Repr

/-- `EMovementMode`. -/
inductive MovementMode where
  | none
  | walking
  | navWalking
  | falling
  | swimming
  | flying
  | custom
deriving DecidableEq, Repr

/-- A montage asset. -/
structure AnimMontage where
  assetName : String
deriving DecidableEq, Repr

/-- Everything one `Vault()` call asks its surroundings. -/
structure World (K : Type*) where
  /-- `GetOwner()->GetActorLocation()`. -/
  actorLocation : FVector K
  /-- `GetOwner()->GetActorRotation()`. -/
  actorRotation : FRotator K
  /-- `GetOwner()->GetActorRotation().Vector()`. -/
  forward : FVector K
  /-- `Mesh->GetComponentLocation()`. -/
  meshLocation : FVector K
  /-- The answer to each trace of the call. -/
  trace : Probe → Trace K → FHitResult K
  /-- Whether the engine is able to play a montage on the mesh now. -/
  canPlayMontage : Bool

/-- The names of the registered warp targets. -/
inductive MotionName where
  | vaultStart
  | vaultMiddle
  | vaultLand
deriving DecidableEq, Repr

instance : Fintype MotionName where
  elems := {.vaultStart, .vaultMiddle, .vaultLand}
  complete := by
    intro name
    cases name <;> decide

/-- `FMotionWarpingTarget` without its name, which is the key it is stored at. -/
structure MotionWarpingTarget (K : Type*) where
  location : FVector K
  rotation : FRotator K
deriving DecidableEq, Repr

/-- The owning actor: its movement mode, its collision, the targets of its motion
warping component, and the montage proxies created on its mesh. -/
structure VaultOwner (K : Type*) where
  movementMode : MovementMode
  actorEnableCollision : Bool
  warpTargets : MotionName → Option (MotionWarpingTarget K) := fun _ => .none
  /-- How many proxies have been created so far; they are numbered from zero. -/
  proxies : ℕ := 0
  /-- The proxy whose montage is playing. -/
  playing : Option ℕ := .none
  playing_lt : ∀ proxy ∈ playing, proxy < proxies := by simp

namespace VaultOwner

variable {K : Type*}

/-- `AddOrUpdateWarpTarget`. -/
def addOrUpdateWarpTarget (owner : VaultOwner K) (name : MotionName)
    (target : MotionWarpingTarget K) : VaultOwner K :=
  { owner with
    warpTargets := fun other => if other = name then some target else owner.warpTargets other }

/-- `CreateProxyObjectForPlayMontage`: a montage that starts takes the place of the
one that was playing, whose proxy is thereby interrupted; one that cannot start
leaves it alone. Nothing listens to the interruption. -/
def createProxyObjectForPlayMontage (owner : VaultOwner K) (montage : Option AnimMontage)
    (canPlay : Bool) : VaultOwner K :=
  { owner with
    proxies := owner.proxies + 1
    playing := if montage.isSome && canPlay then some owner.proxies else owner.playing
    playing_lt := by
      intro proxy plays
      split at plays
      · obtain rfl := Option.some.inj plays
        exact Nat.lt_succ_self _
      · exact (owner.playing_lt proxy plays).trans (Nat.lt_succ_self _) }

/-- A montage that starts is not the one that was playing. -/
theorem createProxyObjectForPlayMontage_playing_eq_iff (owner : VaultOwner K)
    (montage : Option AnimMontage) (canPlay : Bool) :
    (owner.createProxyObjectForPlayMontage montage canPlay).playing = owner.playing ↔
      (montage.isSome && canPlay) = false := by
  unfold createProxyObjectForPlayMontage
  split
  · rename_i starts
    have newer : some owner.proxies ≠ owner.playing := fun same =>
      lt_irrefl _ (owner.playing_lt _ same.symm)
    simp [newer, starts]
  · rename_i fails
    simpa using fails

end VaultOwner

end RPGLearnGame
