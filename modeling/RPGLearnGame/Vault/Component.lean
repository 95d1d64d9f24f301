import RPGLearnGame.Engine.World
import RPGLearnGame.Semantics.SearchLoop

/-!
# The vault component

`UVaultComponent`: a call of `vault` looks for an obstacle at three heights,
samples the space behind the first one it finds, and starts a warp when one of
the samples has ground next to it. The positions and `canWarp` live in the
component and outlast the call.

A call also keeps a log of the traces it makes and of the motion warps it asks
for. The log decides nothing.
-/

namespace RPGLearnGame

open SearchLoop

/-- `UVaultComponent`. -/
structure VaultComponent (K : Type*) where
  vaultStartPos : FVector K
  vaultMiddlePos : FVector K
  vaultLandPos : FVector K
  canWarp : Bool
  vaultMontage : Option AnimMontage
deriving DecidableEq, Repr

/-- What a `Vault()` call does to its surroundings. -/
inductive Action (K : Type*) where
  /-- A trace with its answer. -/
  | traced (probe : Probe) (request : Trace K) (answer : FHitResult K)
  /-- `VaultMotionWarp()`, and whether its checks pass and it starts a warp. -/
  | motionWarp (started : Bool)
deriving DecidableEq, Repr

/-- A `Vault()` call under way. -/
structure VaultCall (K : Type*) where
  component : VaultComponent K
  owner : VaultOwner K
  log : List (Action K) := []

/-- `UKismetMathLibrary::InRange_FloatFloat` with both bounds inclusive, as by default. -/
def inRange_FloatFloat {K : Type*} [LinearOrder K] (value min max : K) : Bool :=
  decide (min ≤ value) && decide (value ≤ max)

namespace World

variable {K : Type*} [Field K] (world : World K)

/-- The sphere trace that looks for an obstacle. -/
def distanceTrace (calculateDistanceIndex : ℕ) : Trace K :=
  let calculateDistanceStart :=
    world.actorLocation + ⟨0, 0, ((calculateDistanceIndex * 30 : ℕ) : K)⟩
  ⟨.sphere 5, calculateDistanceStart, calculateDistanceStart + world.forward.scale 180⟩

/-- The sphere trace that samples the height behind an obstacle. -/
def heightTrace (obstacle : FHitResult K) (calculateHeightIndex : ℕ) : Trace K :=
  let offset : K := ((calculateHeightIndex * 50 : ℕ) : K)
  let calculationHeightStartLocation := obstacle.location + ⟨0, 0, 100⟩
  let calculateHeightEndLocation := world.forward * ⟨offset, offset, offset⟩
  let calculateHeightStart := calculationHeightStartLocation + calculateHeightEndLocation
  ⟨.sphere 10, calculateHeightStart, calculateHeightStart - ⟨0, 0, 100⟩⟩

/-- The line trace that looks for ground beyond a free height sample. -/
def landTrace (heightHit : FHitResult K) : Trace K :=
  let landPosLocationStart := heightHit.traceStart + world.forward * ⟨80, 80, 80⟩
  ⟨.line, landPosLocationStart, landPosLocationStart - ⟨0, 0, 1000⟩⟩

/-- The answer to a distance trace. -/
def distanceHit (calculateDistanceIndex : ℕ) : FHitResult K :=
  world.trace (.distance calculateDistanceIndex) (world.distanceTrace calculateDistanceIndex)

/-- The answer to a height trace. -/
def heightHit (obstacle : FHitResult K) (calculateHeightIndex : ℕ) : FHitResult K :=
  world.trace (.height calculateHeightIndex) (world.heightTrace obstacle calculateHeightIndex)

/-- The answer to the landing trace beyond a height sample. -/
def landHit (obstacle : FHitResult K) (calculateHeightIndex : ℕ) : FHitResult K :=
  world.trace (.land calculateHeightIndex)
    (world.landTrace (world.heightHit obstacle calculateHeightIndex))

/-- A distance trace as it is logged. -/
def distanceTraced (calculateDistanceIndex : ℕ) : Action K :=
  .traced (.distance calculateDistanceIndex) (world.distanceTrace calculateDistanceIndex)
    (world.distanceHit calculateDistanceIndex)

/-- A height trace as it is logged. -/
def heightTraced (obstacle : FHitResult K) (calculateHeightIndex : ℕ) : Action K :=
  .traced (.height calculateHeightIndex) (world.heightTrace obstacle calculateHeightIndex)
    (world.heightHit obstacle calculateHeightIndex)

/-- A landing trace as it is logged. -/
def landTraced (obstacle : FHitResult K) (calculateHeightIndex : ℕ) : Action K :=
  .traced (.land calculateHeightIndex)
    (world.landTrace (world.heightHit obstacle calculateHeightIndex))
    (world.landHit obstacle calculateHeightIndex)

/-- The height check of `VaultMotionWarp`: a landing position is within fifty units of
the mesh's height, as far as three `float`s can tell. -/
def inReach [LinearOrder K] [ToFloat K] (vaultLandPos : FVector K) : Bool :=
  let meshHeightMin := toFloat (world.meshLocation.z - 50)
  let meshHeightMax := toFloat (world.meshLocation.z + 50)
  let meshHeightValue := toFloat vaultLandPos.z
  inRange_FloatFloat meshHeightValue meshHeightMin meshHeightMax

end World

namespace VaultCall

variable {K : Type*}

/-- Log an action. -/
def record (call : VaultCall K) (action : Action K) : VaultCall K :=
  { call with log := call.log ++ [action] }

end VaultCall

namespace VaultComponent

variable {K : Type*}

/-- `UVaultComponent::UVaultComponent`. A blueprint may go on to set the positions and
the montage. -/
def construct (vaultStartPos vaultMiddlePos vaultLandPos : FVector K)
    (vaultMontage : Option AnimMontage := none) : VaultComponent K :=
  ⟨vaultStartPos, vaultMiddlePos, vaultLandPos, false, vaultMontage⟩

/-- `ApplyVaultMotionWarp`. -/
def applyVaultMotionWarp (world : World K) (owner : VaultOwner K) (motionLocation : FVector K)
    (motionName : MotionName) : VaultOwner K :=
  owner.addOrUpdateWarpTarget motionName ⟨motionLocation, world.actorRotation⟩

variable [Field K]

/-- The part of `VaultMotionWarp` behind its checks: the owner flies without collision,
takes the three positions as targets and plays the montage. -/
def startWarp (world : World K) (component : VaultComponent K) (owner : VaultOwner K) :
    VaultOwner K :=
  let owner := { owner with movementMode := .flying, actorEnableCollision := false }
  let owner := applyVaultMotionWarp world owner component.vaultStartPos .vaultStart
  let owner := applyVaultMotionWarp world owner component.vaultMiddlePos .vaultMiddle
  let owner := applyVaultMotionWarp world owner component.vaultLandPos .vaultLand
  owner.createProxyObjectForPlayMontage component.vaultMontage world.canPlayMontage

/-- `OnVaultMontageCompleted`: the owner walks and collides again, and the landing
position is parked out of reach. -/
def onVaultMontageCompleted (component : VaultComponent K) (owner : VaultOwner K) :
    VaultComponent K × VaultOwner K :=
  ({ component with canWarp := false, vaultLandPos := ⟨0, 0, 20000⟩ },
    { owner with movementMode := .walking, actorEnableCollision := true })

variable [LinearOrder K] [ToFloat K]

/-- `VaultMotionWarp`. -/
def vaultMotionWarp (world : World K) (call : VaultCall K) : VaultCall K :=
  let meshHeightResult := world.inReach call.component.vaultLandPos
  if call.component.canWarp && meshHeightResult then
    { call with owner := startWarp world call.component call.owner }.record (.motionWarp true)
  else
    call.record (.motionWarp false)

/-- One iteration of the height loop. Only sample 0 sets the start, every blocked
sample sets the middle, and a free sample with ground beyond it ends the loop. -/
def heightBody (world : World K) (obstacle : FHitResult K) (calculateHeightIndex : ℕ)
    (call : VaultCall K) : ForInStep (VaultCall K) :=
  let calculateHeightHitResult := world.heightHit obstacle calculateHeightIndex
  let call := call.record (world.heightTraced obstacle calculateHeightIndex)
  if calculateHeightHitResult.bBlockingHit then
    .yield { call with component := { call.component with
      vaultStartPos :=
        if calculateHeightIndex = 0 then calculateHeightHitResult.location
        else call.component.vaultStartPos
      vaultMiddlePos := calculateHeightHitResult.location
      canWarp := true } }
  else
    let landPosHitResult := world.landHit obstacle calculateHeightIndex
    let call := call.record (world.landTraced obstacle calculateHeightIndex)
    if landPosHitResult.bBlockingHit then
      .done (vaultMotionWarp world { call with component := { call.component with
        vaultLandPos := landPosHitResult.location } })
    else
      .yield call

/-- The height loop. -/
def heightLoop (world : World K) (obstacle : FHitResult K) (call : VaultCall K) : VaultCall K :=
  forBreak (heightBody world obstacle) (List.range 6) call

/-- One iteration of the distance loop; the first obstacle ends it. -/
def distanceBody (world : World K) (calculateDistanceIndex : ℕ) (call : VaultCall K) :
    ForInStep (VaultCall K) :=
  let calculateDistanceHitResult := world.distanceHit calculateDistanceIndex
  let call := call.record (world.distanceTraced calculateDistanceIndex)
  if calculateDistanceHitResult.bBlockingHit then
    .done (heightLoop world calculateDistanceHitResult call)
  else
    .yield call

/-- `Vault`. -/
def vault (world : World K) (component : VaultComponent K) (owner : VaultOwner K) : VaultCall K :=
  forBreak (distanceBody world) (List.range 3) { component, owner }

end VaultComponent

end RPGLearnGame
