import RPGLearnGame.Engine.Controls
import RPGLearnGame.Vault.Provenance

/-!
# Vaulting somewhere else

A placement turns the world about the vertical axis and shifts it in the horizontal plane. A
vault works alike wherever on a level it takes place and whichever way it faces: run in a
placed world, the component and its owner do the same things at the placed positions. A
placement leaves every height as it is, because `float`s are not equally far apart at all
heights. One number does not move with the world. A completed montage parks the landing
position at one point, so until the next landing the two components differ there, unless the
world was only turned.
-/

namespace RPGLearnGame

open EventMachine SearchLoop

/-- A turn about the vertical axis and a shift that keeps heights. -/
structure Placement (K : Type*) [Field K] where
  trig : SinCos K
  yaw : K
  offset : FVector K
  level : offset.z = 0

namespace Placement

variable {K : Type*} [Field K] (placement : Placement K)

section Geometry

/-- A direction after the turn. -/
def direction (d : FVector K) : FVector K :=
  let turned := placement.trig.turn placement.yaw (d.x, d.y)
  ⟨turned.1, turned.2, d.z⟩

/-- A point after the turn and the shift. -/
def point (a : FVector K) : FVector K := placement.direction a + placement.offset

/-- Where a point was placed from. -/
def unplace (a : FVector K) : FVector K :=
  let shifted := a - placement.offset
  let turned := placement.trig.turn (-placement.yaw) (shifted.x, shifted.y)
  ⟨turned.1, turned.2, shifted.z⟩

/-- A rotation after the turn. -/
def rotation (rotator : FRotator K) : FRotator K :=
  { rotator with yaw := rotator.yaw + placement.yaw }

@[simp] theorem unplace_point (a : FVector K) : placement.unplace (placement.point a) = a := by
  have shifted : placement.point a - placement.offset = placement.direction a := by
    ext
    · exact add_sub_cancel_right _ _
    · exact add_sub_cancel_right _ _
    · exact add_sub_cancel_right _ _
  have turnedBack : placement.trig.turn (-placement.yaw)
      (placement.trig.turn placement.yaw (a.x, a.y)) = (a.x, a.y) := by
    rw [SinCos.turn_turn, add_neg_cancel, SinCos.turn_zero]
  unfold unplace
  rw [shifted]
  ext
  · exact congrArg Prod.fst turnedBack
  · exact congrArg Prod.snd turnedBack
  · rfl

/-- A point reached in a direction is reached in the turned direction. -/
theorem point_add (a d : FVector K) :
    placement.point (a + d) = placement.point a + placement.direction d := by
  have turned := placement.trig.turn_add placement.yaw (a.x, a.y) (d.x, d.y)
  ext
  · exact (congrArg (· + placement.offset.x) (congrArg Prod.fst turned)).trans
      (add_right_comm _ _ _)
  · exact (congrArg (· + placement.offset.y) (congrArg Prod.snd turned)).trans
      (add_right_comm _ _ _)
  · exact add_right_comm _ _ _

/-- The turn does not touch heights. -/
@[simp] theorem direction_vertical (height : K) :
    placement.direction ⟨0, 0, height⟩ = ⟨0, 0, height⟩ := by
  have still := placement.trig.turn_origin placement.yaw
  ext
  · exact congrArg Prod.fst still
  · exact congrArg Prod.snd still
  · rfl

/-- A point above another is placed above it. -/
theorem point_add_vertical (a : FVector K) (height : K) :
    placement.point (a + ⟨0, 0, height⟩) = placement.point a + ⟨0, 0, height⟩ := by
  rw [point_add, direction_vertical]

/-- A point below another is placed below it. -/
theorem point_sub_vertical (a : FVector K) (height : K) :
    placement.point (a - ⟨0, 0, height⟩) = placement.point a - ⟨0, 0, height⟩ := by
  have below : ∀ b : FVector K, b - ⟨0, 0, height⟩ = b + ⟨0, 0, -height⟩ := by
    intro b
    ext
    · exact (sub_zero _).trans (add_zero _).symm
    · exact (sub_zero _).trans (add_zero _).symm
    · exact sub_eq_add_neg _ _
  rw [below, below, point_add_vertical]

/-- Turning respects multiples. -/
theorem direction_scale (d : FVector K) (k : K) :
    placement.direction (d.scale k) = (placement.direction d).scale k := by
  ext
  · simp only [direction, SinCos.turn, FVector.scale]
    ring
  · simp only [direction, SinCos.turn, FVector.scale]
    ring
  · rfl

/-- The product with three equal factors is the product with a number. -/
theorem direction_diagonal (d : FVector K) (k : K) :
    placement.direction (d * ⟨k, k, k⟩) = placement.direction d * ⟨k, k, k⟩ :=
  placement.direction_scale d k

/-- A placement keeps heights. -/
@[simp] theorem point_z (a : FVector K) : (placement.point a).z = a.z := by
  change a.z + placement.offset.z = a.z
  rw [placement.level, add_zero]

/-- A parked landing position stays where it is only if nothing is shifted. -/
theorem point_vertical_eq_iff (height : K) :
    placement.point ⟨0, 0, height⟩ = ⟨0, 0, height⟩ ↔ placement.offset = 0 := by
  have shifted : placement.point ⟨0, 0, height⟩ = ⟨0, 0, height⟩ + placement.offset :=
    congrArg (· + placement.offset) (placement.direction_vertical height)
  rw [shifted, FVector.ext_iff, FVector.ext_iff]
  exact and_congr add_eq_left (and_congr add_eq_left add_eq_left)

end Geometry

section Surroundings

/-- A trace request somewhere else. -/
def trace (request : Trace K) : Trace K :=
  { request with
    traceStart := placement.point request.traceStart
    traceEnd := placement.point request.traceEnd }

/-- The request that was placed. -/
def untrace (request : Trace K) : Trace K :=
  { request with
    traceStart := placement.unplace request.traceStart
    traceEnd := placement.unplace request.traceEnd }

/-- An answer somewhere else. -/
def hit (answer : FHitResult K) : FHitResult K :=
  { answer with
    location := placement.point answer.location
    traceStart := placement.point answer.traceStart }

/-- The same surroundings somewhere else. -/
def world (world : World K) : World K where
  actorLocation := placement.point world.actorLocation
  actorRotation := placement.rotation world.actorRotation
  forward := placement.direction world.forward
  meshLocation := placement.point world.meshLocation
  trace probe request := placement.hit (world.trace probe (placement.untrace request))
  canPlayMontage := world.canPlayMontage

@[simp] theorem untrace_trace (request : Trace K) :
    placement.untrace (placement.trace request) = request := by
  simp [untrace, trace]

/-- Surroundings that face along the rotation of their owner do so somewhere else. -/
theorem world_forward {surroundings : World K}
    (faces : surroundings.forward =
      (surroundings.actorRotation.rotationMatrix placement.trig).xAxis) :
    (placement.world surroundings).forward =
      ((placement.world surroundings).actorRotation.rotationMatrix placement.trig).xAxis := by
  change placement.direction surroundings.forward = _
  rw [faces]
  ext
  · simp only [direction, SinCos.turn, FRotator.rotationMatrix, world, rotation,
      placement.trig.cos_add]
    ring
  · simp only [direction, SinCos.turn, FRotator.rotationMatrix, world, rotation,
      placement.trig.sin_add]
    ring
  · rfl

variable (surroundings : World K) (obstacle : FHitResult K) (index : ℕ)

/-- The traces that look for an obstacle are placed along. -/
theorem distanceTrace_world :
    (placement.world surroundings).distanceTrace index =
      placement.trace (surroundings.distanceTrace index) := by
  simp only [World.distanceTrace, world, trace, point_add, direction_vertical, direction_scale]

theorem distanceHit_world :
    (placement.world surroundings).distanceHit index =
      placement.hit (surroundings.distanceHit index) := by
  rw [World.distanceHit, distanceTrace_world]
  change placement.hit (surroundings.trace _ (placement.untrace (placement.trace _))) = _
  rw [untrace_trace]
  rfl

/-- The height samples behind a placed obstacle are placed along. -/
theorem heightTrace_world :
    (placement.world surroundings).heightTrace (placement.hit obstacle) index =
      placement.trace (surroundings.heightTrace obstacle index) := by
  simp only [World.heightTrace, world, trace, hit, point_sub_vertical, point_add,
    direction_vertical, direction_diagonal]

theorem heightHit_world :
    (placement.world surroundings).heightHit (placement.hit obstacle) index =
      placement.hit (surroundings.heightHit obstacle index) := by
  rw [World.heightHit, heightTrace_world]
  change placement.hit (surroundings.trace _ (placement.untrace (placement.trace _))) = _
  rw [untrace_trace]
  rfl

/-- The landing traces are placed along. -/
theorem landHit_world :
    (placement.world surroundings).landHit (placement.hit obstacle) index =
      placement.hit (surroundings.landHit obstacle index) := by
  have placed : (placement.world surroundings).landTrace
        (placement.hit (surroundings.heightHit obstacle index)) =
      placement.trace (surroundings.landTrace (surroundings.heightHit obstacle index)) := by
    simp only [World.landTrace, world, trace, hit, point_sub_vertical, point_add,
      direction_diagonal]
  rw [World.landHit, heightHit_world, placed]
  change placement.hit (surroundings.trace _ (placement.untrace (placement.trace _))) = _
  rw [untrace_trace]
  rfl

end Surroundings

section Findings

variable (surroundings : World K) (obstacle : FHitResult K)

/-- What a call finds is placed with its surroundings. -/
theorem obstacle?_world :
    (placement.world surroundings).obstacle? = surroundings.obstacle?.map placement.hit := by
  have placed : (placement.world surroundings).distanceHit =
      placement.hit ∘ surroundings.distanceHit :=
    funext (placement.distanceHit_world surroundings)
  rw [World.obstacle?, placed, World.obstacle?, Option.map_map]
  rfl

@[simp] theorem blocked_world :
    (placement.world surroundings).blocked (placement.hit obstacle) =
      surroundings.blocked obstacle := by
  funext index
  rw [World.blocked, heightHit_world]
  rfl

@[simp] theorem lands_world :
    (placement.world surroundings).lands (placement.hit obstacle) =
      surroundings.lands obstacle := by
  funext index
  rw [World.lands, blocked_world, landHit_world]
  rfl

@[simp] theorem landing?_world :
    (placement.world surroundings).landing? (placement.hit obstacle) =
      surroundings.landing? obstacle := by
  rw [World.landing?, lands_world]
  rfl

@[simp] theorem blockedSamples_world :
    (placement.world surroundings).blockedSamples (placement.hit obstacle) =
      surroundings.blockedSamples obstacle := by
  rw [World.blockedSamples, World.sampled, lands_world, blocked_world]
  rfl

@[simp] theorem sampleLocation_world :
    (placement.world surroundings).sampleLocation (placement.hit obstacle) =
      placement.point ∘ surroundings.sampleLocation obstacle := by
  funext index
  rw [World.sampleLocation, heightHit_world]
  rfl

@[simp] theorem landLocation_world :
    (placement.world surroundings).landLocation (placement.hit obstacle) =
      placement.point ∘ surroundings.landLocation obstacle := by
  funext index
  rw [World.landLocation, landHit_world]
  rfl

/-- The positions that a call finds are placed with its surroundings. -/
theorem position?_world (name : MotionName) :
    (placement.world surroundings).position? name =
      (surroundings.position? name).map placement.point := by
  cases found : surroundings.obstacle? with
  | none => cases name <;> simp [World.position?, obstacle?_world, found]
  | some obstacle =>
      cases name with
      | vaultStart =>
          simp only [World.position?, obstacle?_world, found, Option.map_some, Option.bind_some,
            blocked_world, sampleLocation_world]
          split <;> rfl
      | vaultMiddle => simp [World.position?, obstacle?_world, found]
      | vaultLand => simp [World.position?, obstacle?_world, found]

/-- Climbing does not depend on the place. -/
theorem climbs_world : (placement.world surroundings).climbs ↔ surroundings.climbs := by
  rw [World.climbs, position?_world, Option.isSome_map, World.climbs]

variable [LinearOrder K] [ToFloat K]

/-- A landing is in reach wherever it is. -/
theorem inReach_world (location : FVector K) :
    (placement.world surroundings).inReach (placement.point location) =
      surroundings.inReach location := by
  have mesh : (placement.world surroundings).meshLocation.z = surroundings.meshLocation.z :=
    placement.point_z surroundings.meshLocation
  simp only [World.inReach, mesh, point_z]

/-- Whether a call starts a warp does not depend on the place. -/
theorem warps_world (canWarp : Bool) :
    (placement.world surroundings).warps canWarp = surroundings.warps canWarp := by
  have landsInReach :
      (placement.world surroundings).landsInReach ↔ surroundings.landsInReach := by
    simp only [World.landsInReach, position?_world, Option.mem_def, Option.map_eq_some_iff]
    constructor
    · rintro ⟨-, ⟨location, lands, rfl⟩, inReach⟩
      exact ⟨location, lands, (placement.inReach_world surroundings location).symm.trans inReach⟩
    · rintro ⟨location, lands, inReach⟩
      have inReachToo := (placement.inReach_world surroundings location).trans inReach
      exact ⟨_, ⟨location, lands, rfl⟩, inReachToo⟩
  rw [Bool.eq_iff_iff, World.warps_iff_landsInReach, World.warps_iff_landsInReach, landsInReach,
    climbs_world]

end Findings

section Things

/-- A component whose positions are somewhere else. -/
def component (component : VaultComponent K) : VaultComponent K :=
  { component with
    vaultStartPos := placement.point component.vaultStartPos
    vaultMiddlePos := placement.point component.vaultMiddlePos
    vaultLandPos := placement.point component.vaultLandPos }

/-- A warp target somewhere else. -/
def target (target : MotionWarpingTarget K) : MotionWarpingTarget K :=
  ⟨placement.point target.location, placement.rotation target.rotation⟩

/-- An owner whose warp targets are somewhere else. -/
def owner (owner : VaultOwner K) : VaultOwner K :=
  { owner with warpTargets := fun name => (owner.warpTargets name).map placement.target }

/-- A vaulting owner somewhere else. -/
def vaulting (state : Vaulting K) : Vaulting K :=
  { state with
    component := placement.component state.component
    owner := placement.owner state.owner }

/-- The same event somewhere else. -/
def event : VaultEvent K → VaultEvent K
  | .vault surroundings => .vault (placement.world surroundings)
  | .montageCompleted => .montageCompleted
  | .montageInterrupted => .montageInterrupted

/-- A placed warp has placed targets. -/
theorem startWarp_placed (surroundings : World K) (component : VaultComponent K)
    (owner : VaultOwner K) :
    VaultComponent.startWarp (placement.world surroundings) (placement.component component)
        (placement.owner owner) =
      placement.owner (VaultComponent.startWarp surroundings component owner) := by
  have targets : ∀ name,
      (VaultComponent.startWarp (placement.world surroundings) (placement.component component)
          (placement.owner owner)).warpTargets name =
        (placement.owner (VaultComponent.startWarp surroundings component owner)).warpTargets
          name := by
    intro name
    cases name <;> rfl
  exact congrArg (fun warpTargets =>
    { VaultComponent.startWarp surroundings component owner with warpTargets }) (funext targets)

end Things

end Placement

/-- A component with another landing position. -/
def VaultComponent.landingAt {K : Type*} (component : VaultComponent K)
    (vaultLandPos : FVector K) : VaultComponent K :=
  { component with vaultLandPos }

/-- A vaulting owner whose component has another landing position. -/
def Vaulting.landingAt {K : Type*} (state : Vaulting K) (vaultLandPos : FVector K) : Vaulting K :=
  { state with component := state.component.landingAt vaultLandPos }

namespace Placement

variable {K : Type*} [Field K] [LinearOrder K] [ToFloat K] (placement : Placement K)

/-- Placed components find placed positions, and where they do not land, they keep the
landing position they have. -/
theorem vault_component_placed (state : Vaulting K) (land : FVector K) (surroundings : World K) :
    (((placement.vaulting state).landingAt land).vault (placement.world surroundings)).component =
      (placement.component (state.vault surroundings).component).landingAt
        (((surroundings.position? .vaultLand).map placement.point).getD land) := by
  rw [Vaulting.vault_component_eq, Vaulting.vault_component_eq, obstacle?_world]
  cases found : surroundings.obstacle? with
  | none =>
      simp only [World.position?, found, Option.bind_none, Option.map_none, Option.getD_none]
      rfl
  | some obstacle =>
      have start : (if 0 ∈ surroundings.blockedSamples obstacle then
            placement.point (surroundings.sampleLocation obstacle 0)
          else placement.point state.component.vaultStartPos) =
          placement.point (if 0 ∈ surroundings.blockedSamples obstacle then
              surroundings.sampleLocation obstacle 0
            else state.component.vaultStartPos) := (apply_ite placement.point _ _ _).symm
      have middle : ((surroundings.blockedSamples obstacle).getLast?.map
              (placement.point ∘ surroundings.sampleLocation obstacle)).getD
            (placement.point state.component.vaultMiddlePos) =
          placement.point (((surroundings.blockedSamples obstacle).getLast?.map
            (surroundings.sampleLocation obstacle)).getD state.component.vaultMiddlePos) := by
        rw [← Option.map_map, Option.getD_map]
      simp only [World.position?, found, Option.bind_some, Option.map_some, Option.map_map,
        VaultComponent.explored, VaultComponent.takeSamples, blockedSamples_world,
        sampleLocation_world, landLocation_world, landing?_world]
      exact (VaultComponent.mk.injEq ..).mpr ⟨start, middle, rfl, rfl, rfl⟩

/-- A call somewhere else does the same to the owner, at the placed positions. -/
theorem vault_owner_placed (state : Vaulting K) (land : FVector K) (surroundings : World K) :
    let placed := ((placement.vaulting state).landingAt land).vault (placement.world surroundings)
    placed.owner = placement.owner (state.vault surroundings).owner ∧
      placed.inProgress = (state.vault surroundings).inProgress := by
  intro placed
  have alike : (placement.world surroundings).warps
      ((placement.vaulting state).landingAt land).component.canWarp =
        surroundings.warps state.component.canWarp :=
    placement.warps_world surroundings state.component.canWarp
  rcases state.vault_spec surroundings with
    ⟨warps, ownerHere, inProgressHere⟩ | ⟨stays, ownerHere, inProgressHere⟩
  · rcases ((placement.vaulting state).landingAt land).vault_spec
        (placement.world surroundings) with
      ⟨-, owner, inProgress⟩ | ⟨stays, -, -⟩
    · -- The call lands, so both components hold the landing that it finds.
      obtain ⟨⟨location, lands, -⟩, -⟩ := (surroundings.warps_iff_landsInReach _).mp warps
      have landing : (state.vault surroundings).component.vaultLandPos = location := by
        have written := (Vaulting.position_register .vaultLand).written state (.vault surroundings)
        exact written.trans (congrArg (Option.getD · _) lands)
      have component : placed.component =
          placement.component (state.vault surroundings).component := by
        rw [vault_component_placed, Option.mem_def.mp lands, ← landing]
        rfl
      rw [owner, inProgress, ownerHere, inProgressHere]
      refine ⟨?_, rfl⟩
      change VaultComponent.startWarp _ placed.component (placement.owner state.owner) = _
      rw [component, startWarp_placed]
    · rw [alike, warps] at stays
      contradiction
  · rcases ((placement.vaulting state).landingAt land).vault_spec
        (placement.world surroundings) with
      ⟨warps, -, -⟩ | ⟨-, owner, inProgress⟩
    · rw [alike, stays] at warps
      contradiction
    · rw [owner, inProgress, ownerHere, inProgressHere]
      exact ⟨rfl, rfl⟩

/-- A step somewhere else is the same step, but for the landing position. -/
theorem next_placed (state : Vaulting K) (land : FVector K) (event : VaultEvent K) :
    Vaulting.vaulting.next ((placement.vaulting state).landingAt land) (placement.event event) =
      (placement.vaulting (Vaulting.vaulting.next state event)).landingAt
        (((placement.event event).position? .vaultLand).getD land) := by
  cases event with
  | montageCompleted => rfl
  | montageInterrupted => rfl
  | vault surroundings =>
      have component := placement.vault_component_placed state land surroundings
      rw [← position?_world] at component
      obtain ⟨owner, inProgress⟩ := placement.vault_owner_placed state land surroundings
      exact (Vaulting.mk.injEq ..).mpr ⟨component, owner, inProgress⟩

/-- A run somewhere else is the same run, but for the landing position. -/
theorem run_placed (state : Vaulting K) (land : FVector K) (events : List (VaultEvent K)) :
    Vaulting.vaulting.run ((placement.vaulting state).landingAt land)
        (events.map placement.event) =
      (placement.vaulting (Vaulting.vaulting.run state events)).landingAt
        ((lastWritten (VaultEvent.position? .vaultLand)
          (events.map placement.event)).getD land) := by
  induction events generalizing state land with
  | nil => rfl
  | cons event rest inductionHypothesis =>
      rw [List.map_cons, run_cons, next_placed, inductionHypothesis, lastWritten_cons]
      cases lastWritten (VaultEvent.position? .vaultLand) (rest.map placement.event) <;> rfl

end Placement

namespace VaultEvent

variable {K : Type*} [Field K]

/-- A completion parks the landing position, and a call that lands takes it back. -/
def parks? : VaultEvent K → Option Bool
  | .vault surroundings =>
      if (surroundings.position? .vaultLand).isSome then some false else none
  | .montageCompleted => some true
  | .montageInterrupted => none

/-- A montage completed, and no call has landed since. -/
def Parked (events : List (VaultEvent K)) : Prop :=
  ∃ before after, events = before ++ .montageCompleted :: after ∧
    ∀ surroundings, .vault surroundings ∈ after → surroundings.position? .vaultLand = none

theorem parked_iff (events : List (VaultEvent K)) :
    Parked events ↔ lastWritten parks? events = some true := by
  have raises : ∀ event : VaultEvent K, event.parks? = some true ↔ event = .montageCompleted := by
    intro event
    cases event <;> simp [parks?]
  have lowers : ∀ event : VaultEvent K, event.parks? ≠ some false ↔
      ∀ surroundings, event = .vault surroundings → surroundings.position? .vaultLand = none := by
    intro event
    cases event <;> simp [parks?]
  have raised : (lastWritten parks? events).getD false = true ↔
      lastWritten parks? events = some true := by
    cases lastWritten parks? events <;> simp
  rw [← raised, lastWritten_getD_true_iff, Parked]
  simp only [raises, lowers, Bool.false_eq_true, false_and, or_false]
  constructor
  · rintro ⟨before, after, split, nowhere⟩
    refine ⟨before, _, after, split, rfl, ?_⟩
    rintro - member surroundings rfl
    exact nowhere surroundings member
  · rintro ⟨before, -, after, split, rfl, nowhere⟩
    exact ⟨before, after, split, fun surroundings member => nowhere _ member surroundings rfl⟩

end VaultEvent

namespace Placement

variable {K : Type*} [Field K] (placement : Placement K)

/-- The last landing position written is parked in both worlds, or placed. -/
theorem lastWritten_land_placed (events : List (VaultEvent K)) :
    let here := lastWritten (VaultEvent.position? .vaultLand) events
    let there := lastWritten (VaultEvent.position? .vaultLand) (events.map placement.event)
    (here = none ∧ there = none ∧ lastWritten VaultEvent.parks? events = none) ∨
      (here = some ⟨0, 0, 20000⟩ ∧ there = some ⟨0, 0, 20000⟩ ∧
        lastWritten VaultEvent.parks? events = some true) ∨
      ∃ location, here = some location ∧ there = some (placement.point location) ∧
        lastWritten VaultEvent.parks? events = some false := by
  induction events with
  | nil => exact .inl ⟨rfl, rfl, rfl⟩
  | cons event rest inductionHypothesis =>
      simp only [List.map_cons, lastWritten_cons]
      rcases inductionHypothesis with ⟨here, there, parks⟩ | ⟨here, there, parks⟩ |
        ⟨location, here, there, parks⟩
      · rw [here, there, parks]
        cases event with
        | montageCompleted => exact .inr (.inl ⟨rfl, rfl, rfl⟩)
        | montageInterrupted => exact .inl ⟨rfl, rfl, rfl⟩
        | vault surroundings =>
            have placed := placement.position?_world surroundings .vaultLand
            simp only [event, VaultEvent.position?, VaultEvent.parks?, placed, Option.none_or]
            cases surroundings.position? .vaultLand with
            | none => exact .inl ⟨rfl, rfl, rfl⟩
            | some location => exact .inr (.inr ⟨location, rfl, rfl, rfl⟩)
      · rw [here, there, parks]
        exact .inr (.inl ⟨rfl, rfl, rfl⟩)
      · rw [here, there, parks]
        exact .inr (.inr ⟨location, rfl, rfl, rfl⟩)

variable [LinearOrder K] [ToFloat K]

/-- Turned and shifted as a whole, every run of calls and callbacks does the same to the
owner, finds the same start and middle, may warp in the same states and has the same warps
in progress, at the placed positions. The landing position is placed with them exactly when
nothing is shifted or no completion has parked it. -/
theorem vaulting_placed (start : Vaulting K) (events : List (VaultEvent K)) :
    let here := Vaulting.vaulting.run start events
    let there := Vaulting.vaulting.run (placement.vaulting start) (events.map placement.event)
    there.owner = placement.owner here.owner ∧
      there.inProgress = here.inProgress ∧
      there.component.canWarp = here.component.canWarp ∧
      (∀ name ≠ .vaultLand,
        there.component.position name = placement.point (here.component.position name)) ∧
      (there.component.vaultLandPos = placement.point here.component.vaultLandPos ↔
        placement.offset = 0 ∨ ¬ VaultEvent.Parked events) := by
  intro here there
  have run := placement.run_placed start (placement.point start.component.vaultLandPos) events
  have placed : there = (placement.vaulting here).landingAt
      ((lastWritten (VaultEvent.position? .vaultLand) (events.map placement.event)).getD
        (placement.point start.component.vaultLandPos)) := run
  have land : here.component.vaultLandPos =
      (lastWritten (VaultEvent.position? .vaultLand) events).getD start.component.vaultLandPos :=
    (Vaulting.position_register .vaultLand).run start events
  refine ⟨by rw [placed]; rfl, by rw [placed]; rfl, by rw [placed]; rfl, ?_, ?_⟩
  · rintro name elsewhere
    rw [placed]
    cases name with
    | vaultStart => rfl
    | vaultMiddle => rfl
    | vaultLand => contradiction
  · have placedLand : there.component.vaultLandPos =
        (lastWritten (VaultEvent.position? .vaultLand) (events.map placement.event)).getD
          (placement.point start.component.vaultLandPos) :=
      congrArg (·.component.vaultLandPos) placed
    rw [placedLand, land, VaultEvent.parked_iff]
    rcases placement.lastWritten_land_placed events with ⟨here, there, parks⟩ |
      ⟨here, there, parks⟩ | ⟨location, here, there, parks⟩
    · rw [here, there, parks]
      simp
    · rw [here, there, parks]
      have parked := placement.point_vertical_eq_iff 20000
      simpa [eq_comm] using parked
    · rw [here, there, parks]
      simp

/-- A vault a thousand units further on lands a thousand units further on, and what it
leaves behind when it completes does not. -/
theorem vaulting_placed_further :
    let further : Placement ℚ := ⟨.ahead, 0, ⟨1000, 0, 0⟩, rfl⟩
    let start : Vaulting ℚ := ⟨.construct 0 0 0 (some ⟨"Vault"⟩), Vaulting.standing, []⟩
    let vault : VaultEvent ℚ := .vault (Vaulting.course 0 [0])
    (Vaulting.vaulting.run (further.vaulting start) ([vault].map further.event)).owner =
        further.owner (Vaulting.vaulting.run start [vault]).owner ∧
      (Vaulting.vaulting.run (further.vaulting start)
          ([vault, .montageCompleted].map further.event)).component.vaultLandPos ≠
        further.point
          (Vaulting.vaulting.run start [vault, .montageCompleted]).component.vaultLandPos := by
  intro further start vault
  refine ⟨(further.vaulting_placed start [vault]).1, fun placed => ?_⟩
  rcases (further.vaulting_placed start [vault, .montageCompleted]).2.2.2.2.mp placed with
    still | landed
  · exact absurd (congrArg FVector.x still) (by decide +kernel)
  · exact landed ⟨[vault], [], rfl, fun _ member => absurd member List.not_mem_nil⟩

end Placement

end RPGLearnGame
