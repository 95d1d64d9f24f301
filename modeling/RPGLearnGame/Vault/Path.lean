import RPGLearnGame.Vault.Runs
import Mathlib.Algebra.Order.Group.Unbundled.Abs
import Mathlib.Tactic.Linarith
import Mathlib.Tactic.LinearCombination
import Mathlib.Tactic.NormNum
import Mathlib.Tactic.Ring

/-!
# The path of a warp

In surroundings that report their hits truthfully, every height sample and every
landing trace is vertical, so how far a hit lies ahead of the obstacle depends only on
the index of the sample. The scan passes its samples in order and lands behind all of
them. A warp whose first sample was blocked therefore goes forward, clears its last
blocked sample and lands within reach of the feet. The reach is measured in `float`s,
which lets a landing lie out of it by what the conversions lose.
-/

namespace RPGLearnGame

open SearchLoop

namespace FVector

variable {K : Type*} [Field K]

/-- `FVector::DotProduct`. -/
def dot (a b : FVector K) : K := a.x * b.x + a.y * b.y + a.z * b.z

theorem add_dot (a b d : FVector K) : (a + b).dot d = a.dot d + b.dot d := by
  change (a.x + b.x) * d.x + (a.y + b.y) * d.y + (a.z + b.z) * d.z = _
  unfold dot
  ring

theorem sub_dot (a b d : FVector K) : (a - b).dot d = a.dot d - b.dot d := by
  change (a.x - b.x) * d.x + (a.y - b.y) * d.y + (a.z - b.z) * d.z = _
  unfold dot
  ring

theorem scale_dot (a d : FVector K) (k : K) : (a.scale k).dot d = k * a.dot d := by
  unfold scale dot
  ring

/-- A product with three equal factors is a product with a number. -/
theorem mul_diagonal (a : FVector K) (k : K) : a * ⟨k, k, k⟩ = a.scale k := rfl

/-- A vertical vector has no part along a horizontal direction. -/
theorem vertical_dot {d : FVector K} (horizontal : d.z = 0) (height : K) :
    (⟨0, 0, height⟩ : FVector K).dot d = 0 := by
  simp [dot, horizontal]

end FVector

namespace Trace

variable {K : Type*} [Field K]

/-- The point of a trace's segment at a part of its length. -/
def along (request : Trace K) (part : K) : FVector K :=
  request.traceStart + (request.traceEnd - request.traceStart).scale part

variable [LinearOrder K]

/-- A location lies on the traced segment. -/
def OnSegment (request : Trace K) (location : FVector K) : Prop :=
  ∃ part, 0 ≤ part ∧ part ≤ 1 ∧ location = request.along part

/-- A segment across a direction is as far along it as its start. -/
theorem OnSegment.dot_eq {request : Trace K} {location d : FVector K}
    (onSegment : request.OnSegment location)
    (across : (request.traceEnd - request.traceStart).dot d = 0) :
    location.dot d = request.traceStart.dot d := by
  obtain ⟨part, -, -, rfl⟩ := onSegment
  rw [along, FVector.add_dot, FVector.scale_dot, across, mul_zero, add_zero]

end Trace

namespace World

variable {K : Type*} [Field K] [LinearOrder K]

/-- What a call may take for granted: a horizontal unit direction, blocking traces that
hit on their segment, and free height samples that report where they started. -/
structure Truthful (world : World K) : Prop where
  horizontal : world.forward.z = 0
  unit : world.forward.x ^ 2 + world.forward.y ^ 2 = 1
  onSegment : ∀ probe request, (world.trace probe request).bBlockingHit = true →
    request.OnSegment (world.trace probe request).location
  ownStart : ∀ index request, (world.trace (.height index) request).bBlockingHit = false →
    (world.trace (.height index) request).traceStart = request.traceStart

section Truthful

variable {world : World K} (truthful : world.Truthful) (obstacle : FHitResult K)
include truthful

theorem Truthful.forward_dot : world.forward.dot world.forward = 1 := by
  have unit := truthful.unit
  rw [FVector.dot, truthful.horizontal]
  linear_combination unit

/-- A height sample starts fifty units further ahead for each index. -/
theorem Truthful.heightTrace_dot (index : ℕ) :
    (world.heightTrace obstacle index).traceStart.dot world.forward =
      obstacle.location.dot world.forward + (index * 50 : ℕ) := by
  simp only [heightTrace, FVector.add_dot, FVector.mul_diagonal, FVector.scale_dot,
    FVector.vertical_dot truthful.horizontal, truthful.forward_dot, add_zero, mul_one]

/-- A blocked sample hits as far ahead as it starts. -/
theorem Truthful.sampleLocation_dot {index : ℕ} (blocked : world.blocked obstacle index = true) :
    (world.sampleLocation obstacle index).dot world.forward =
      obstacle.location.dot world.forward + (index * 50 : ℕ) := by
  have onSegment := truthful.onSegment _ _ blocked
  rw [← truthful.heightTrace_dot]
  refine onSegment.dot_eq ?_
  simp only [heightTrace, FVector.sub_dot, FVector.vertical_dot truthful.horizontal]
  ring

/-- A landing lies eighty units ahead of the free sample it was found from. -/
theorem Truthful.landLocation_dot {index : ℕ} (lands : world.lands obstacle index = true) :
    (world.landLocation obstacle index).dot world.forward =
      obstacle.location.dot world.forward + (index * 50 : ℕ) + 80 := by
  obtain ⟨free, ground⟩ : world.blocked obstacle index = false ∧
      (world.landHit obstacle index).bBlockingHit = true := by
    simpa [World.lands] using lands
  have started : (world.heightHit obstacle index).traceStart =
      (world.heightTrace obstacle index).traceStart := truthful.ownStart _ _ free
  have onSegment := truthful.onSegment _ _ ground
  have start : (world.landTrace (world.heightHit obstacle index)).traceStart.dot world.forward =
      obstacle.location.dot world.forward + (index * 50 : ℕ) + 80 := by
    simp only [landTrace, started, FVector.add_dot, FVector.mul_diagonal, FVector.scale_dot,
      truthful.forward_dot, mul_one, truthful.heightTrace_dot]
  rw [← start]
  refine onSegment.dot_eq ?_
  simp only [landTrace, FVector.sub_dot, FVector.vertical_dot truthful.horizontal]
  ring

end Truthful

variable (world : World K) (obstacle : FHitResult K)

omit [LinearOrder K] in
/-- Every sample that the scan passes comes before the one it lands from. -/
theorem lt_landing_of_mem_sampled {landing index : ℕ}
    (ground : world.landing? obstacle = some landing)
    (member : index ∈ world.sampled obstacle) : index < landing :=
  passed_before_match (world.lands obstacle) List.pairwise_lt_range ground index member

omit [LinearOrder K] in
/-- A landing is one of the six samples, and it lands. -/
theorem landing_spec {landing : ℕ} (ground : world.landing? obstacle = some landing) :
    landing ≤ 5 ∧ world.lands obstacle landing = true := by
  have member := List.mem_range.mp (List.mem_of_find?_eq_some ground)
  exact ⟨by omega, List.find?_some ground⟩

section Reach

variable [FloorRing K]

/-- A number is a `float`. -/
def IsFloat (height : K) : Prop := toFloat height = WithBot.some (WithTop.some height)

/-- The three positions of a component lead forward over an obstacle and down to the
height of the feet, as exactly as `float`s tell it. -/
structure LeadsForward (component : VaultComponent K) : Prop where
  middle : 0 ≤ (component.vaultMiddlePos - component.vaultStartPos).dot world.forward
  land : 130 ≤ (component.vaultLandPos - component.vaultMiddlePos).dot world.forward
  reach : (component.vaultLandPos - component.vaultStartPos).dot world.forward ≤ 330
  feet : |component.vaultLandPos.z - world.meshLocation.z| ≤
    50 + (|component.vaultLandPos.z| + |world.meshLocation.z| + 51) / 2 ^ 24
  feet_of_isFloat : IsFloat (world.meshLocation.z - 50) → IsFloat (world.meshLocation.z + 50) →
    IsFloat component.vaultLandPos.z → |component.vaultLandPos.z - world.meshLocation.z| ≤ 50

variable {world} [IsStrictOrderedRing K]

omit [FloorRing K] in
/-- Conversions lose no more than the last of twenty-four bits. -/
theorem slack_le (height : K) :
    BinaryFormat.binary32.slack height ≤ (|height| + 1 / 2) / 2 ^ 24 := by
  have least : (BinaryFormat.twoPow BinaryFormat.binary32.minExponent : K) ≤ 1 / 2 := by
    calc (BinaryFormat.twoPow BinaryFormat.binary32.minExponent : K)
        ≤ BinaryFormat.twoPow (-1) := BinaryFormat.twoPow_mono (by decide)
      _ = 1 / 2 := by simp [BinaryFormat.twoPow]
  have bits : (BinaryFormat.twoPow (-BinaryFormat.binary32.precision) : K) = 1 / 2 ^ 24 := by
    simp [BinaryFormat.twoPow, BinaryFormat.binary32, zpow_neg, zpow_ofNat]
  rw [BinaryFormat.slack, bits, mul_one_div]
  gcongr

/-- A landing whose `float` is in reach is in reach up to what the conversions lose. -/
theorem abs_sub_le_of_inReach (range : |world.meshLocation.z| + 50 < 2 ^ 127)
    {location : FVector K} (inReach : world.inReach location = true) :
    |location.z - world.meshLocation.z| ≤
      50 + (|location.z| + |world.meshLocation.z| + 51) / 2 ^ 24 := by
  simp only [World.inReach, inRange_FloatFloat, Bool.and_eq_true, decide_eq_true_eq] at inReach
  have greatest : (BinaryFormat.twoPow BinaryFormat.binary32.maxExponent : K) = 2 ^ 127 := by
    simp [BinaryFormat.twoPow, BinaryFormat.binary32, zpow_ofNat]
  have fifty : |(50 : K)| = 50 := abs_of_pos (by norm_num)
  have lower : |world.meshLocation.z - 50| ≤ |world.meshLocation.z| + 50 :=
    (abs_sub _ _).trans_eq (by rw [fifty])
  have upper : |world.meshLocation.z + 50| ≤ |world.meshLocation.z| + 50 :=
    (abs_add_le _ _).trans_eq (by rw [fifty])
  obtain ⟨above, below⟩ := BinaryFormat.binary32.nearest_le_of_convert_le
    ((lower.trans_lt range).trans_eq greatest.symm) ((upper.trans_lt range).trans_eq greatest.symm)
    inReach.1 inReach.2
  have fromBelow := BinaryFormat.binary32.sub_le_of_nearest_le above
  have fromAbove := BinaryFormat.binary32.sub_le_of_nearest_le below
  have landSlack := slack_le location.z
  have lowerSlack := slack_le (world.meshLocation.z - 50)
  have upperSlack := slack_le (world.meshLocation.z + 50)
  exact abs_sub_le_iff.mpr ⟨by linarith, by linarith⟩

/-- Among `float`s the check of the reach is exact. -/
theorem abs_sub_le_of_isFloat {location : FVector K} (inReach : world.inReach location = true)
    (lower : IsFloat (world.meshLocation.z - 50)) (upper : IsFloat (world.meshLocation.z + 50))
    (landing : IsFloat location.z) : |location.z - world.meshLocation.z| ≤ 50 := by
  simp only [World.inReach, inRange_FloatFloat, Bool.and_eq_true, decide_eq_true_eq] at inReach
  rw [IsFloat] at lower upper landing
  rw [lower, upper, landing] at inReach
  obtain ⟨above, below⟩ := inReach
  have least : world.meshLocation.z - 50 ≤ location.z :=
    WithTop.coe_le_coe.mp (WithBot.coe_le_coe.mp above)
  have greatest : location.z ≤ world.meshLocation.z + 50 :=
    WithTop.coe_le_coe.mp (WithBot.coe_le_coe.mp below)
  exact abs_sub_le_iff.mpr ⟨by linarith, by linarith⟩

end Reach

end World

namespace Action

variable {K : Type*}

/-- The height sample that a trace finds blocked. -/
def blockedSample? : Action K → Option ℕ
  | .traced (.height index) _ answer => if answer.bBlockingHit then some index else none
  | _ => none

/-- A call of `VaultMotionWarp()`. -/
def isMotionWarp : Action K → Bool
  | .traced _ _ _ => false
  | .motionWarp _ => true

end Action

section Log

variable {K : Type*}

/-- The height samples that a call's traces find blocked. -/
def blockedIn (log : List (Action K)) : List ℕ := log.filterMap Action.blockedSample?

/-- How often a call invokes `VaultMotionWarp()`. -/
def motionWarps (log : List (Action K)) : ℕ := log.countP Action.isMotionWarp

@[simp] theorem blockedIn_append (first second : List (Action K)) :
    blockedIn (first ++ second) = blockedIn first ++ blockedIn second :=
  List.filterMap_append

@[simp] theorem motionWarps_append (first second : List (Action K)) :
    motionWarps (first ++ second) = motionWarps first + motionWarps second :=
  List.countP_append

end Log

namespace VaultComponent

variable {K : Type*} [Field K] (world : World K) (obstacle : FHitResult K)

/-- The approach samples no heights and asks for no warp. -/
theorem approachLog_silent :
    blockedIn (approachLog world) = [] ∧ motionWarps (approachLog world) = 0 := by
  constructor
  · rw [blockedIn, List.filterMap_eq_nil_iff]
    intro action member
    obtain ⟨index, rfl⟩ : ∃ index, world.distanceTraced index = action := by
      rcases List.mem_append.mp member with member | member
      · obtain ⟨index, -, traced⟩ := List.mem_map.mp member
        exact ⟨index, traced⟩
      · obtain ⟨index, -, traced⟩ := List.mem_map.mp member
        exact ⟨index, traced⟩
    rfl
  · simp [motionWarps, approachLog, World.distanceTraced, Action.isMotionWarp,
      Function.comp_def]

/-- The scan finds its blocked samples blocked and asks for no warp. -/
theorem heightStepLog_silent (indices : List ℕ) :
    blockedIn (indices.flatMap (heightStepLog world obstacle)) =
        indices.filter (world.blocked obstacle) ∧
      motionWarps (indices.flatMap (heightStepLog world obstacle)) = 0 := by
  induction indices with
  | nil => exact ⟨rfl, rfl⟩
  | cons index rest inductionHypothesis =>
      obtain ⟨blockedLater, silentLater⟩ := inductionHypothesis
      rw [List.flatMap_cons, blockedIn_append, motionWarps_append, blockedLater, silentLater]
      cases blockedHere : world.blocked obstacle index with
      | true =>
          have hit : (world.heightHit obstacle index).bBlockingHit = true := blockedHere
          rw [List.filter_cons_of_pos blockedHere]
          simp [heightStepLog, blockedHere, hit, blockedIn, motionWarps, World.heightTraced,
            Action.blockedSample?, Action.isMotionWarp]
      | false =>
          have hit : (world.heightHit obstacle index).bBlockingHit = false := blockedHere
          rw [List.filter_cons_of_neg (by simp [blockedHere])]
          simp [heightStepLog, blockedHere, hit, blockedIn, motionWarps, World.heightTraced,
            World.landTraced, Action.blockedSample?, Action.isMotionWarp]

variable {world} {obstacle} {component : VaultComponent K} {owner : VaultOwner K}

/-- A call that lands finds the blocked samples of its scan and asks for one warp. -/
theorem vault_log_spec [LinearOrder K] [ToFloat K] (found : world.obstacle? = some obstacle)
    {landing : ℕ}
    (ground : world.landing? obstacle = some landing) :
    blockedIn (vault world component owner).log = world.blockedSamples obstacle ∧
      motionWarps (vault world component owner).log = 1 := by
  obtain ⟨approachBlocks, approachAsks⟩ := approachLog_silent world
  obtain ⟨scanBlocks, scanAsks⟩ := heightStepLog_silent world obstacle (world.sampled obstacle)
  have free : (world.heightHit obstacle landing).bBlockingHit = false := by
    have lands := (world.landing_spec obstacle ground).2
    simp only [World.lands, World.blocked, Bool.and_eq_true, Bool.not_eq_true'] at lands
    exact lands.1
  have landBlocks : blockedIn
      [world.heightTraced obstacle landing, world.landTraced obstacle landing] = [] := by
    simp [blockedIn, World.heightTraced, World.landTraced, Action.blockedSample?, free]
  have logged : ∀ started : Bool,
      blockedIn (approachLog world ++
            (world.sampled obstacle).flatMap (heightStepLog world obstacle) ++
            [world.heightTraced obstacle landing, world.landTraced obstacle landing] ++
            [.motionWarp started]) = world.blockedSamples obstacle ∧
        motionWarps (approachLog world ++
            (world.sampled obstacle).flatMap (heightStepLog world obstacle) ++
            [world.heightTraced obstacle landing, world.landTraced obstacle landing] ++
            [.motionWarp started]) = 1 := by
    intro started
    simp only [blockedIn_append, motionWarps_append, approachBlocks, approachAsks, scanBlocks,
      scanAsks, landBlocks]
    exact ⟨by simp [blockedIn, Action.blockedSample?, World.blockedSamples], rfl⟩
  rw [vault_of_landing found ground, vaultMotionWarp_eq]
  split
  · exact logged _
  · exact logged _

variable [LinearOrder K] [FloorRing K] [IsStrictOrderedRing K]

/-- A scan that blocks its first sample and lands in reach leads forward. -/
theorem explored_leadsForward (truthful : world.Truthful)
    (range : |world.meshLocation.z| + 50 < 2 ^ 127)
    (blockedFirst : 0 ∈ world.blockedSamples obstacle) {landing : ℕ}
    (ground : world.landing? obstacle = some landing)
    (inReach : world.inReach (world.landLocation obstacle landing) = true) :
    world.LeadsForward (component.explored world obstacle) := by
  obtain ⟨last, isLast⟩ : ∃ last, (world.blockedSamples obstacle).getLast? = some last :=
    Option.ne_none_iff_exists'.mp fun none =>
      List.ne_nil_of_mem blockedFirst (List.getLast?_eq_none_iff.mp none)
  obtain ⟨passed, blockedLast⟩ := List.mem_filter.mp (List.mem_of_getLast? isLast)
  obtain ⟨atMostFive, lands⟩ := world.landing_spec obstacle ground
  -- The scan passed its last blocked sample before the one it lands from.
  have before := world.lt_landing_of_mem_sampled obstacle ground passed
  have startPos : (component.explored world obstacle).vaultStartPos =
      world.sampleLocation obstacle 0 := if_pos blockedFirst
  have middlePos : (component.explored world obstacle).vaultMiddlePos =
      world.sampleLocation obstacle last := by
    simp [explored, takeSamples, isLast]
  have landPos := explored_vaultLandPos world obstacle component ground
  have startDot := truthful.sampleLocation_dot obstacle
    ((world.zero_mem_blockedSamples obstacle).mp blockedFirst)
  have middleDot := truthful.sampleLocation_dot obstacle blockedLast
  have landDot := truthful.landLocation_dot obstacle lands
  have clears : (last : K) + 1 ≤ landing := by exact_mod_cast before
  have near : (landing : K) ≤ 5 := by exact_mod_cast atMostFive
  have ahead : (0 : K) ≤ last := Nat.cast_nonneg last
  push_cast at startDot middleDot landDot
  refine ⟨?_, ?_, ?_, ?_, ?_⟩
  · rw [startPos, middlePos, FVector.sub_dot, startDot, middleDot]
    linarith
  · rw [middlePos, landPos, FVector.sub_dot, middleDot, landDot]
    linarith
  · rw [startPos, landPos, FVector.sub_dot, startDot, landDot]
    linarith
  · rw [landPos]
    exact World.abs_sub_le_of_inReach range inReach
  · rw [landPos]
    exact World.abs_sub_le_of_isFloat inReach

/-- In truthful surroundings, a call that starts a warp and finds its first height sample
blocked asks for exactly one warp, leads forward, and sends the owner where it leads. -/
theorem vault_leadsForward (truthful : world.Truthful)
    (range : |world.meshLocation.z| + 50 < 2 ^ 127) (component : VaultComponent K)
    (owner : VaultOwner K) (starts : startsWarp (vault world component owner).log = true)
    (blockedFirst : 0 ∈ blockedIn (vault world component owner).log) :
    motionWarps (vault world component owner).log = 1 ∧
      world.LeadsForward (vault world component owner).component ∧
      ∀ name, (vault world component owner).owner.warpTargets name =
        some ⟨(vault world component owner).component.position name, world.actorRotation⟩ := by
  rcases vault_cases world component owner with ⟨warps, -, registers⟩ | ⟨-, stays, -⟩
  · obtain ⟨obstacle, found, landing, ground, -, inReach⟩ := (world.warps_iff _).mp warps
    obtain ⟨blocks, once⟩ := vault_log_spec found ground
    rw [blocks] at blockedFirst
    refine ⟨once, ?_, fun name => ?_⟩
    · rw [vault_component, found]
      exact explored_leadsForward truthful range blockedFirst ground inReach
    · rw [registers, startWarp_warpTargets]
  · exact absurd (stays.symm.trans starts) Bool.false_ne_true

/-- A hurdle across the direction (3/5, 4/5), at some height: every trace hits on its segment,
the listed height samples are blocked, and the ground behind it lies ninety units below. -/
def hurdle (blocked : List ℕ) (height meshHeight : ℚ) : World ℚ where
  actorLocation := ⟨0, 0, height⟩
  actorRotation := ⟨0, 53, 0⟩
  forward := ⟨3 / 5, 4 / 5, 0⟩
  meshLocation := ⟨0, 0, meshHeight⟩
  trace
    | .distance _, request => ⟨true, request.along (1 / 2), request.traceStart⟩
    | .height index, request =>
        ⟨decide (index ∈ blocked), request.along (1 / 2), request.traceStart⟩
    | .land _, request => ⟨true, request.along (19 / 100), request.traceStart⟩
  canPlayMontage := true

theorem hurdle_truthful (blocked : List ℕ) (height meshHeight : ℚ) :
    (hurdle blocked height meshHeight).Truthful where
  horizontal := rfl
  unit := by norm_num [hurdle]
  onSegment := by
    intro probe request _
    cases probe with
    | distance => exact ⟨1 / 2, by norm_num, by norm_num, rfl⟩
    | height => exact ⟨1 / 2, by norm_num, by norm_num, rfl⟩
    | land => exact ⟨19 / 100, by norm_num, by norm_num, rfl⟩
  ownStart := fun _ _ _ => rfl

/-- Over a hurdle three samples deep. -/
theorem vault_leadsForward_hurdle :
    motionWarps (vault (hurdle [0, 1, 2] 0 (-90)) (construct 0 0 0) Vaulting.standing).log = 1 ∧
      (hurdle [0, 1, 2] 0 (-90)).LeadsForward
        (vault (hurdle [0, 1, 2] 0 (-90)) (construct 0 0 0) Vaulting.standing).component := by
  have leads := vault_leadsForward (hurdle_truthful [0, 1, 2] 0 (-90)) (by decide +kernel)
    (construct 0 0 0) Vaulting.standing (by decide +kernel) (by decide +kernel)
  exact ⟨leads.1, leads.2.1⟩

/-- A hurdle whose ground lies a millionth of a unit more than fifty above the mesh. -/
def marginal : World ℚ := hurdle [0] 0 (-(140 + 1 / 2 ^ 20))

/-- A hurdle whose ground lies far above the mesh, both beyond the greatest `float`. -/
def outlying : World ℚ := hurdle [0] (2 ^ 130) (2 ^ 129)

/-- Out of reach by less than a `float` can tell, a warp starts all the same. So it does a whole
power of two away, where no height is a finite `float` any more. -/
theorem warp_beyond_reach :
    (marginal.Truthful ∧
      startsWarp (vault marginal (construct 0 0 0) Vaulting.standing).log = true ∧
      0 ∈ blockedIn (vault marginal (construct 0 0 0) Vaulting.standing).log ∧
      |(vault marginal (construct 0 0 0) Vaulting.standing).component.vaultLandPos.z -
        marginal.meshLocation.z| = 50 + 1 / 2 ^ 20) ∧
    outlying.Truthful ∧
      startsWarp (vault outlying (construct 0 0 0) Vaulting.standing).log = true ∧
      0 ∈ blockedIn (vault outlying (construct 0 0 0) Vaulting.standing).log ∧
      2 ^ 128 < |(vault outlying (construct 0 0 0) Vaulting.standing).component.vaultLandPos.z -
        outlying.meshLocation.z| :=
  ⟨⟨hurdle_truthful _ _ _, by decide +kernel⟩, hurdle_truthful _ _ _, by decide +kernel⟩

end VaultComponent

end RPGLearnGame
