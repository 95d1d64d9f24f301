import RPGLearnGame.Vault.Runs
import Mathlib.Data.List.Nodup
import Mathlib.Data.List.Perm.Subperm

/-!
# The traces of a vault call

What a call asks of the world, and in which order. The distance traces come first, up to
the obstacle; the height traces follow, each free one with its landing trace, up to the
landing; the motion warp comes last. A call makes exactly the traces that the hits before
them call for, and none of them twice.
-/

namespace RPGLearnGame

open SearchLoop

namespace Action

variable {K : Type*}

/-- The place of an action in a call. -/
def rank : Action K → ℕ
  | .traced (.distance index) _ _ => index
  | .traced (.height index) _ _ => 3 + 2 * index
  | .traced (.land index) _ _ => 4 + 2 * index
  | .motionWarp _ => 15

/-- One action comes before another in a call. -/
def Before (first second : Action K) : Prop := first.rank < second.rank

end Action

namespace World

variable {K : Type*} [Field K] [LinearOrder K] [ToFloat K] (world : World K)

/-- What the hits call for: a distance trace as long as the earlier ones are free, a height
trace above the obstacle as long as no earlier sample lands, a landing trace beyond it when
the sample is free, and a motion warp at a landing. -/
def CallsFor (canWarp : Bool) : Action K → Prop
  | .traced (.distance index) request answer =>
      (index < 3 ∧ ∀ earlier < index, (world.distanceHit earlier).bBlockingHit = false) ∧
        request = world.distanceTrace index ∧ answer = world.distanceHit index
  | .traced (.height index) request answer =>
      ∃ obstacle ∈ world.obstacle?,
        (index < 6 ∧ ∀ earlier < index, world.lands obstacle earlier = false) ∧
          request = world.heightTrace obstacle index ∧ answer = world.heightHit obstacle index
  | .traced (.land index) request answer =>
      ∃ obstacle ∈ world.obstacle?,
        (index < 6 ∧ ∀ earlier < index, world.lands obstacle earlier = false) ∧
          world.blocked obstacle index = false ∧
            request = world.landTrace (world.heightHit obstacle index) ∧
              answer = world.landHit obstacle index
  | .motionWarp started =>
      (∃ obstacle ∈ world.obstacle?, (world.landing? obstacle).isSome = true) ∧
        started = world.warps canWarp

omit [LinearOrder K] [ToFloat K]

/-- The distance traces that a call makes. -/
def approached : List ℕ :=
  visited (fun index => (world.distanceHit index).bBlockingHit) (List.range 3)

/-- The height samples that a call takes. -/
def scanned (obstacle : FHitResult K) : List ℕ := visited (world.lands obstacle) (List.range 6)

end World

namespace VaultComponent

variable {K : Type*} [Field K] (world : World K)

/-- The traces on the way to the obstacle. -/
theorem approachLog_eq : approachLog world = world.approached.map world.distanceTraced := by
  rw [World.approached, visited, List.map_append]
  rfl

/-- The traces behind an obstacle, the landing included. -/
theorem scanned_flatMap (obstacle : FHitResult K) :
    (world.scanned obstacle).flatMap (heightStepLog world obstacle) =
      (world.sampled obstacle).flatMap (heightStepLog world obstacle) ++
        (world.landing? obstacle).toList.flatMap fun landing =>
          [world.heightTraced obstacle landing, world.landTraced obstacle landing] := by
  rw [World.scanned, visited, List.flatMap_append]
  refine congrArg _ ?_
  change (world.landing? obstacle).toList.flatMap _ = _
  cases ground : world.landing? obstacle with
  | none => rfl
  | some landing =>
      have lands := List.find?_some ground
      have free : world.blocked obstacle landing = false := by
        simpa using (Bool.and_eq_true_iff.mp lands).1
      simp [heightStepLog, free]

/-- The traces of one sample are a height trace and, when it is free, a landing trace. -/
theorem mem_heightStepLog_iff (obstacle : FHitResult K) (index : ℕ) (action : Action K) :
    action ∈ heightStepLog world obstacle index ↔
      action = world.heightTraced obstacle index ∨
        world.blocked obstacle index = false ∧ action = world.landTraced obstacle index := by
  unfold heightStepLog
  cases world.blocked obstacle index <;> simp

/-- The traces of one sample come after those of the samples before it. -/
theorem heightStepLog_rank {obstacle : FHitResult K} {index : ℕ} {action : Action K}
    (member : action ∈ heightStepLog world obstacle index) :
    3 + 2 * index ≤ action.rank ∧ action.rank ≤ 4 + 2 * index := by
  rcases (mem_heightStepLog_iff world obstacle index action).mp member with rfl | ⟨-, rfl⟩
  · constructor
    · exact le_rfl
    · change 3 + 2 * index ≤ 4 + 2 * index
      omega
  · constructor
    · change 3 + 2 * index ≤ 4 + 2 * index
      omega
    · exact le_rfl

variable [LinearOrder K] [ToFloat K]

/-- The log of a call: its distance traces, the traces behind the obstacle, and a motion
warp at a landing. -/
theorem vault_log_eq (component : VaultComponent K) (owner : VaultOwner K) :
    (vault world component owner).log =
      world.approached.map world.distanceTraced ++
        world.obstacle?.toList.flatMap fun obstacle =>
          (world.scanned obstacle).flatMap (heightStepLog world obstacle) ++
            (world.landing? obstacle).toList.map fun _ =>
              .motionWarp (world.warps component.canWarp) := by
  rw [← approachLog_eq]
  cases found : world.obstacle? with
  | none =>
      rw [vault_of_no_obstacle found]
      simp
  | some obstacle =>
      cases ground : world.landing? obstacle with
      | none =>
          rw [vault_of_no_landing found ground]
          simp [scanned_flatMap, ground]
      | some landing =>
          have asks : world.warps component.canWarp =
              ((component.explored world obstacle).canWarp &&
                world.inReach (component.explored world obstacle).vaultLandPos) :=
            warps_of_landing found ground
          rw [vault_of_landing found ground, vaultMotionWarp_eq, ← asks]
          split
          · rename_i starts
            simp [scanned_flatMap, ground, starts]
          · rename_i stays
            simp [scanned_flatMap, ground, VaultCall.record, stays]

section CallsFor

/-- The distance traces in a log are those that are called for. -/
theorem callsFor_distance_iff (canWarp : Bool) (index : ℕ) (request : Trace K)
    (answer : FHitResult K) :
    .traced (.distance index) request answer ∈ world.approached.map world.distanceTraced ↔
      world.CallsFor canWarp (.traced (.distance index) request answer) := by
  rw [List.mem_map, World.CallsFor, ← mem_visited_range_iff (fun index =>
    (world.distanceHit index).bBlockingHit)]
  constructor
  · rintro ⟨other, member, traced⟩
    cases traced
    exact ⟨member, rfl, rfl⟩
  · rintro ⟨member, rfl, rfl⟩
    exact ⟨index, member, rfl⟩

variable {world}

/-- The traces behind an obstacle are those that are called for. -/
theorem callsFor_scanned_iff {obstacle : FHitResult K} (found : world.obstacle? = some obstacle)
    (canWarp : Bool) (probe : Probe) (request : Trace K) (answer : FHitResult K) :
    .traced probe request answer ∈
        (world.scanned obstacle).flatMap (heightStepLog world obstacle) ↔
      (∀ index, probe ≠ .distance index) ∧
        world.CallsFor canWarp (.traced probe request answer) := by
  have scanned : ∀ index, index ∈ world.scanned obstacle ↔
      index < 6 ∧ ∀ earlier < index, world.lands obstacle earlier = false :=
    mem_visited_range_iff (world.lands obstacle) 6
  simp only [List.mem_flatMap, mem_heightStepLog_iff, scanned]
  cases probe with
  | distance index =>
      refine iff_of_false ?_ fun other => other.1 index rfl
      rintro ⟨sample, -, traced | ⟨-, traced⟩⟩
      · cases traced
      · cases traced
  | height index =>
      simp only [World.CallsFor, found, Option.mem_some_iff, exists_eq_left']
      constructor
      · rintro ⟨sample, looked, traced | ⟨-, traced⟩⟩
        · cases traced
          exact ⟨fun _ same => Probe.noConfusion same, looked, rfl, rfl⟩
        · cases traced
      · rintro ⟨-, looked, rfl, rfl⟩
        exact ⟨index, looked, .inl rfl⟩
  | land index =>
      simp only [World.CallsFor, found, Option.mem_some_iff, exists_eq_left']
      constructor
      · rintro ⟨sample, looked, traced | ⟨free, traced⟩⟩
        · cases traced
        · cases traced
          exact ⟨fun _ same => Probe.noConfusion same, looked, free, rfl, rfl⟩
      · rintro ⟨-, looked, free, rfl, rfl⟩
        exact ⟨index, looked, .inr ⟨free, rfl⟩⟩

/-- The log of a call holds exactly what its hits call for. -/
theorem mem_vault_log_iff (component : VaultComponent K) (owner : VaultOwner K)
    (action : Action K) :
    action ∈ (vault world component owner).log ↔ world.CallsFor component.canWarp action := by
  rw [vault_log_eq, List.mem_append, List.mem_flatMap]
  simp only [Option.mem_toList, List.mem_append, List.mem_map]
  cases action with
  | motionWarp started =>
      have noDistance : ¬ ∃ index, index ∈ world.approached ∧
          world.distanceTraced index = .motionWarp started := by
        rintro ⟨index, -, traced⟩
        cases traced
      have noSample : ∀ obstacle, .motionWarp started ∉
          (world.scanned obstacle).flatMap (heightStepLog world obstacle) := by
        intro obstacle member
        obtain ⟨index, -, traced⟩ := List.mem_flatMap.mp member
        rcases (mem_heightStepLog_iff world obstacle index _).mp traced with same | ⟨-, same⟩
        · cases same
        · cases same
      simp only [World.CallsFor, noDistance, false_or, noSample, Action.motionWarp.injEq]
      constructor
      · rintro ⟨obstacle, found, landing, ground, rfl⟩
        exact ⟨⟨obstacle, found, Option.isSome_of_mem ground⟩, rfl⟩
      · rintro ⟨⟨obstacle, found, lands⟩, rfl⟩
        obtain ⟨landing, ground⟩ := Option.isSome_iff_exists.mp lands
        exact ⟨obstacle, found, landing, ground, rfl⟩
  | traced probe request answer =>
      have noWarp : ∀ obstacle, ¬ ∃ landing, world.landing? obstacle = some landing ∧
          .motionWarp (world.warps component.canWarp) = Action.traced probe request answer := by
        rintro obstacle ⟨landing, -, same⟩
        cases same
      simp only [noWarp, or_false]
      rw [← List.mem_map]
      by_cases first : ∃ index, probe = .distance index
      · obtain ⟨index, rfl⟩ := first
        rw [callsFor_distance_iff world component.canWarp]
        refine or_iff_left ?_
        rintro ⟨obstacle, found, member⟩
        exact ((callsFor_scanned_iff found component.canWarp _ _ _).mp member).1 index rfl
      · have later : ∀ index, probe ≠ .distance index := fun index same => first ⟨index, same⟩
        have noDistance : Action.traced probe request answer ∉
            world.approached.map world.distanceTraced := by
          intro member
          obtain ⟨index, -, same⟩ := List.mem_map.mp member
          cases same
          exact later index rfl
        rw [or_iff_right noDistance]
        constructor
        · rintro ⟨obstacle, found, member⟩
          exact ((callsFor_scanned_iff found component.canWarp _ _ _).mp member).2
        · intro called
          obtain ⟨obstacle, found⟩ : ∃ obstacle, world.obstacle? = some obstacle := by
            cases probe with
            | distance index => exact absurd rfl (later index)
            | height index | land index =>
                obtain ⟨obstacle, found, -⟩ := called
                exact ⟨obstacle, found⟩
          exact ⟨obstacle, found, (callsFor_scanned_iff found _ _ _ _).mpr ⟨later, called⟩⟩

end CallsFor

section Order

omit [LinearOrder K] [ToFloat K]

/-- Distance traces are made in order, and there are at most three. -/
theorem approached_ordered :
    (world.approached.map world.distanceTraced).Pairwise Action.Before ∧
      ∀ action ∈ world.approached.map world.distanceTraced, action.rank < 3 := by
  have inOrder := visited_prefix (fun index => (world.distanceHit index).bBlockingHit)
    (List.range 3)
  constructor
  · rw [List.pairwise_map]
    exact List.pairwise_lt_range.sublist inOrder.sublist
  · intro action member
    obtain ⟨index, visited, rfl⟩ := List.mem_map.mp member
    exact List.mem_range.mp (inOrder.subset visited)

/-- The traces behind an obstacle are made in order, between the distance traces and the
motion warp. -/
theorem scanned_ordered (obstacle : FHitResult K) :
    ((world.scanned obstacle).flatMap (heightStepLog world obstacle)).Pairwise Action.Before ∧
      ∀ action ∈ (world.scanned obstacle).flatMap (heightStepLog world obstacle),
        3 ≤ action.rank ∧ action.rank < 15 := by
  have inOrder := visited_prefix (world.lands obstacle) (List.range 6)
  constructor
  · rw [List.pairwise_flatMap]
    constructor
    · intro index _
      unfold heightStepLog
      split
      · exact List.pairwise_singleton _ _
      · refine List.pairwise_pair.mpr ?_
        change 3 + 2 * index < 4 + 2 * index
        omega
    · refine (List.pairwise_lt_range.sublist inOrder.sublist).imp ?_
      intro earlier later ascending first firstMember second secondMember
      have before := (heightStepLog_rank world firstMember).2
      have after := (heightStepLog_rank world secondMember).1
      change first.rank < second.rank
      omega
  · intro action member
    obtain ⟨index, visited, traced⟩ := List.mem_flatMap.mp member
    have bounded := List.mem_range.mp (inOrder.subset visited)
    obtain ⟨after, before⟩ := heightStepLog_rank world traced
    exact ⟨by omega, by omega⟩

omit [Field K] in
/-- A strictly ordered log of ranks below a bound is no longer than the bound. -/
theorem length_le_of_pairwise_before {log : List (Action K)} {bound : ℕ}
    (ordered : log.Pairwise Action.Before) (bounded : ∀ action ∈ log, action.rank < bound) :
    log.length ≤ bound := by
  have distinct : (log.map Action.rank).Nodup := by
    rw [List.nodup_iff_pairwise_ne, List.pairwise_map]
    exact ordered.imp fun before => Nat.ne_of_lt before
  have within : log.map Action.rank ⊆ List.range bound := by
    intro rank member
    obtain ⟨action, logged, rfl⟩ := List.mem_map.mp member
    exact List.mem_range.mpr (bounded action logged)
  have shorter := (List.subperm_of_subset distinct within).length_le
  rwa [List.length_map, List.length_range] at shorter

end Order

/-- The actions of a call come in order, and there are at most sixteen places for them. -/
theorem vault_log_rank (component : VaultComponent K) (owner : VaultOwner K) :
    (vault world component owner).log.Pairwise Action.Before ∧
      ∀ action ∈ (vault world component owner).log, action.rank < 16 := by
  obtain ⟨approachOrdered, approach⟩ := approached_ordered world
  rw [vault_log_eq]
  cases found : world.obstacle? with
  | none =>
      simp only [Option.toList_none, List.flatMap_nil, List.append_nil]
      refine ⟨approachOrdered, fun action member => ?_⟩
      have early := approach action member
      omega
  | some obstacle =>
      obtain ⟨scanOrdered, scan⟩ := scanned_ordered world obstacle
      have warps : ∀ action ∈ (world.landing? obstacle).toList.map
          (fun _ => (.motionWarp (world.warps component.canWarp) : Action K)),
            action.rank = 15 := by
        intro action member
        obtain ⟨landing, -, rfl⟩ := List.mem_map.mp member
        rfl
      simp only [Option.toList_some, List.flatMap_cons, List.flatMap_nil, List.append_nil]
      constructor
      · refine List.pairwise_append.mpr ⟨approachOrdered, List.pairwise_append.mpr
          ⟨scanOrdered, ?_, fun first firstMember second secondMember => ?_⟩,
          fun first firstMember second secondMember => ?_⟩
        · cases world.landing? obstacle with
          | none => exact List.Pairwise.nil
          | some landing => exact List.pairwise_singleton _ _
        · have before := (scan first firstMember).2
          have last := warps second secondMember
          change first.rank < second.rank
          omega
        · have early := approach first firstMember
          change first.rank < second.rank
          rcases List.mem_append.mp secondMember with traced | warped
          · have late := (scan second traced).1
            omega
          · have last := warps second warped
            omega
      · intro action member
        rcases List.mem_append.mp member with approached | member
        · have early := approach action approached
          omega
        · rcases List.mem_append.mp member with traced | warped
          · have early := (scan action traced).2
            omega
          · have last := warps action warped
            omega

/-- In any world and from any state, a call makes its traces in one fixed order and none
of them twice; it makes a trace exactly when the hits before it call for it, and asks for
a motion warp exactly when it comes to a landing; and it does no more than sixteen
things. -/
theorem vault_log_ordered (component : VaultComponent K) (owner : VaultOwner K) :
    (vault world component owner).log.Pairwise Action.Before ∧
      (∀ action, action ∈ (vault world component owner).log ↔
        world.CallsFor component.canWarp action) ∧
      (vault world component owner).log.length ≤ 16 := by
  obtain ⟨ordered, bounded⟩ := vault_log_rank world component owner
  exact ⟨ordered, mem_vault_log_iff component owner,
    length_le_of_pairwise_before ordered bounded⟩

/-- Before a low obstacle with ground behind it, a call warps from the second sample and
takes no third one. -/
theorem vault_log_ordered_low_obstacle :
    let log := (vault (Vaulting.course 0 [0]) (construct 0 0 0) Vaulting.standing).log
    .motionWarp true ∈ log ∧ ∀ request answer, .traced (.height 2) request answer ∉ log := by
  obtain ⟨-, exactly, -⟩ :=
    vault_log_ordered (Vaulting.course 0 [0]) (construct 0 0 0) Vaulting.standing
  constructor
  · exact (exactly _).mpr ⟨⟨_, rfl, by decide +kernel⟩, by decide +kernel⟩
  · intro request answer member
    obtain ⟨obstacle, found, looked, -⟩ := (exactly _).mp member
    obtain rfl := Option.some.inj found
    have lands : (Vaulting.course 0 [0]).lands _ 1 = false := looked.2 1 Nat.one_lt_two
    exact absurd lands (by decide +kernel)

end VaultComponent

end RPGLearnGame
