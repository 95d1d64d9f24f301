import RPGLearnGame.Vault.Component

/-!
# What a vault call finds

Both loops of `vault` are searches: the distance loop for the first obstacle, the
height loop for the first free sample with ground beyond it. So the outcome of a
call is a function of what its surroundings answer: the obstacle, the blocked
samples the scan passes, and the landing. `vault_component`, `vault_cases`
and `hits_vault` say what the call does in these terms, and nothing after this
module looks inside the loops.
-/

namespace RPGLearnGame

open SearchLoop

namespace World

variable {K : Type*} [Field K] (world : World K)

/-- The first obstacle that a distance trace hits. -/
def obstacle? : Option (FHitResult K) :=
  ((List.range 3).find? fun index => (world.distanceHit index).bBlockingHit).map world.distanceHit

variable (obstacle : FHitResult K)

/-- A height sample hits something. -/
def blocked (index : ℕ) : Bool := (world.heightHit obstacle index).bBlockingHit

/-- A height sample is free and there is ground beyond it. -/
def lands (index : ℕ) : Bool :=
  !world.blocked obstacle index && (world.landHit obstacle index).bBlockingHit

/-- The sample that ends the height loop. -/
def landing? : Option ℕ := (List.range 6).find? (world.lands obstacle)

/-- The samples that the height loop passes. -/
def sampled : List ℕ := passed (world.lands obstacle) (List.range 6)

/-- The blocked ones among them. -/
def blockedSamples : List ℕ := (world.sampled obstacle).filter (world.blocked obstacle)

/-- Where a sample hit. -/
def sampleLocation (index : ℕ) : FVector K := (world.heightHit obstacle index).location

/-- Where the ground beyond a sample is. -/
def landLocation (index : ℕ) : FVector K := (world.landHit obstacle index).location

/-- The locations that the scan behind an obstacle hits, in order. -/
def scanHits : List (FVector K) :=
  (world.blockedSamples obstacle).map (world.sampleLocation obstacle) ++
    (world.landing? obstacle).toList.map (world.landLocation obstacle)

/-- A blocked first sample is always passed. -/
theorem zero_mem_blockedSamples : 0 ∈ world.blockedSamples obstacle ↔
    world.blocked obstacle 0 = true := by
  constructor
  · intro member
    exact (List.mem_filter.mp member).2
  · intro blockedFirst
    have notLanding : world.lands obstacle 0 = false := by simp [lands, blockedFirst]
    have range : List.range 6 = 0 :: [1, 2, 3, 4, 5] := rfl
    simp [blockedSamples, sampled, passed, range, notLanding, blockedFirst]

/-- All locations that a call hits, the obstacle first. -/
def callHits : List (FVector K) :=
  world.obstacle?.toList.flatMap fun obstacle => obstacle.location :: world.scanHits obstacle

/-- A passed sample does not end the loop. -/
theorem not_lands_of_mem_sampled {index : ℕ} (member : index ∈ world.sampled obstacle) :
    world.lands obstacle index = false := by
  simpa using List.mem_takeWhile_imp member

variable [LinearOrder K] [ToFloat K]

/-- A call starts a warp: it finds an obstacle and a landing in reach, and either it
passes a blocked sample or it may warp already. -/
def warps (canWarp : Bool) : Bool :=
  world.obstacle?.any fun obstacle =>
    (world.landing? obstacle).any fun landing =>
      (canWarp || !(world.blockedSamples obstacle).isEmpty) &&
        world.inReach (world.landLocation obstacle landing)

theorem warps_iff (canWarp : Bool) :
    world.warps canWarp = true ↔
      ∃ obstacle, world.obstacle? = some obstacle ∧
        ∃ landing, world.landing? obstacle = some landing ∧
          (canWarp = true ∨ world.blockedSamples obstacle ≠ []) ∧
            world.inReach (world.landLocation obstacle landing) = true := by
  simp [warps, Option.any_eq_true]

end World

namespace Action

variable {K : Type*}

/-- The hit location of a blocking trace. -/
def hit? : Action K → Option (FVector K)
  | .traced _ _ answer => if answer.bBlockingHit then some answer.location else none
  | .motionWarp _ => none

/-- A motion warp that starts. -/
def startsWarp : Action K → Bool
  | .traced _ _ _ => false
  | .motionWarp started => started

end Action

/-- The hit locations of a call's traces. -/
def hits {K : Type*} (log : List (Action K)) : List (FVector K) := log.filterMap Action.hit?

/-- A call starts a warp. -/
def startsWarp {K : Type*} (log : List (Action K)) : Bool := log.any Action.startsWarp

@[simp] theorem hits_append {K : Type*} (first second : List (Action K)) :
    hits (first ++ second) = hits first ++ hits second :=
  List.filterMap_append

@[simp] theorem startsWarp_append {K : Type*} (first second : List (Action K)) :
    startsWarp (first ++ second) = (startsWarp first || startsWarp second) :=
  List.any_append

namespace VaultComponent

variable {K : Type*} [Field K] (world : World K) (obstacle : FHitResult K)

/-- Write a list of blocked samples into the component, in order. -/
def takeSamples (samples : List ℕ) (component : VaultComponent K) : VaultComponent K :=
  { component with
    vaultStartPos :=
      if 0 ∈ samples then world.sampleLocation obstacle 0 else component.vaultStartPos
    vaultMiddlePos :=
      (samples.getLast?.map (world.sampleLocation obstacle)).getD component.vaultMiddlePos
    canWarp := component.canWarp || !samples.isEmpty }

/-- The component after the scan behind an obstacle. -/
def explored (component : VaultComponent K) : VaultComponent K :=
  { component.takeSamples world obstacle (world.blockedSamples obstacle) with
    vaultLandPos :=
      ((world.landing? obstacle).map (world.landLocation obstacle)).getD component.vaultLandPos }

/-- At a landing the scan leaves its ground as the landing position. -/
theorem explored_vaultLandPos (component : VaultComponent K) {landing : ℕ}
    (ground : world.landing? obstacle = some landing) :
    (component.explored world obstacle).vaultLandPos = world.landLocation obstacle landing := by
  simp [explored, ground]

@[simp] theorem takeSamples_nil (component : VaultComponent K) :
    component.takeSamples world obstacle [] = component := by
  simp [takeSamples]

/-- Samples are written one after the other. -/
theorem takeSamples_cons (index : ℕ) (rest : List ℕ) (component : VaultComponent K) :
    component.takeSamples world obstacle (index :: rest) =
      (component.takeSamples world obstacle [index]).takeSamples world obstacle rest := by
  have middle : (((index :: rest).getLast?.map (world.sampleLocation obstacle)).getD
        component.vaultMiddlePos) =
      (rest.getLast?.map (world.sampleLocation obstacle)).getD
        (world.sampleLocation obstacle index) := by
    rw [List.getLast?_cons]
    cases rest.getLast? <;> rfl
  by_cases member : 0 ∈ rest <;> simp [takeSamples, middle, member]

/-- An iteration of the height loop that continues. -/
def heightStep (index : ℕ) (call : VaultCall K) : VaultCall K :=
  if world.blocked obstacle index then
    { call.record (world.heightTraced obstacle index) with
      component := call.component.takeSamples world obstacle [index] }
  else
    (call.record (world.heightTraced obstacle index)).record (world.landTraced obstacle index)

/-- The traces of an iteration that continues. -/
def heightStepLog (index : ℕ) : List (Action K) :=
  if world.blocked obstacle index then [world.heightTraced obstacle index]
  else [world.heightTraced obstacle index, world.landTraced obstacle index]

/-- Iterations that continue write their blocked samples and leave the owner alone. -/
theorem stepOver_heightStep (indices : List ℕ) (call : VaultCall K) :
    stepOver (heightStep world obstacle) indices call =
      { component := call.component.takeSamples world obstacle
          (indices.filter (world.blocked obstacle))
        owner := call.owner
        log := call.log ++ indices.flatMap (heightStepLog world obstacle) } := by
  induction indices generalizing call with
  | nil => simp
  | cons index rest inductionHypothesis =>
      rw [stepOver_cons, inductionHypothesis]
      by_cases blockedHere : world.blocked obstacle index = true
      · rw [List.filter_cons_of_pos blockedHere, takeSamples_cons]
        simp [heightStep, heightStepLog, blockedHere, VaultCall.record]
      · simp [heightStep, heightStepLog, blockedHere, VaultCall.record]

/-- The traces on the way to the first obstacle. -/
def approachLog : List (Action K) :=
  (passed (fun index => (world.distanceHit index).bBlockingHit) (List.range 3)).map
      world.distanceTraced ++
    ((List.range 3).find? fun index => (world.distanceHit index).bBlockingHit).toList.map
      world.distanceTraced

/-- Distance traces that hit nothing only extend the log. -/
theorem stepOver_distance (indices : List ℕ) (call : VaultCall K) :
    stepOver (fun index call => call.record (world.distanceTraced index)) indices call =
      { call with log := call.log ++ indices.map world.distanceTraced } := by
  induction indices generalizing call with
  | nil => simp
  | cons index rest inductionHypothesis =>
      rw [stepOver_cons, inductionHypothesis]
      simp [VaultCall.record]

/-- Traces start no warp. -/
theorem startsWarp_approachLog : startsWarp (approachLog world) = false := by
  simp [startsWarp, approachLog, World.distanceTraced, Action.startsWarp]

theorem startsWarp_heightStepLog (indices : List ℕ) :
    startsWarp (indices.flatMap (heightStepLog world obstacle)) = false := by
  induction indices with
  | nil => rfl
  | cons index rest inductionHypothesis =>
      rw [List.flatMap_cons, startsWarp_append, inductionHypothesis]
      by_cases blockedHere : world.blocked obstacle index = true <;>
        simp [heightStepLog, blockedHere, startsWarp, World.heightTraced, World.landTraced,
          Action.startsWarp]

/-- The way to an obstacle hits the obstacle only. -/
theorem hits_approachLog :
    hits (approachLog world) = world.obstacle?.toList.map FHitResult.location := by
  have nothing : hits ((passed (fun index => (world.distanceHit index).bBlockingHit)
      (List.range 3)).map world.distanceTraced) = [] := by
    rw [hits, List.filterMap_eq_nil_iff]
    intro action member
    obtain ⟨index, passedOver, rfl⟩ := List.mem_map.mp member
    have free : (world.distanceHit index).bBlockingHit = false := by
      simpa using List.mem_takeWhile_imp passedOver
    simp [World.distanceTraced, Action.hit?, free]
  rw [approachLog, hits_append, nothing, List.nil_append, World.obstacle?]
  cases found : (List.range 3).find? fun index => (world.distanceHit index).bBlockingHit with
  | none => rfl
  | some index =>
      have blocking := List.find?_some found
      simp [hits, World.distanceTraced, Action.hit?, blocking]

/-- Samples that do not land hit where they are blocked. -/
theorem hits_heightStepLog {indices : List ℕ}
    (free : ∀ index ∈ indices, world.lands obstacle index = false) :
    hits (indices.flatMap (heightStepLog world obstacle)) =
      (indices.filter (world.blocked obstacle)).map (world.sampleLocation obstacle) := by
  induction indices with
  | nil => rfl
  | cons index rest inductionHypothesis =>
      have later := inductionHypothesis fun other member =>
        free other (List.mem_cons_of_mem _ member)
      rw [List.flatMap_cons, hits_append, later]
      cases blockedHere : world.blocked obstacle index with
      | true =>
          rw [List.filter_cons_of_pos blockedHere]
          have hit : (world.heightHit obstacle index).bBlockingHit = true := blockedHere
          simp [heightStepLog, blockedHere, hits, World.heightTraced, Action.hit?, hit,
            World.sampleLocation]
      | false =>
          rw [List.filter_cons_of_neg (by simp [blockedHere])]
          have hit : (world.heightHit obstacle index).bBlockingHit = false := blockedHere
          have ground : (world.landHit obstacle index).bBlockingHit = false := by
            simpa [World.lands, blockedHere] using free index List.mem_cons_self
          simp [heightStepLog, blockedHere, hits, World.heightTraced, World.landTraced,
            Action.hit?, hit, ground]

/-- A landing is a free sample whose landing trace hits ground. -/
theorem hits_landing {landing : ℕ} (ground : world.landing? obstacle = some landing) :
    hits [world.heightTraced obstacle landing, world.landTraced obstacle landing] =
      [world.landLocation obstacle landing] := by
  have lands := List.find?_some ground
  simp only [World.lands, World.blocked, Bool.and_eq_true, Bool.not_eq_true'] at lands
  simp [hits, World.heightTraced, World.landTraced, Action.hit?, World.landLocation, lands.1,
    lands.2]

variable [LinearOrder K] [ToFloat K]

/-- The last iteration of the height loop, at a landing. -/
def heightFinish (index : ℕ) (call : VaultCall K) : VaultCall K :=
  let call := (call.record (world.heightTraced obstacle index)).record
    (world.landTraced obstacle index)
  vaultMotionWarp world
    { call with component := { call.component with
        vaultLandPos := world.landLocation obstacle index } }

/-- The height loop searches for a landing. -/
theorem heightBody_eq_search :
    heightBody world obstacle =
      searchBody (world.lands obstacle) (heightStep world obstacle)
        (heightFinish world obstacle) := by
  funext index call
  cases blockedHere : (world.heightHit obstacle index).bBlockingHit with
  | true =>
      by_cases first : index = 0
      · subst first
        simp [heightBody, searchBody, World.lands, World.blocked, heightStep, takeSamples,
          VaultCall.record, World.sampleLocation, blockedHere]
      · simp [heightBody, searchBody, World.lands, World.blocked, heightStep, takeSamples,
          VaultCall.record, World.sampleLocation, blockedHere, first, Ne.symm first]
  | false =>
      cases ground : (world.landHit obstacle index).bBlockingHit with
      | true =>
          simp [heightBody, searchBody, World.lands, World.blocked, heightFinish,
            VaultCall.record, World.landLocation, blockedHere, ground]
      | false =>
          simp [heightBody, searchBody, World.lands, World.blocked, heightStep,
            VaultCall.record, blockedHere, ground]

/-- The distance loop searches for an obstacle. -/
theorem distanceBody_eq_search :
    distanceBody world =
      searchBody (fun index => (world.distanceHit index).bBlockingHit)
        (fun index call => call.record (world.distanceTraced index))
        (fun index call => heightLoop world (world.distanceHit index)
          (call.record (world.distanceTraced index))) := rfl

/-- A motion warp starts if the component may warp and its landing is in reach. -/
theorem vaultMotionWarp_eq (call : VaultCall K) :
    vaultMotionWarp world call =
      if call.component.canWarp && world.inReach call.component.vaultLandPos then
        { component := call.component
          owner := startWarp world call.component call.owner
          log := call.log ++ [.motionWarp true] }
      else
        call.record (.motionWarp false) := rfl

/-- A call after the samples that the height loop passes. -/
def scanned (call : VaultCall K) : VaultCall K :=
  { component := call.component.takeSamples world obstacle (world.blockedSamples obstacle)
    owner := call.owner
    log := call.log ++ (world.sampled obstacle).flatMap (heightStepLog world obstacle) }

/-- The height loop writes what it samples and asks for a motion warp at a landing. -/
theorem heightLoop_eq (call : VaultCall K) :
    heightLoop world obstacle call =
      match world.landing? obstacle with
      | some landing => heightFinish world obstacle landing (scanned world obstacle call)
      | none => scanned world obstacle call := by
  rw [heightLoop, heightBody_eq_search, forBreak_search, stepOver_heightStep]
  simp only [World.landing?, scanned, World.blockedSamples, World.sampled]
  cases (List.range 6).find? (world.lands obstacle) <;> rfl

/-- A call makes its distance traces and scans behind the first obstacle. -/
theorem vault_eq (component : VaultComponent K) (owner : VaultOwner K) :
    vault world component owner =
      match world.obstacle? with
      | some obstacle => heightLoop world obstacle ⟨component, owner, approachLog world⟩
      | none => ⟨component, owner, approachLog world⟩ := by
  rw [vault, distanceBody_eq_search, forBreak_search, stepOver_distance]
  simp only [World.obstacle?, approachLog]
  cases (List.range 3).find? fun index => (world.distanceHit index).bBlockingHit with
  | none => simp
  | some index => simp [VaultCall.record]

section Findings

variable {world} {component : VaultComponent K} {owner : VaultOwner K}

/-- Without an obstacle a call changes nothing. -/
theorem vault_of_no_obstacle (clear : world.obstacle? = none) :
    vault world component owner = ⟨component, owner, approachLog world⟩ := by
  rw [vault_eq, clear]

variable {obstacle}

/-- At a landing a call starts a warp when the motion warp's checks pass. -/
theorem warps_of_landing (found : world.obstacle? = some obstacle) {landing : ℕ}
    (ground : world.landing? obstacle = some landing) :
    world.warps component.canWarp =
      ((component.explored world obstacle).canWarp &&
        world.inReach (component.explored world obstacle).vaultLandPos) := by
  rw [explored_vaultLandPos world obstacle component ground]
  simp [World.warps, found, ground, explored, takeSamples]

/-- Without a landing a call writes its samples and leaves the owner alone. -/
theorem vault_of_no_landing (found : world.obstacle? = some obstacle)
    (nowhere : world.landing? obstacle = none) :
    vault world component owner =
      { component := component.explored world obstacle
        owner := owner
        log := approachLog world ++
          (world.sampled obstacle).flatMap (heightStepLog world obstacle) } := by
  rw [vault_eq, found]
  simp only [heightLoop_eq, nowhere, scanned, explored]
  rfl

/-- At a landing a call asks for a motion warp with the positions it then holds. -/
theorem vault_of_landing (found : world.obstacle? = some obstacle) {landing : ℕ}
    (ground : world.landing? obstacle = some landing) :
    vault world component owner =
      vaultMotionWarp world
        { component := component.explored world obstacle
          owner := owner
          log := approachLog world ++
            (world.sampled obstacle).flatMap (heightStepLog world obstacle) ++
            [world.heightTraced obstacle landing, world.landTraced obstacle landing] } := by
  rw [vault_eq, found]
  simp only [heightLoop_eq, ground, scanned, explored, heightFinish, VaultCall.record]
  simp

end Findings

/-- The component after a call. -/
theorem vault_component (component : VaultComponent K) (owner : VaultOwner K) :
    (vault world component owner).component =
      match world.obstacle? with
      | some obstacle => component.explored world obstacle
      | none => component := by
  cases found : world.obstacle? with
  | none => rw [vault_of_no_obstacle found]
  | some obstacle =>
      cases ground : world.landing? obstacle with
      | none => rw [vault_of_no_landing found ground]
      | some landing =>
          rw [vault_of_landing found ground, vaultMotionWarp_eq]
          split <;> rfl

/-- A call either starts a warp with the positions it leaves in the component, or
leaves the owner alone. -/
theorem vault_cases (component : VaultComponent K) (owner : VaultOwner K) :
    (world.warps component.canWarp = true ∧
        startsWarp (vault world component owner).log = true ∧
        (vault world component owner).owner =
          startWarp world (vault world component owner).component owner) ∨
      (world.warps component.canWarp = false ∧
        startsWarp (vault world component owner).log = false ∧
        (vault world component owner).owner = owner) := by
  cases found : world.obstacle? with
  | none =>
      right
      rw [vault_of_no_obstacle found]
      exact ⟨by simp [World.warps, found], startsWarp_approachLog world, rfl⟩
  | some obstacle =>
      cases ground : world.landing? obstacle with
      | none =>
          right
          rw [vault_of_no_landing found ground, startsWarp_append, startsWarp_approachLog,
            startsWarp_heightStepLog]
          exact ⟨by simp [World.warps, found, ground], rfl, rfl⟩
      | some landing =>
          have asks : world.warps component.canWarp =
              ((component.explored world obstacle).canWarp &&
                world.inReach (component.explored world obstacle).vaultLandPos) :=
            warps_of_landing found ground
          have silent : startsWarp
              [world.heightTraced obstacle landing, world.landTraced obstacle landing] = false :=
            rfl
          rw [vault_of_landing found ground, vaultMotionWarp_eq, ← asks]
          cases starts : world.warps component.canWarp with
          | true =>
              left
              refine ⟨rfl, ?_, rfl⟩
              simp [startsWarp, Action.startsWarp]
          | false =>
              right
              refine ⟨rfl, ?_, rfl⟩
              simp only [Bool.false_eq_true, if_false, VaultCall.record, startsWarp_append,
                startsWarp_approachLog, startsWarp_heightStepLog, silent]
              rfl

/-- The hits in a call's log. -/
theorem hits_vault (component : VaultComponent K) (owner : VaultOwner K) :
    hits (vault world component owner).log = world.callHits := by
  cases found : world.obstacle? with
  | none =>
      rw [vault_of_no_obstacle found, hits_approachLog]
      simp [World.callHits, found]
  | some obstacle =>
      have scan := hits_heightStepLog world obstacle fun index member =>
        world.not_lands_of_mem_sampled obstacle member
      cases ground : world.landing? obstacle with
      | none =>
          rw [vault_of_no_landing found ground, hits_append, hits_approachLog, scan]
          simp [World.callHits, World.scanHits, World.blockedSamples, found, ground]
      | some landing =>
          have logged : ∀ started : Bool,
              hits (approachLog world ++
                  (world.sampled obstacle).flatMap (heightStepLog world obstacle) ++
                  [world.heightTraced obstacle landing, world.landTraced obstacle landing] ++
                  [.motionWarp started]) = world.callHits := by
            intro started
            have silent : hits [(.motionWarp started : Action K)] = [] := rfl
            rw [hits_append, hits_append, hits_append, hits_approachLog, scan,
              hits_landing world obstacle ground, silent]
            simp [World.callHits, World.scanHits, World.blockedSamples, found, ground]
          rw [vault_of_landing found ground, vaultMotionWarp_eq]
          split
          · exact logged _
          · exact logged _

end VaultComponent

end RPGLearnGame
