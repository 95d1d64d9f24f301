import RPGLearnGame.Semantics.Register
import RPGLearnGame.Vault.Runs

/-!
# Where a warp comes from

The component's fields are registers: a call overwrites those it finds something for, the
completion of a montage parks the landing position and takes the permission to warp back,
and everything else leaves them alone. So what a warp goes to is told by the calls and
completions before it: each of its positions is the one found last, and it starts exactly
when it lands in reach and some call since the last completion found an obstacle to climb.
The same holds of a motion warp that a Blueprint asks for on its own, with the landing that
was found last, or parked.
-/

namespace RPGLearnGame

open EventMachine

namespace World

variable {K : Type*} [Field K] (world : World K)

/-- The position that a call finds for a warp target, if it finds one. -/
def position? : MotionName → Option (FVector K)
  | .vaultStart => world.obstacle?.bind fun obstacle =>
      if world.blocked obstacle 0 then some (world.sampleLocation obstacle 0) else none
  | .vaultMiddle => world.obstacle?.bind fun obstacle =>
      (world.blockedSamples obstacle).getLast?.map (world.sampleLocation obstacle)
  | .vaultLand => world.obstacle?.bind fun obstacle =>
      (world.landing? obstacle).map (world.landLocation obstacle)

/-- A call finds an obstacle that is high enough to climb. -/
def climbs : Prop := (world.position? .vaultMiddle).isSome = true

instance : Decidable world.climbs := inferInstanceAs (Decidable (_ = true))

/-- A call climbs when a sample of its scan is blocked. -/
theorem climbs_iff {obstacle : FHitResult K} (found : world.obstacle? = some obstacle) :
    world.climbs ↔ world.blockedSamples obstacle ≠ [] := by
  simp [climbs, position?, found]

/-- A call lands within reach of the feet. -/
def landsInReach [LinearOrder K] [ToFloat K] : Prop :=
  ∃ location ∈ world.position? .vaultLand, world.inReach location = true

/-- A call starts a warp when it lands in reach, and may warp already or climbs. -/
theorem warps_iff_landsInReach [LinearOrder K] [ToFloat K] (canWarp : Bool) :
    world.warps canWarp = true ↔ world.landsInReach ∧ (canWarp = true ∨ world.climbs) := by
  rw [warps_iff]
  constructor
  · rintro ⟨obstacle, found, landing, ground, mayWarp, inReach⟩
    rw [world.climbs_iff found]
    exact ⟨⟨_, by simp [position?, found, ground], inReach⟩, mayWarp⟩
  · rintro ⟨⟨location, lands, inReach⟩, mayWarp⟩
    obtain ⟨obstacle, found, landed⟩ := Option.bind_eq_some_iff.mp lands
    obtain ⟨landing, ground, rfl⟩ := Option.map_eq_some_iff.mp landed
    rw [world.climbs_iff found] at mayWarp
    exact ⟨obstacle, found, landing, ground, mayWarp, inReach⟩

end World

namespace VaultEvent

variable {K : Type*} [Field K]

/-- The value that an event writes to a position. -/
def position? (name : MotionName) : VaultEvent K → Option (FVector K)
  | .vault world => world.position? name
  | .montageCompleted => if name = .vaultLand then some ⟨0, 0, ((20000 : ℕ) : K)⟩ else none
  | .montageInterrupted => none

/-- The value that an event writes to `canWarp`. -/
def canWarp? : VaultEvent K → Option Bool
  | .vault world => if world.climbs then some true else none
  | .montageCompleted => some false
  | .montageInterrupted => none

/-- Since the last completion, if there was one, a call climbed; or there was none, and the
component was allowed to warp from the start. -/
def MayWarp (initially : Bool) (events : List (VaultEvent K)) : Prop :=
  (∃ before world after, events = before ++ .vault world :: after ∧ world.climbs ∧
      .montageCompleted ∉ after) ∨
    initially = true ∧ .montageCompleted ∉ events

end VaultEvent

namespace Vaulting

open VaultComponent

variable {K : Type*} [Field K] [LinearOrder K] [ToFloat K]

/-- A position of the component holds what was found for it last. -/
theorem position_register (name : MotionName) :
    (vaulting (K := K)).Register (fun state => state.component.position name)
      (VaultEvent.position? name) where
  written := by
    intro state event
    cases event with
    | vault world =>
        change (state.vault world).component.position name = _
        rw [vault_component_eq]
        cases found : world.obstacle? with
        | none => cases name <;> simp [VaultEvent.position?, World.position?, found]
        | some obstacle =>
            cases name with
            | vaultStart =>
                simp only [position, explored, takeSamples, world.zero_mem_blockedSamples,
                  VaultEvent.position?, World.position?, found, Option.bind_some]
                split <;> rfl
            | vaultMiddle =>
                simp [position, explored, takeSamples, VaultEvent.position?, World.position?, found]
            | vaultLand => simp [position, explored, VaultEvent.position?, World.position?, found]
    | montageCompleted => cases name <;> rfl
    | montageInterrupted => rfl

/-- The permission to warp is given by a call that climbs and taken by a completion. -/
theorem canWarp_register :
    (vaulting (K := K)).Register (fun state => state.component.canWarp) VaultEvent.canWarp? where
  written := by
    intro state event
    cases event with
    | vault world =>
        change (state.vault world).component.canWarp = _
        rw [vault_component_eq]
        cases found : world.obstacle? with
        | none => simp [VaultEvent.canWarp?, World.climbs, World.position?, found]
        | some obstacle =>
            simp only [VaultEvent.canWarp?, world.climbs_iff found]
            cases samples : world.blockedSamples obstacle <;> simp [explored, takeSamples, samples]
    | montageCompleted => rfl
    | montageInterrupted => rfl

/-- After a run the component may warp exactly when the events allow it to. -/
theorem run_canWarp_iff (start : Vaulting K) (events : List (VaultEvent K)) :
    (vaulting.run start events).component.canWarp = true ↔
      VaultEvent.MayWarp start.component.canWarp events := by
  have raises : ∀ event : VaultEvent K, event.canWarp? = some true ↔
      ∃ world, event = .vault world ∧ world.climbs := by
    intro event
    cases event <;> simp [VaultEvent.canWarp?]
  have lowers : ∀ event : VaultEvent K, event.canWarp? = some false ↔
      event = .montageCompleted := by
    intro event
    cases event <;> simp [VaultEvent.canWarp?]
  have untouched : ∀ later : List (VaultEvent K),
      (∀ event ∈ later, event.canWarp? ≠ some false) ↔ .montageCompleted ∉ later := by
    intro later
    simp only [ne_eq, lowers]
    constructor
    · exact fun kept completed => kept _ completed rfl
    · rintro kept event member rfl
      exact kept member
  rw [canWarp_register.run, lastWritten_getD_true_iff, VaultEvent.MayWarp, untouched]
  refine or_congr_left ?_
  constructor
  · rintro ⟨before, event, after, split, raised, kept⟩
    obtain ⟨world, rfl, climbs⟩ := (raises event).mp raised
    exact ⟨before, world, after, split, climbs, (untouched after).mp kept⟩
  · rintro ⟨before, world, after, split, climbs, kept⟩
    exact ⟨before, .vault world, after, split, (raises _).mpr ⟨world, rfl, climbs⟩,
      (untouched after).mpr kept⟩

/-- In every run of calls and callbacks, from any start, a call starts a warp exactly when it
lands in reach and the events up to it allow a warp; and it sends the owner to the positions
that the events up to it found last. -/
theorem vaulting_warp_provenance (start : Vaulting K) (before : List (VaultEvent K))
    (world : World K) :
    let state := vaulting.run start before
    let call := VaultComponent.vault world state.component state.owner
    (startsWarp call.log = true ↔
        world.landsInReach ∧
          VaultEvent.MayWarp start.component.canWarp (before ++ [.vault world])) ∧
      (startsWarp call.log = true → ∀ name, call.owner.warpTargets name =
        some ⟨(lastWritten (VaultEvent.position? name) (before ++ [.vault world])).getD
          (start.component.position name), world.actorRotation⟩) := by
  intro state call
  have after : vaulting.run start (before ++ [.vault world]) = state.vault world :=
    run_append start before [.vault world]
  have mayWarp : (state.component.canWarp = true ∨ world.climbs) ↔
      VaultEvent.MayWarp start.component.canWarp (before ++ [.vault world]) := by
    have given := canWarp_register.written state (.vault world)
    change (state.vault world).component.canWarp = _ at given
    rw [← run_canWarp_iff, after, given]
    by_cases climbs : world.climbs <;> simp [VaultEvent.canWarp?, climbs]
  rcases vault_cases world state.component state.owner with
    ⟨warps, starts, owner⟩ | ⟨stays, starts, owner⟩
  · refine ⟨iff_of_true starts ?_, fun _ name => ?_⟩
    · rw [← mayWarp]
      exact (world.warps_iff_landsInReach _).mp warps
    · have position := (position_register name).run start (before ++ [.vault world])
      rw [after] at position
      rw [owner, startWarp_warpTargets, ← position]
      rfl
  · have grounded : ¬ (world.landsInReach ∧
        VaultEvent.MayWarp start.component.canWarp (before ++ [.vault world])) := by
      rw [← mayWarp, ← world.warps_iff_landsInReach, stays]
      exact Bool.false_ne_true
    refine ⟨iff_of_false ?_ grounded, fun warps => ?_⟩
    · rw [starts]
      exact Bool.false_ne_true
    · exact absurd (starts.symm.trans warps) Bool.false_ne_true

end Vaulting

/-- What happens to a vaulting owner when a Blueprint may also ask for a motion warp on its
own. -/
inductive WarpEvent (K : Type*) where
  | vaulting (event : VaultEvent K)
  | vaultMotionWarp (world : World K)

/-- The events that are not a motion warp on its own. -/
def WarpEvent.vaulting? {K : Type*} : WarpEvent K → Option (VaultEvent K)
  | .vaulting event => some event
  | .vaultMotionWarp _ => none

namespace Vaulting

open VaultComponent

variable {K : Type*} [Field K] [LinearOrder K] [ToFloat K]

section MotionWarp

/-- A call of `VaultMotionWarp` on its own. -/
def motionWarpCall (state : Vaulting K) (world : World K) : VaultCall K :=
  VaultComponent.vaultMotionWarp world ⟨state.component, state.owner, []⟩

/-- The state after a call of `VaultMotionWarp`. -/
def vaultMotionWarp (state : Vaulting K) (world : World K) : Vaulting K :=
  let call := state.motionWarpCall world
  { component := call.component
    owner := call.owner
    inProgress :=
      if startsWarp call.log then state.inProgress ++ [state.owner.proxies]
      else state.inProgress }

/-- Calls of both functions and montage callbacks in any order. -/
def warping : EventMachine (Vaulting K) (WarpEvent K) where
  Admits _ _ := True
  next
    | state, .vaulting event => vaulting.next state event
    | state, .vaultMotionWarp world => state.vaultMotionWarp world

/-- A motion warp on its own starts when the component may warp and its landing position is
in reach, and goes to the positions it holds. -/
theorem motionWarpCall_cases (state : Vaulting K) (world : World K) :
    ((state.component.canWarp = true ∧ world.inReach state.component.vaultLandPos = true) ∧
        startsWarp (state.motionWarpCall world).log = true ∧
        (state.motionWarpCall world).owner = startWarp world state.component state.owner) ∨
      (¬ (state.component.canWarp = true ∧ world.inReach state.component.vaultLandPos = true) ∧
        startsWarp (state.motionWarpCall world).log = false ∧
        (state.motionWarpCall world).owner = state.owner) := by
  rw [motionWarpCall, vaultMotionWarp_eq, ← Bool.and_eq_true_iff]
  by_cases warps : (state.component.canWarp &&
      world.inReach state.component.vaultLandPos) = true
  · rw [if_pos warps]
    exact .inl ⟨warps, rfl, rfl⟩
  · rw [if_neg warps]
    exact .inr ⟨warps, rfl, rfl⟩

/-- A motion warp on its own leaves the component alone. -/
theorem vaultMotionWarp_component (state : Vaulting K) (world : World K) :
    (state.vaultMotionWarp world).component = state.component := by
  change (VaultComponent.vaultMotionWarp world ⟨state.component, state.owner, []⟩).component = _
  rw [vaultMotionWarp_eq]
  split <;> rfl

/-- What becomes of the component depends on nothing else. -/
theorem vaulting_component_congr {first second : Vaulting K}
    (same : first.component = second.component) (event : VaultEvent K) :
    (vaulting.next first event).component = (vaulting.next second event).component := by
  cases event with
  | vault world =>
      change (first.vault world).component = (second.vault world).component
      rw [vault_component_eq, vault_component_eq, same]
  | montageCompleted =>
      change (first.component.onVaultMontageCompleted first.owner).1 =
        (second.component.onVaultMontageCompleted second.owner).1
      rw [same]
      rfl
  | montageInterrupted => exact same

/-- Motion warps on their own leave no trace in the component. -/
theorem run_warping_component {first second : Vaulting K}
    (same : first.component = second.component) (events : List (WarpEvent K)) :
    (warping.run first events).component =
      (vaulting.run second (events.filterMap WarpEvent.vaulting?)).component := by
  induction events generalizing first second with
  | nil => exact same
  | cons event rest inductionHypothesis =>
      cases event with
      | vaulting event => exact inductionHypothesis (vaulting_component_congr same event)
      | vaultMotionWarp world =>
          exact inductionHypothesis ((first.vaultMotionWarp_component world).trans same)

/-- In every run in which Blueprints also call `VaultMotionWarp` on its own, such a call
starts a warp exactly when the landing position that was written last is in reach and the
events before it allow a warp; and it sends the owner to the positions written last. -/
theorem warping_warp_provenance (start : Vaulting K) (before : List (WarpEvent K))
    (world : World K) :
    let call := (warping.run start before).motionWarpCall world
    let told := before.filterMap WarpEvent.vaulting?
    let position := fun name =>
      (lastWritten (VaultEvent.position? name) told).getD (start.component.position name)
    (startsWarp call.log = true ↔
        world.inReach (position .vaultLand) = true ∧
          VaultEvent.MayWarp start.component.canWarp told) ∧
      (startsWarp call.log = true → ∀ name, call.owner.warpTargets name =
        some ⟨position name, world.actorRotation⟩) := by
  intro call told position
  have component : (warping.run start before).component = (vaulting.run start told).component :=
    run_warping_component rfl before
  have holds : ∀ name, (warping.run start before).component.position name = position name := by
    intro name
    rw [component]
    exact (position_register name).run start told
  have land : (warping.run start before).component.vaultLandPos = position .vaultLand :=
    holds .vaultLand
  have mayWarp : (warping.run start before).component.canWarp = true ↔
      VaultEvent.MayWarp start.component.canWarp told := by
    rw [component, run_canWarp_iff]
  have cases := (warping.run start before).motionWarpCall_cases world
  rw [land, mayWarp, and_comm (a := VaultEvent.MayWarp _ _)] at cases
  rcases cases with ⟨warps, starts, owner⟩ | ⟨stays, silent, -⟩
  · refine ⟨iff_of_true starts warps, fun _ name => ?_⟩
    rw [owner, startWarp_warpTargets, holds]
  · refine ⟨iff_of_false ?_ stays, fun starts => ?_⟩
    · rw [silent]
      exact Bool.false_ne_true
    · exact absurd (silent.symm.trans starts) Bool.false_ne_true

end MotionWarp

end Vaulting

end RPGLearnGame
