import Mathlib.Algebra.Order.Field.Rat
import RPGLearnGame.Semantics.Simulation
import RPGLearnGame.Vault.Scan

/-!
# Vaults over time

`Vault` is bound to the input's `Triggered` event and so may be called at any
moment, in whatever surroundings the owner then has. A warp it starts plays a
montage, which completes, is interrupted, is replaced by the next one, or never
starts; only the completion has a listener.

Three questions are asked of the runs: whether a warp goes to positions found by
the call that starts it, whether the owner is back on its feet when no montage
plays, and whether a call leaves a warp in progress alone. Each has its exact
condition on the steps of the run.
-/

namespace RPGLearnGame

open EventMachine

namespace MotionName

/-- A property of all three names. -/
theorem forall_iff {property : MotionName → Prop} :
    (∀ name, property name) ↔
      property .vaultStart ∧ property .vaultMiddle ∧ property .vaultLand := by
  constructor
  · intro holds
    exact ⟨holds _, holds _, holds _⟩
  · rintro ⟨start, middle, land⟩ name
    cases name <;> assumption

end MotionName

namespace VaultComponent

variable {K : Type*}

/-- The position that a warp registers under a name. -/
def position (component : VaultComponent K) : MotionName → FVector K
  | .vaultStart => component.vaultStartPos
  | .vaultMiddle => component.vaultMiddlePos
  | .vaultLand => component.vaultLandPos

section StartWarp

variable (world : World K) (component : VaultComponent K) (owner : VaultOwner K)

@[simp] theorem startWarp_movementMode :
    (startWarp world component owner).movementMode = .flying := rfl

@[simp] theorem startWarp_actorEnableCollision :
    (startWarp world component owner).actorEnableCollision = false := rfl

@[simp] theorem startWarp_playing :
    (startWarp world component owner).playing =
      if component.vaultMontage.isSome && world.canPlayMontage then some owner.proxies
      else owner.playing := rfl

/-- A warp starts a montage exactly when it has one that can play. -/
theorem startWarp_playing_eq_iff :
    (startWarp world component owner).playing = owner.playing ↔
      (component.vaultMontage.isSome && world.canPlayMontage) = false :=
  VaultOwner.createProxyObjectForPlayMontage_playing_eq_iff
    { startWarp world component owner with
      proxies := owner.proxies, playing := owner.playing, playing_lt := owner.playing_lt }
    component.vaultMontage world.canPlayMontage

/-- After a warp a montage plays exactly when its own can, unless another one goes on. -/
theorem startWarp_playing_ne_none_iff :
    (startWarp world component owner).playing ≠ none ↔
      (owner.playing = none →
        component.vaultMontage.isSome = true ∧ world.canPlayMontage = true) := by
  rw [startWarp_playing, ← Bool.and_eq_true]
  cases component.vaultMontage.isSome && world.canPlayMontage with
  | true => simp
  | false => simp

/-- A warp registers the component's positions. -/
@[simp] theorem startWarp_warpTargets (name : MotionName) :
    (startWarp world component owner).warpTargets name =
      some ⟨component.position name, world.actorRotation⟩ := by
  cases name <;> rfl

end StartWarp

section Positions

variable [Field K] {world : World K} {component : VaultComponent K} {obstacle : FHitResult K}

@[simp] theorem explored_vaultMontage :
    (component.explored world obstacle).vaultMontage = component.vaultMontage := rfl

/-- The positions after a scan that lands are hits of the call exactly when the
start and the middle are new or happen to coincide with one. -/
theorem explored_position_mem_callHits_iff (found : world.obstacle? = some obstacle)
    {landing : ℕ} (ground : world.landing? obstacle = some landing) :
    (∀ name, (component.explored world obstacle).position name ∈ world.callHits) ↔
      (world.blocked obstacle 0 = true ∨ component.vaultStartPos ∈ world.callHits) ∧
        (world.blockedSamples obstacle ≠ [] ∨ component.vaultMiddlePos ∈ world.callHits) := by
  have sampleHit : ∀ index ∈ world.blockedSamples obstacle,
      world.sampleLocation obstacle index ∈ world.callHits := by
    intro index member
    simp only [World.callHits, World.scanHits, found, Option.toList_some, List.flatMap_cons,
      List.flatMap_nil, List.append_nil]
    exact List.mem_cons_of_mem _ (List.mem_append_left _ (List.mem_map_of_mem member))
  have landHit : (component.explored world obstacle).position .vaultLand ∈ world.callHits := by
    simp [position, explored, ground, World.callHits, World.scanHits, found]
  have startHit : (component.explored world obstacle).position .vaultStart ∈ world.callHits ↔
      world.blocked obstacle 0 = true ∨ component.vaultStartPos ∈ world.callHits := by
    simp only [position, explored, takeSamples, world.zero_mem_blockedSamples]
    by_cases blockedFirst : world.blocked obstacle 0 = true
    · have member := (world.zero_mem_blockedSamples obstacle).mpr blockedFirst
      simp [blockedFirst, sampleHit 0 member]
    · simp [blockedFirst]
  have middleHit : (component.explored world obstacle).position .vaultMiddle ∈ world.callHits ↔
      world.blockedSamples obstacle ≠ [] ∨ component.vaultMiddlePos ∈ world.callHits := by
    simp only [position, explored, takeSamples]
    cases last : (world.blockedSamples obstacle).getLast? with
    | none =>
        have none : world.blockedSamples obstacle = [] := List.getLast?_eq_none_iff.mp last
        simp [none]
    | some index =>
        have member := List.mem_of_getLast? last
        simp [sampleHit index member, List.ne_nil_of_mem member]
  rw [MotionName.forall_iff, startHit, middleHit]
  simp [landHit]

/-- The positions survive a scan exactly when whatever it finds is already there. -/
theorem explored_position_eq_iff :
    (∀ name, (component.explored world obstacle).position name = component.position name) ↔
      (world.blocked obstacle 0 = true →
          world.sampleLocation obstacle 0 = component.vaultStartPos) ∧
        (∀ last ∈ (world.blockedSamples obstacle).getLast?,
          world.sampleLocation obstacle last = component.vaultMiddlePos) ∧
        ∀ landing ∈ world.landing? obstacle,
          world.landLocation obstacle landing = component.vaultLandPos := by
  rw [MotionName.forall_iff]
  refine and_congr ?_ (and_congr ?_ ?_)
  · simp [position, explored, takeSamples, world.zero_mem_blockedSamples]
  · simp only [position, explored, takeSamples]
    cases (world.blockedSamples obstacle).getLast? <;> simp
  · simp only [position, explored]
    cases world.landing? obstacle <;> simp

end Positions

end VaultComponent

/-- A vault component with its owner, and the proxies of the warps that have started
and not completed. -/
structure Vaulting (K : Type*) where
  component : VaultComponent K
  owner : VaultOwner K
  inProgress : List ℕ := []

/-- What happens to a vaulting owner. -/
inductive VaultEvent (K : Type*) where
  /-- `ARPGLearnGameCharacter::Vault`, in some surroundings. -/
  | vault (world : World K)
  /-- The playing montage ends by itself and its proxy broadcasts `OnCompleted`. -/
  | montageCompleted
  /-- The playing montage is interrupted; `OnInterrupted` has no listener. -/
  | montageInterrupted

namespace Vaulting

open VaultComponent

variable {K : Type*} [Field K] [LinearOrder K] [ToFloat K]

/-- A call, with the proxy of the warp it may start added to those in progress. -/
def vault (state : Vaulting K) (world : World K) : Vaulting K :=
  let call := VaultComponent.vault world state.component state.owner
  { component := call.component
    owner := call.owner
    inProgress :=
      if startsWarp call.log then state.inProgress ++ [state.owner.proxies]
      else state.inProgress }

/-- The completion of the playing montage. -/
def montageCompleted (state : Vaulting K) : Vaulting K :=
  let (component, owner) := state.component.onVaultMontageCompleted state.owner
  { component
    owner := { owner with playing := none, playing_lt := nofun }
    inProgress := state.inProgress.filter fun proxy => state.owner.playing ≠ some proxy }

/-- The interruption of the playing montage. -/
def montageInterrupted (state : Vaulting K) : Vaulting K :=
  { state with owner := { state.owner with playing := none, playing_lt := nofun } }

/-- Calls and montage callbacks in any order. -/
def vaulting : EventMachine (Vaulting K) (VaultEvent K) where
  Admits _ _ := True
  next
    | state, .vault world => state.vault world
    | state, .montageCompleted => state.montageCompleted
    | state, .montageInterrupted => state.montageInterrupted

/-- Only a playing montage completes or is interrupted. -/
def Plays (state : Vaulting K) : VaultEvent K → Prop
  | .vault _ => True
  | .montageCompleted | .montageInterrupted => state.owner.playing.isSome = true

/-- Calls at any moment, and callbacks of the montage that plays. -/
def played : EventMachine (Vaulting K) (VaultEvent K) := vaulting.guarded Plays

instance (state : Vaulting K) : (event : VaultEvent K) → Decidable (played.Admits state event)
  | .vault _ => inferInstanceAs (Decidable (True ∧ True))
  | .montageCompleted | .montageInterrupted => inferInstanceAs (Decidable (True ∧ _ = _))

/-- An owner on its feet that has not vaulted. -/
def standing : VaultOwner K := { movementMode := .walking, actorEnableCollision := true }

/-- Surroundings to run through: the owner faces along the first axis from `x`, an
obstacle stands a hundred units ahead, the listed height samples are blocked, and
there is level ground behind the others. -/
def course (x : ℚ) (blocked : List ℕ) : World ℚ where
  actorLocation := ⟨x, 0, 0⟩
  actorRotation := ⟨0, 0, 0⟩
  forward := ⟨1, 0, 0⟩
  meshLocation := ⟨x, 0, -90⟩
  trace
    | .distance _, request => ⟨true, ⟨x + 100, 0, request.traceStart.z⟩, request.traceStart⟩
    | .height index, request =>
        ⟨decide (index ∈ blocked), request.traceStart - ⟨0, 0, 50⟩, request.traceStart⟩
    | .land _, request =>
        ⟨true, ⟨request.traceStart.x, request.traceStart.y, -90⟩, request.traceStart⟩
  canPlayMontage := true

/-- What a call does to the state, by what it finds. -/
theorem vault_spec (state : Vaulting K) (world : World K) :
    (world.warps state.component.canWarp = true ∧
        (state.vault world).owner =
          startWarp world (state.vault world).component state.owner ∧
        (state.vault world).inProgress = state.inProgress ++ [state.owner.proxies]) ∨
      (world.warps state.component.canWarp = false ∧
        (state.vault world).owner = state.owner ∧
        (state.vault world).inProgress = state.inProgress) := by
  rcases vault_cases world state.component state.owner with
    ⟨warps, starts, owner⟩ | ⟨stays, starts, owner⟩
  · exact .inl ⟨warps, owner, by simp [vault, starts]⟩
  · exact .inr ⟨stays, owner, by simp [vault, starts]⟩

/-- The component after a call. -/
theorem vault_component_eq (state : Vaulting K) (world : World K) :
    (state.vault world).component =
      match world.obstacle? with
      | some obstacle => state.component.explored world obstacle
      | none => state.component :=
  vault_component world state.component state.owner

/-- A call never exchanges the montage. -/
theorem vault_vaultMontage (state : Vaulting K) (world : World K) :
    (state.vault world).component.vaultMontage = state.component.vaultMontage := by
  rw [vault_component_eq]
  split <;> simp

section Freshness

/-- A warp that starts registers hit locations of the call that starts it. -/
def FreshTargets (state : Vaulting K) : VaultEvent K → Prop
  | .vault world =>
      let call := VaultComponent.vault world state.component state.owner
      startsWarp call.log = true →
        ∀ name, ∃ target ∈ call.owner.warpTargets name, target.location ∈ hits call.log
  | .montageCompleted | .montageInterrupted => True

/-- A call that warps finds its start and its middle itself. A position left from
before passes only where it coincides with something the call hits. -/
def FindsItsPath (state : Vaulting K) : VaultEvent K → Prop
  | .vault world =>
      world.warps state.component.canWarp = true → ∀ obstacle ∈ world.obstacle?,
        (world.blocked obstacle 0 = true ∨ state.component.vaultStartPos ∈ world.callHits) ∧
          (world.blockedSamples obstacle ≠ [] ∨ state.component.vaultMiddlePos ∈ world.callHits)
  | .montageCompleted | .montageInterrupted => True

instance [DecidableEq K] (state : Vaulting K) :
    (event : VaultEvent K) → Decidable (state.FreshTargets event)
  | .vault _ => inferInstanceAs (Decidable (_ → ∀ _name, ∃ target ∈ _, _ ∈ _))
  | .montageCompleted | .montageInterrupted => inferInstanceAs (Decidable True)

/-- A call whose first height sample is blocked finds its path. -/
theorem findsItsPath_of_blocked {state : Vaulting K} {world : World K}
    (first : ∀ obstacle ∈ world.obstacle?, world.blocked obstacle 0 = true) :
    state.FindsItsPath (.vault world) := by
  intro _ obstacle found
  have member := (world.zero_mem_blockedSamples obstacle).mpr (first obstacle found)
  exact ⟨.inl (first obstacle found), .inl (List.ne_nil_of_mem member)⟩

/-- A warp whose first height sample is free starts where an earlier call left the
start. -/
theorem vault_start_of_free {state : Vaulting K} {world : World K} {obstacle : FHitResult K}
    (found : world.obstacle? = some obstacle) (free : world.blocked obstacle 0 = false) :
    (state.vault world).component.vaultStartPos = state.component.vaultStartPos := by
  rw [vault_component_eq, found]
  simp [explored, takeSamples, world.zero_mem_blockedSamples, free]

theorem freshTargets_iff (state : Vaulting K) (event : VaultEvent K) :
    state.FreshTargets event ↔ state.FindsItsPath event := by
  cases event with
  | montageCompleted => exact Iff.rfl
  | montageInterrupted => exact Iff.rfl
  | vault world =>
      rcases vault_cases world state.component state.owner with
        ⟨warps, starts, owner⟩ | ⟨stays, starts, owner⟩
      · obtain ⟨obstacle, found, landing, ground, -⟩ := (world.warps_iff _).mp warps
        have registers : state.FreshTargets (.vault world) ↔ ∀ name,
            (state.component.explored world obstacle).position name ∈ world.callHits := by
          simp only [FreshTargets, starts, owner, hits_vault, vault_component, found]
          simp
        rw [registers, explored_position_mem_callHits_iff found ground]
        simp [FindsItsPath, warps, found]
      · exact iff_of_true (fun warps => absurd (starts.symm.trans warps) Bool.false_ne_true)
          fun warps => absurd (stays.symm.trans warps) Bool.false_ne_true

/-- In every run of calls and callbacks, every warp goes to positions found by the
call that starts it exactly when every call that warps finds its path. -/
theorem vaulting_freshTargets_iff (start : Vaulting K) (events : List (VaultEvent K)) :
    vaulting.EachStep FreshTargets start events ↔ vaulting.EachStep FindsItsPath start events :=
  eachStep_congr freshTargets_iff start events

/-- A call along a block too long to land behind sets the start and lets the component
warp. The next one, elsewhere and with nothing to climb, warps from that start. -/
theorem vault_starts_elsewhere :
    ¬ vaulting.EachStep FreshTargets ⟨construct 0 0 0, standing, []⟩
        [.vault (course 0 [0, 1, 2, 3, 4, 5]), .vault (course 1000 [])] ∧
      ((vaulting.run ⟨construct 0 0 0, standing, []⟩
        [.vault (course 0 [0, 1, 2, 3, 4, 5]),
          .vault (course 1000 [])]).owner.warpTargets .vaultStart).map (·.location) =
        some ⟨100, 0, 50⟩ ∧
      (course 1000 []).callHits = [⟨1100, 0, 0⟩, ⟨1180, 0, -90⟩] := by
  decide +kernel

end Freshness

section Grounding

/-- When no montage plays, the owner walks and collides. -/
def Grounded (state : Vaulting K) : Prop :=
  state.owner.playing = none →
    state.owner.movementMode = .walking ∧ state.owner.actorEnableCollision = true

/-- While a montage plays, the owner flies. -/
def Airborne (state : Vaulting K) : Prop :=
  state.owner.playing.isSome = true → state.owner.movementMode = .flying

/-- The montage of a warp can start, unless another one keeps playing, and no montage
is interrupted. -/
def PlaysOut (state : Vaulting K) : VaultEvent K → Prop
  | .vault world =>
      world.warps state.component.canWarp = true → state.owner.playing = none →
        state.component.vaultMontage.isSome = true ∧ world.canPlayMontage = true
  | .montageCompleted => True
  | .montageInterrupted => False

instance (state : Vaulting K) : Decidable state.Grounded :=
  inferInstanceAs (Decidable (_ → _ ∧ _))

instance (state : Vaulting K) : (event : VaultEvent K) → Decidable (state.PlaysOut event)
  | .vault _ => inferInstanceAs (Decidable (_ → _ → _ ∧ _))
  | .montageCompleted => inferInstanceAs (Decidable True)
  | .montageInterrupted => inferInstanceAs (Decidable False)

/-- A montage plays only after a warp, and what ends it leaves nothing playing. -/
theorem airborne_invariant : (played (K := K)).Invariant Airborne where
  preserved := by
    rintro state event airborne -
    cases event with
    | vault world =>
        intro plays
        change (state.vault world).owner.playing.isSome = true at plays
        change (state.vault world).owner.movementMode = .flying
        rcases state.vault_spec world with ⟨-, owner, -⟩ | ⟨-, owner, -⟩
        · rw [owner, startWarp_movementMode]
        · rw [owner] at plays ⊢
          exact airborne plays
    | montageCompleted => exact fun plays => absurd plays Bool.false_ne_true
    | montageInterrupted => exact fun plays => absurd plays Bool.false_ne_true

/-- A call leaves the owner grounded exactly when the montage of its warp plays. -/
theorem vault_grounded_iff {state : Vaulting K} (grounded : state.Grounded) (world : World K) :
    (state.vault world).Grounded ↔ state.PlaysOut (.vault world) := by
  rcases state.vault_spec world with ⟨warps, owner, -⟩ | ⟨stays, owner, -⟩
  · rw [Grounded, owner, startWarp_movementMode, PlaysOut, ← vault_vaultMontage state world,
      ← startWarp_playing_ne_none_iff]
    exact ⟨fun grounded _ idle => MovementMode.noConfusion (grounded idle).1,
      fun plays idle => absurd idle (plays warps)⟩
  · have kept : (state.vault world).Grounded := by
      rw [Grounded, owner]
      exact grounded
    exact iff_of_true kept fun warps => absurd (stays.symm.trans warps) Bool.false_ne_true

/-- One step keeps the owner grounded exactly when it lets the montage play out. -/
theorem grounded_exact : (played (K := K)).ExactCondition Airborne Grounded PlaysOut where
  supported := airborne_invariant
  exact := by
    intro state event airborne grounded admits
    cases event with
    | vault world => exact vault_grounded_iff grounded world
    | montageCompleted => exact iff_of_true (fun _ => ⟨rfl, rfl⟩) trivial
    | montageInterrupted =>
        refine iff_of_false (fun landed => ?_) id
        have walking : state.owner.movementMode = .walking := (landed rfl).1
        rw [airborne admits.2] at walking
        contradiction

/-- From a walking owner with collision and no montage playing, the owner walks and
collides whenever no montage plays, in every state of a run, exactly when every
warp of the run has a montage that starts and no montage is interrupted. -/
theorem played_grounded_iff (component : VaultComponent K) (owner : VaultOwner K)
    (walking : owner.movementMode = .walking) (collides : owner.actorEnableCollision = true)
    (idle : owner.playing = none) (events : List (VaultEvent K))
    (admissible : played.Admissible ⟨component, owner, []⟩ events) :
    played.Throughout Grounded ⟨component, owner, []⟩ events ↔
      played.EachStep PlaysOut ⟨component, owner, []⟩ events := by
  refine grounded_exact.throughout_iff ?_ (fun _ => ⟨walking, collides⟩) admissible
  intro plays
  rw [idle] at plays
  contradiction

/-- A vault that completes, and one that is replaced by the next, which completes. -/
theorem played_grounded_two_vaults :
    played.Throughout Grounded ⟨construct 0 0 0 (some ⟨"Vault"⟩), standing, []⟩
      [.vault (course 0 [0]), .montageCompleted, .vault (course 500 [0, 1]),
        .vault (course 510 [0, 1]), .montageCompleted] :=
  (played_grounded_iff (construct 0 0 0 (some ⟨"Vault"⟩)) standing rfl rfl rfl _
    (by decide +kernel)).mpr (by decide +kernel)

/-- An interrupted vault leaves the owner flying without collision. -/
theorem interrupted_vault_keeps_flying :
    played.Admissible ⟨construct 0 0 0 (some ⟨"Vault"⟩), standing, []⟩
        [.vault (course 0 [0]), .montageInterrupted] ∧
      (played.run ⟨construct 0 0 0 (some ⟨"Vault"⟩), standing, []⟩
        [.vault (course 0 [0]), .montageInterrupted]).owner.movementMode = .flying ∧
      (played.run ⟨construct 0 0 0 (some ⟨"Vault"⟩), standing, []⟩
        [.vault (course 0 [0]), .montageInterrupted]).owner.actorEnableCollision = false ∧
      ¬ played.Throughout Grounded ⟨construct 0 0 0 (some ⟨"Vault"⟩), standing, []⟩
        [.vault (course 0 [0]), .montageInterrupted] := by
  decide +kernel

end Grounding

section Reentrancy

/-- While a warp is in progress, a call changes no position and no target and starts
no montage. -/
def Undisturbed (state : Vaulting K) : VaultEvent K → Prop
  | .vault world =>
      state.inProgress ≠ [] →
        (∀ name, (state.vault world).component.position name = state.component.position name) ∧
          (∀ name, (state.vault world).owner.warpTargets name = state.owner.warpTargets name) ∧
            (state.vault world).owner.playing = state.owner.playing
  | .montageCompleted | .montageInterrupted => True

instance [DecidableEq K] (state : Vaulting K) :
    (event : VaultEvent K) → Decidable (state.Undisturbed event)
  | .vault _ =>
      inferInstanceAs (Decidable (_ ≠ [] → (∀ _name, _ = _) ∧ (∀ _name, _ = _) ∧ _ = _))
  | .montageCompleted | .montageInterrupted => inferInstanceAs (Decidable True)

/-- A start, middle or landing that a call during a warp finds is where the last one was, and
if it warps, it registers what is registered and has no montage to play. -/
def FindsNothingNew (state : Vaulting K) : VaultEvent K → Prop
  | .vault world =>
      state.inProgress ≠ [] →
        (∀ obstacle ∈ world.obstacle?,
          (world.blocked obstacle 0 = true →
              world.sampleLocation obstacle 0 = state.component.vaultStartPos) ∧
            (∀ last ∈ (world.blockedSamples obstacle).getLast?,
              world.sampleLocation obstacle last = state.component.vaultMiddlePos) ∧
              ∀ landing ∈ world.landing? obstacle,
                world.landLocation obstacle landing = state.component.vaultLandPos) ∧
          (world.warps state.component.canWarp = true →
            (∀ name, state.owner.warpTargets name =
              some ⟨state.component.position name, world.actorRotation⟩) ∧
              (state.component.vaultMontage.isSome && world.canPlayMontage) = false)
  | .montageCompleted | .montageInterrupted => True

/-- A call that comes while a warp is in progress starts no other. -/
def WarpsAlone (state : Vaulting K) : VaultEvent K → Prop
  | .vault world => state.inProgress ≠ [] → world.warps state.component.canWarp = false
  | .montageCompleted | .montageInterrupted => True

/-- The positions survive a call exactly when whatever it finds is already there. -/
theorem vault_position_eq_iff (state : Vaulting K) (world : World K) :
    (∀ name, (state.vault world).component.position name = state.component.position name) ↔
      ∀ obstacle ∈ world.obstacle?,
        (world.blocked obstacle 0 = true →
            world.sampleLocation obstacle 0 = state.component.vaultStartPos) ∧
          (∀ last ∈ (world.blockedSamples obstacle).getLast?,
            world.sampleLocation obstacle last = state.component.vaultMiddlePos) ∧
            ∀ landing ∈ world.landing? obstacle,
              world.landLocation obstacle landing = state.component.vaultLandPos := by
  rw [vault_component_eq]
  cases found : world.obstacle? with
  | none => simp
  | some obstacle => simpa using explored_position_eq_iff

theorem undisturbed_iff (state : Vaulting K) (event : VaultEvent K) :
    state.Undisturbed event ↔ state.FindsNothingNew event := by
  cases event with
  | montageCompleted => exact Iff.rfl
  | montageInterrupted => exact Iff.rfl
  | vault world =>
      refine imp_congr_right fun _ => ?_
      rw [← vault_position_eq_iff]
      refine and_congr_right fun stays => ?_
      rcases state.vault_spec world with ⟨warps, owner, -⟩ | ⟨quiet, owner, -⟩
      · have targets : (∀ name, (state.vault world).owner.warpTargets name =
              state.owner.warpTargets name) ↔
            ∀ name, state.owner.warpTargets name =
              some ⟨state.component.position name, world.actorRotation⟩ := by
          refine forall_congr' fun name => ?_
          rw [owner, startWarp_warpTargets, stays, eq_comm]
        have montage : (state.vault world).owner.playing = state.owner.playing ↔
            (state.component.vaultMontage.isSome && world.canPlayMontage) = false := by
          rw [owner, startWarp_playing_eq_iff, vault_vaultMontage]
        rw [targets, montage]
        exact ⟨fun same _ => same, fun same => same warps⟩
      · rw [owner]
        exact iff_of_true ⟨fun _ => rfl, rfl⟩ fun warps =>
          absurd (quiet.symm.trans warps) Bool.false_ne_true

/-- In every run of calls and callbacks, no call disturbs a warp in progress exactly
when every call that comes during one finds nothing new. -/
theorem played_undisturbed_iff (start : Vaulting K) (events : List (VaultEvent K)) :
    played.EachStep Undisturbed start events ↔ played.EachStep FindsNothingNew start events :=
  eachStep_congr undisturbed_iff start events

/-- One step keeps at most one warp in progress exactly when no call starts another. -/
theorem warpsAlone_exact : (played (K := K)).ExactCondition (fun _ => True)
    (fun state => state.inProgress.length ≤ 1) WarpsAlone where
  supported := ⟨fun _ _ => trivial⟩
  exact := by
    intro state event _ atMostOne _
    cases event with
    | montageCompleted =>
        exact iff_of_true ((List.length_filter_le _ _).trans atMostOne) trivial
    | montageInterrupted => exact iff_of_true atMostOne trivial
    | vault world =>
        change (state.vault world).inProgress.length ≤ 1 ↔ _
        rcases state.vault_spec world with ⟨warps, -, inProgress⟩ | ⟨stays, -, inProgress⟩
        · rw [inProgress, List.length_append, List.length_singleton]
          simp only [WarpsAlone, warps, Bool.true_eq_false, imp_false, not_not,
            ← List.length_eq_zero_iff]
          omega
        · rw [inProgress]
          exact iff_of_true atMostOne fun _ => stays

/-- At most one warp is in progress in every state of a run exactly when no call during a
warp starts another. -/
theorem played_inProgress_le_one_iff {start : Vaulting K} {events : List (VaultEvent K)}
    (atMostOne : start.inProgress.length ≤ 1) (admissible : played.Admissible start events) :
    played.Throughout (fun state => state.inProgress.length ≤ 1) start events ↔
      played.EachStep WarpsAlone start events :=
  warpsAlone_exact.throughout_iff trivial atMostOne admissible

/-- A second call ten units further on starts a second warp. -/
theorem vault_during_vault :
    played.Admissible ⟨construct 0 0 0 (some ⟨"Vault"⟩), standing, []⟩
        [.vault (course 0 [0]), .vault (course 10 [0])] ∧
      (played.run ⟨construct 0 0 0 (some ⟨"Vault"⟩), standing, []⟩
        [.vault (course 0 [0]), .vault (course 10 [0])]).inProgress = [0, 1] ∧
      ¬ played.EachStep Undisturbed ⟨construct 0 0 0 (some ⟨"Vault"⟩), standing, []⟩
        [.vault (course 0 [0]), .vault (course 10 [0])] := by
  decide +kernel

end Reentrancy

end Vaulting

end RPGLearnGame
