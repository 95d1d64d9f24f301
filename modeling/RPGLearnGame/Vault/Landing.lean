import RPGLearnGame.Vault.Provenance

/-!
# Landing

An owner does not only vault. A jump or a ledge makes it fall, water makes it swim and ground
makes it walk again, none of which the vault component hears of. What the engine does not do
by itself is to make the owner fly or to take its collision away. So whether a vault is over
when its montage is over depends on vaults alone, though not what the owner does instead.
-/

namespace RPGLearnGame

open EventMachine

/-- What happens to an owner that vaults and moves. -/
inductive OwnerEvent (K : Type*) where
  | warping (event : WarpEvent K)
  /-- The movement component changes its mode by itself. -/
  | movementMode (movementMode : MovementMode)

namespace Vaulting

open VaultComponent

variable {K : Type*} [Field K] [LinearOrder K] [ToFloat K]

/-- The owner goes over to another movement mode. -/
def setMovementMode (state : Vaulting K) (movementMode : MovementMode) : Vaulting K :=
  { state with owner := { state.owner with movementMode } }

/-- Calls of both functions, callbacks of the montage that plays, and changes of the movement
mode to anything but flying. -/
def moving : EventMachine (Vaulting K) (OwnerEvent K) where
  Admits
    | state, .warping (.vaulting event) => state.Plays event
    | _, .warping (.vaultMotionWarp _) => True
    | _, .movementMode movementMode => movementMode ≠ .flying
  next
    | state, .warping event => warping.next state event
    | state, .movementMode movementMode => state.setMovementMode movementMode

/-- When no montage plays, the owner does not fly, and it collides. -/
def Landed (state : Vaulting K) : Prop :=
  state.owner.playing = none →
    state.owner.movementMode ≠ .flying ∧ state.owner.actorEnableCollision = true

/-- While a montage plays, the owner does not collide. -/
def Intangible (state : Vaulting K) : Prop :=
  state.owner.playing.isSome = true → state.owner.actorEnableCollision = false

instance (state : Vaulting K) : Decidable state.Landed :=
  inferInstanceAs (Decidable (_ → _ ∧ _))

/-- A motion warp on its own has a montage that can start, unless another one keeps
playing. -/
def WarpPlaysOut (state : Vaulting K) (world : World K) : Prop :=
  state.component.canWarp = true → world.inReach state.component.vaultLandPos = true →
    state.owner.playing = none →
      state.component.vaultMontage.isSome = true ∧ world.canPlayMontage = true

instance (state : Vaulting K) (world : World K) : Decidable (state.WarpPlaysOut world) :=
  inferInstanceAs (Decidable (_ → _ → _ → _ ∧ _))

/-- The montage of every warp can start, unless another one keeps playing, and no montage is
interrupted. -/
def LetsLand (state : Vaulting K) : OwnerEvent K → Prop
  | .warping (.vaulting event) => state.PlaysOut event
  | .warping (.vaultMotionWarp world) => state.WarpPlaysOut world
  | .movementMode _ => True

/-- A motion warp on its own, by what it does to the owner. -/
theorem vaultMotionWarp_owner_cases (state : Vaulting K) (world : World K) :
    ((state.component.canWarp = true ∧ world.inReach state.component.vaultLandPos = true) ∧
        (state.vaultMotionWarp world).owner = startWarp world state.component state.owner) ∨
      (¬ (state.component.canWarp = true ∧ world.inReach state.component.vaultLandPos = true) ∧
        (state.vaultMotionWarp world).owner = state.owner) := by
  rcases state.motionWarpCall_cases world with ⟨warps, -, owner⟩ | ⟨stays, -, owner⟩
  · exact .inl ⟨warps, owner⟩
  · exact .inr ⟨stays, owner⟩

omit [Field K] [LinearOrder K] [ToFloat K] in
/-- A warp leaves an owner landed when the montage that played goes on or its own starts. -/
theorem landed_of_startWarp_iff {state after : Vaulting K} {world : World K}
    {component : VaultComponent K} (owner : after.owner = startWarp world component state.owner) :
    after.Landed ↔ (state.owner.playing = none →
      component.vaultMontage.isSome = true ∧ world.canPlayMontage = true) := by
  rw [Landed, owner, ← startWarp_playing_ne_none_iff]
  exact ⟨fun landed idle => (landed idle).1 rfl, fun plays idle => absurd idle plays⟩

/-- A montage plays only after a warp, and only its completion gives the collision back. -/
theorem intangible_invariant : (moving (K := K)).Invariant Intangible where
  preserved := by
    rintro state event intangible admits
    cases event with
    | movementMode movementMode => exact intangible
    | warping event =>
        cases event with
        | vaultMotionWarp world =>
            intro plays
            change (state.vaultMotionWarp world).owner.playing.isSome = true at plays
            change (state.vaultMotionWarp world).owner.actorEnableCollision = false
            rcases state.vaultMotionWarp_owner_cases world with ⟨-, owner⟩ | ⟨-, owner⟩
            · rw [owner, startWarp_actorEnableCollision]
            · rw [owner] at plays ⊢
              exact intangible plays
        | vaulting event =>
            cases event with
            | montageCompleted => exact fun plays => absurd plays Bool.false_ne_true
            | montageInterrupted => exact fun plays => absurd plays Bool.false_ne_true
            | vault world =>
                intro plays
                change (state.vault world).owner.playing.isSome = true at plays
                change (state.vault world).owner.actorEnableCollision = false
                rcases state.vault_spec world with ⟨-, owner, -⟩ | ⟨-, owner, -⟩
                · rw [owner, startWarp_actorEnableCollision]
                · rw [owner] at plays ⊢
                  exact intangible plays

/-- One step leaves the owner landed exactly when it lets montages play out. -/
theorem landed_exact : (moving (K := K)).ExactCondition Intangible Landed LetsLand where
  supported := intangible_invariant
  exact := by
    intro state event intangible landed admits
    cases event with
    | movementMode movementMode => exact iff_of_true (fun idle => ⟨admits, (landed idle).2⟩) trivial
    | warping event =>
        cases event with
        | vaultMotionWarp world =>
            change (state.vaultMotionWarp world).Landed ↔ state.WarpPlaysOut world
            rcases state.vaultMotionWarp_owner_cases world with ⟨warps, owner⟩ | ⟨stays, owner⟩
            · rw [landed_of_startWarp_iff owner]
              exact ⟨fun plays _ _ => plays, fun plays => plays warps.1 warps.2⟩
            · refine iff_of_true ?_ fun canWarp inReach => absurd ⟨canWarp, inReach⟩ stays
              rw [Landed, owner]
              exact landed
        | vaulting event =>
            cases event with
            | montageCompleted =>
                exact iff_of_true (fun _ => ⟨MovementMode.noConfusion, rfl⟩) trivial
            | montageInterrupted =>
                refine iff_of_false (fun landed => ?_) id
                have collides : state.owner.actorEnableCollision = true := (landed rfl).2
                exact Bool.false_ne_true ((intangible admits).symm.trans collides)
            | vault world =>
                change (state.vault world).Landed ↔ state.PlaysOut (.vault world)
                rcases state.vault_spec world with ⟨warps, owner, -⟩ | ⟨stays, owner, -⟩
                · rw [landed_of_startWarp_iff owner, vault_vaultMontage]
                  exact ⟨fun plays _ => plays, fun plays => plays warps⟩
                · refine iff_of_true ?_ fun warps =>
                    absurd (stays.symm.trans warps) Bool.false_ne_true
                  rw [Landed, owner]
                  exact landed

end Vaulting

end RPGLearnGame
