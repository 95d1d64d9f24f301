import RPGLearnGame.Engine.Controls
import RPGLearnGame.Semantics.Accounting
import RPGLearnGame.Semantics.Twin

/-!
# Moving and looking

`Move` reads the stick against the camera: it flattens the control rotation to its yaw
and pushes along that heading and to the right of it. `Look` passes the stick on to the
controller, whose next rotation update turns the camera by it.

Pitch and roll play no part, and the two pushes of one callback are at right angles. So
the movement that a pawn is asked for turns with the camera, and over one frame it is
the sum of the sticks, neither longer nor shorter.
-/

namespace RPGLearnGame

open EventMachine

namespace Steering

variable {K : Type*} [Field K] (trig : SinCos K) (scales : InputScales K)

/-- `ARPGLearnGameCharacter::Move`. -/
def move (pawn : Steering K) (movementVector : FVector2D K) : Steering K :=
  match pawn.controller with
  | some controller =>
      let rotation := controller.controlRotation
      let yawRotation : FRotator K := ⟨0, rotation.yaw, 0⟩
      let forwardDirection := (yawRotation.rotationMatrix trig).xAxis
      let rightDirection := (yawRotation.rotationMatrix trig).yAxis
      let pawn := pawn.addMovementInput forwardDirection movementVector.y
      pawn.addMovementInput rightDirection movementVector.x
  | none => pawn

/-- `ARPGLearnGameCharacter::Look`. -/
def look (pawn : Steering K) (lookAxisVector : FVector2D K) : Steering K :=
  match pawn.controller with
  | some _ =>
      let pawn := pawn.addControllerYawInput scales lookAxisVector.x
      pawn.addControllerPitchInput scales lookAxisVector.y
  | none => pawn

/-- What happens to the steering of a pawn. -/
inductive Event (K : Type*) where
  | move (movementVector : FVector2D K)
  | look (lookAxisVector : FVector2D K)
  | consumeMovementInputVector
  | updateRotation (pitch roll : K)
  | possessedBy (controlRotation : FRotator K)
  | unPossessed
deriving DecidableEq, Repr

/-- The two input callbacks and the engine's updates, in any order. -/
def steering : EventMachine (Steering K) (Event K) where
  Admits _ _ := True
  next
    | pawn, .move movementVector => pawn.move trig movementVector
    | pawn, .look lookAxisVector => pawn.look scales lookAxisVector
    | pawn, .consumeMovementInputVector => pawn.consumeMovementInputVector
    | pawn, .updateRotation pitch roll => pawn.updateRotation pitch roll
    | pawn, .possessedBy controlRotation => pawn.possessedBy controlRotation
    | pawn, .unPossessed => pawn.unPossessed

/-- The yaw of the camera and the turn it has been asked for. -/
def heading? (pawn : Steering K) : Option (K × K) :=
  pawn.controller.map fun controller =>
    (controller.controlRotation.yaw, controller.rotationInput.yaw)

/-- The movement that the pawn has been asked for, seen from above. -/
def plane (pawn : Steering K) : K × K := (pawn.controlInputVector.x, pawn.controlInputVector.y)

section Callbacks

variable {trig} {scales} {pawn : Steering K}

/-- A push without a controller is lost. -/
theorem move_of_none (unpossessed : pawn.heading? = none) (movementVector : FVector2D K) :
    pawn.move trig movementVector = pawn := by
  simp [move, Option.map_eq_none_iff.mp unpossessed]

/-- A push leaves the controller alone. -/
@[simp] theorem move_controller (movementVector : FVector2D K) :
    (pawn.move trig movementVector).controller = pawn.controller := by
  unfold move
  split
  · rfl
  · rfl

/-- A push goes along the heading, whatever the pitch and the roll. -/
theorem move_plane {yaw asked : K} (heading : pawn.heading? = some (yaw, asked))
    (movementVector : FVector2D K) :
    (pawn.move trig movementVector).plane =
      pawn.plane + trig.turn yaw (movementVector.y, movementVector.x) := by
  obtain ⟨controller, possessed, components⟩ := Option.map_eq_some_iff.mp heading
  obtain ⟨rfl, -⟩ := Prod.mk.inj components
  ext
  · simp only [plane, move, possessed, addMovementInput, FRotator.rotationMatrix, trig.sin_zero,
      trig.cos_zero, SinCos.turn]
    change _ + _ + _ = _ + _
    simp only [FVector.scale]
    ring
  · simp only [plane, move, possessed, addMovementInput, FRotator.rotationMatrix, trig.sin_zero,
      trig.cos_zero, SinCos.turn]
    change _ + _ + _ = _ + _
    simp only [FVector.scale]
    ring

/-- A push is level. -/
theorem move_level (movementVector : FVector2D K) :
    (pawn.move trig movementVector).controlInputVector.z = pawn.controlInputVector.z := by
  unfold move
  split
  · change _ + _ * _ + _ * _ = _
    simp [FRotator.rotationMatrix, trig.sin_zero]
  · rfl

/-- A look adds to the turn that the camera is asked for. -/
theorem look_controller (lookAxisVector : FVector2D K) :
    (pawn.look scales lookAxisVector).controller =
      pawn.controller.map fun controller =>
        { controller with rotationInput :=
            { controller.rotationInput with
              yaw := controller.rotationInput.yaw + lookAxisVector.x * scales.yaw
              pitch := controller.rotationInput.pitch + lookAxisVector.y * scales.pitch } } := by
  unfold look
  cases possessed : pawn.controller with
  | none => simp [possessed]
  | some controller =>
      simp [addControllerYawInput, addControllerPitchInput, possessed, Controller.addYawInput,
        Controller.addPitchInput]

/-- A look moves nothing. -/
@[simp] theorem look_controlInputVector (lookAxisVector : FVector2D K) :
    (pawn.look scales lookAxisVector).controlInputVector = pawn.controlInputVector := by
  unfold look
  split
  · rfl
  · rfl

end Callbacks

section Turned

/-- The same event around a camera that looks further round. Its pitch and roll are put
wherever `tilt` says. -/
def turnedBy (offset : K) (tilt : K → K → K × K) : Event K → Event K
  | .updateRotation pitch roll => .updateRotation (tilt pitch roll).1 (tilt pitch roll).2
  | .possessedBy rotation =>
      .possessedBy ⟨(tilt rotation.pitch rotation.roll).1, rotation.yaw + offset,
        (tilt rotation.pitch rotation.roll).2⟩
  | event => event

/-- Two pawns whose cameras look an offset apart, and of which the second has been asked
for the movement of the first, turned by the offset. -/
structure SteersAlike (offset : K) (pair : Steering K × Steering K) : Prop where
  heading : pair.2.heading? = pair.1.heading?.map fun heading => (heading.1 + offset, heading.2)
  movement : pair.2.plane = trig.turn offset pair.1.plane
  level : pair.2.controlInputVector.z = pair.1.controlInputVector.z

/-- Pawns that steer alike go on steering alike. -/
theorem steersAlike_invariant (offset : K) (tilt : K → K → K × K) :
    ((steering trig scales).twin (turnedBy offset tilt)).Invariant (SteersAlike trig offset) where
  preserved := by
    rintro ⟨pawn, other⟩ event ⟨heading, movement, level⟩ -
    dsimp only at heading movement level
    cases event with
    | move movementVector =>
        suffices alike : SteersAlike trig offset
            (pawn.move trig movementVector, other.move trig movementVector) from alike
        cases own : pawn.heading? with
        | none =>
            have unpossessed : other.heading? = none := by rw [heading, own, Option.map_none]
            rw [move_of_none own, move_of_none unpossessed]
            exact ⟨heading, movement, level⟩
        | some seen =>
            have theirs : other.heading? = some (seen.1 + offset, seen.2) := by
              rw [heading, own, Option.map_some]
            refine ⟨?_, ?_, ?_⟩
            · simpa only [heading?, move_controller] using heading
            · rw [move_plane theirs, move_plane own, movement, trig.turn_add, trig.turn_turn]
            · rw [move_level, move_level, level]
    | look lookAxisVector =>
        suffices alike : SteersAlike trig offset
            (pawn.look scales lookAxisVector, other.look scales lookAxisVector) from alike
        have asked : ∀ pawn : Steering K, (pawn.look scales lookAxisVector).heading? =
            pawn.heading?.map fun heading =>
              (heading.1, heading.2 + lookAxisVector.x * scales.yaw) := by
          intro pawn
          simp only [heading?, look_controller, Option.map_map]
          rfl
        refine ⟨?_, ?_, ?_⟩
        · rw [asked, asked, heading, Option.map_map, Option.map_map]
          rfl
        · simpa only [plane, look_controlInputVector] using movement
        · simpa only [look_controlInputVector] using level
    | consumeMovementInputVector =>
        exact ⟨heading, (trig.turn_origin offset).symm, rfl⟩
    | updateRotation pitch roll =>
        refine ⟨?_, movement, level⟩
        have turned : ∀ (pawn : Steering K) (pitch roll : K),
            (pawn.updateRotation pitch roll).heading? =
              pawn.heading?.map fun heading => (heading.1 + heading.2, 0) := by
          intro pawn pitch roll
          simp only [heading?, updateRotation, Option.map_map]
          rfl
        change (other.updateRotation _ _).heading? =
          (pawn.updateRotation pitch roll).heading?.map _
        rw [turned, turned, heading, Option.map_map, Option.map_map]
        refine congrArg (fun change => pawn.heading?.map change) (funext fun seen => ?_)
        exact Prod.ext (add_right_comm seen.1 offset seen.2) rfl
    | possessedBy controlRotation => exact ⟨rfl, movement, level⟩
    | unPossessed => exact ⟨rfl, movement, level⟩

/-- Movement is relative to the camera, over any run of pushes, looks, engine updates and
changes of controller: with the camera a constant angle further round, and pitched and
rolled in any other way, the pawn is asked for the same movement turned by that angle,
as long as it was and as high. -/
theorem steering_turned (offset : K) (tilt : K → K → K × K) (pawn other : Steering K)
    (alike : SteersAlike trig offset (pawn, other)) (events : List (Event K)) :
    ((steering trig scales).run other (events.map (turnedBy offset tilt))).plane =
        trig.turn offset ((steering trig scales).run pawn events).plane ∧
      SinCos.lengthSq ((steering trig scales).run other (events.map (turnedBy offset tilt))).plane =
        SinCos.lengthSq ((steering trig scales).run pawn events).plane ∧
      ((steering trig scales).run other (events.map (turnedBy offset tilt))).controlInputVector.z =
        ((steering trig scales).run pawn events).controlInputVector.z := by
  have admissible : ((steering trig scales).twin (turnedBy offset tilt)).Admissible
      (pawn, other) events :=
    eachStep_of_forall (fun _ _ _ => ⟨trivial, trivial⟩) _
  have final := ((steersAlike_invariant trig scales offset tilt).throughout alike admissible).final
  rw [run_twin] at final
  refine ⟨final.movement, ?_, final.level⟩
  rw [final.movement, trig.lengthSq_turn]

/-- A walk that turns right about, seen with the camera thirty degrees further round and
lying on its side. -/
theorem steering_turned_walk :
    ((steering .degrees ⟨5 / 2, -5 / 2⟩).run ⟨none, 0⟩
        ([.possessedBy ⟨0, 0, 0⟩, .move ⟨1, 1⟩, .look ⟨180, -10⟩, .updateRotation (-10) 0,
          .move ⟨0, 1⟩].map (turnedBy 30 fun _ _ => (0, 90)))).plane =
      SinCos.degrees.turn 30 ((steering .degrees ⟨5 / 2, -5 / 2⟩).run ⟨none, 0⟩
        [.possessedBy ⟨0, 0, 0⟩, .move ⟨1, 1⟩, .look ⟨180, -10⟩, .updateRotation (-10) 0,
          .move ⟨0, 1⟩]).plane :=
  (steering_turned .degrees ⟨5 / 2, -5 / 2⟩ 30 _ ⟨none, 0⟩ ⟨none, 0⟩
    ⟨rfl, (SinCos.degrees.turn_origin 30).symm, rfl⟩ _).1

end Turned

section Frame

/-- The stick of a push, forward first. -/
def pushed (_pawn : Steering K) : Event K → K × K
  | .move movementVector => (movementVector.y, movementVector.x)
  | _ => 0

/-- The stick of a look, yaw first. -/
def looked (_pawn : Steering K) : Event K → K × K
  | .look lookAxisVector => (lookAxisVector.x, lookAxisVector.y)
  | _ => 0

/-- The input callbacks only. -/
def IsInput (_pawn : Steering K) : Event K → Prop
  | .move _ | .look _ => True
  | _ => False

instance (pawn : Steering K) : (event : Event K) → Decidable (pawn.IsInput event)
  | .move _ | .look _ => inferInstanceAs (Decidable True)
  | .consumeMovementInputVector | .updateRotation _ _ | .possessedBy _ | .unPossessed =>
      inferInstanceAs (Decidable False)

/-- The callbacks between two updates of the engine. -/
def frame : EventMachine (Steering K) (Event K) := (steering trig scales).guarded IsInput

/-- A controller that has been asked for a turn more, at its scales. -/
def asked (controller : Controller K) (turn : K × K) : Controller K :=
  { controller with rotationInput :=
      { controller.rotationInput with
        yaw := controller.rotationInput.yaw + turn.1 * scales.yaw
        pitch := controller.rotationInput.pitch + turn.2 * scales.pitch } }

/-- What a controller is asked for adds up. -/
theorem asked_asked (controller : Controller K) (first second : K × K) :
    asked scales (asked scales controller first) second =
      asked scales controller (first + second) := by
  simp only [asked, Prod.fst_add, Prod.snd_add, add_mul, add_assoc]

/-- The callbacks of a frame add up along the heading that the camera has in it. -/
theorem frame_run {pawn : Steering K} {controller : Controller K}
    (possessed : pawn.controller = some controller) {events : List (Event K)}
    (admissible : (frame trig scales).Admissible pawn events) :
    ((frame trig scales).run pawn events).controller =
        some (asked scales controller ((frame trig scales).total looked pawn events)) ∧
      ((frame trig scales).run pawn events).plane = pawn.plane +
        trig.turn controller.controlRotation.yaw ((frame trig scales).total pushed pawn events) ∧
      ((frame trig scales).run pawn events).controlInputVector.z = pawn.controlInputVector.z := by
  induction events generalizing pawn controller with
  | nil =>
      refine ⟨?_, ?_, rfl⟩
      · simp [possessed, asked]
      · simp
  | cons event rest inductionHypothesis =>
      obtain ⟨⟨-, isInput⟩, later⟩ := admissible
      cases event with
      | move movementVector =>
          have still : (pawn.move trig movementVector).controller = some controller := by
            rw [move_controller, possessed]
          obtain ⟨camera, movement, level⟩ := inductionHypothesis still later
          have heading : pawn.heading? =
              some (controller.controlRotation.yaw, controller.rotationInput.yaw) := by
            rw [heading?, possessed, Option.map_some]
          refine ⟨?_, ?_, ?_⟩
          · have silent : looked pawn (.move movementVector) = 0 := rfl
            rw [run_cons, total_cons, silent, zero_add]
            exact camera
          · rw [run_cons, total_cons, pushed, trig.turn_add, ← add_assoc, ← move_plane heading]
            exact movement
          · rw [run_cons]
            exact level.trans (move_level movementVector)
      | look lookAxisVector =>
          have turning : (pawn.look scales lookAxisVector).controller =
              some (asked scales controller (lookAxisVector.x, lookAxisVector.y)) := by
            rw [look_controller, possessed, Option.map_some]
            rfl
          obtain ⟨camera, movement, level⟩ := inductionHypothesis turning later
          refine ⟨?_, ?_, ?_⟩
          · rw [run_cons, total_cons, looked, ← asked_asked]
            exact camera
          · have silent : pushed pawn (.look lookAxisVector) = 0 := rfl
            have unmoved : (pawn.look scales lookAxisVector).plane = pawn.plane := by
              rw [plane, look_controlInputVector, plane]
            rw [run_cons, total_cons, silent, zero_add, ← unmoved]
            exact movement
          · rw [run_cons]
            exact level.trans (congrArg FVector.z (look_controlInputVector lookAxisVector))
      | consumeMovementInputVector | updateRotation | possessedBy | unPossessed =>
          exact isInput.elim

/-- Over one frame, in whatever order pushes and looks come, the pawn is asked for the sum
of the pushes along and across its heading: level, and exactly as long as the sum of the
sticks. The camera is asked for the sum of the looks, at its scales. -/
theorem frame_input (pawn : Steering K) (controller : Controller K)
    (possessed : pawn.controller = some controller) (idle : pawn.controlInputVector = 0)
    (events : List (Event K)) (admissible : (frame trig scales).Admissible pawn events) :
    ((frame trig scales).run pawn events).plane =
        trig.turn controller.controlRotation.yaw ((frame trig scales).total pushed pawn events) ∧
      SinCos.lengthSq ((frame trig scales).run pawn events).plane =
        SinCos.lengthSq ((frame trig scales).total pushed pawn events) ∧
      ((frame trig scales).run pawn events).controlInputVector.z = 0 ∧
      ((frame trig scales).run pawn events).controller =
        some (asked scales controller ((frame trig scales).total looked pawn events)) := by
  obtain ⟨camera, movement, level⟩ := frame_run trig scales possessed admissible
  have nothing : pawn.plane = 0 := by
    rw [plane, idle]
    rfl
  rw [nothing, zero_add] at movement
  refine ⟨movement, ?_, ?_, camera⟩
  · rw [movement, trig.lengthSq_turn]
  · rw [level, idle]
    rfl

/-- Two pushes and a look in one frame, of which the second push takes back part of the
first. The pitch is asked for the other way round. -/
theorem frame_input_two_pushes :
    let pawn : Steering ℝ := ⟨some ⟨⟨-20, 90, 0⟩, ⟨0, 0, 0⟩⟩, 0⟩
    let after := (frame .degrees ⟨5 / 2, -5 / 2⟩).run pawn
      [.move ⟨3, 4⟩, .look ⟨5, 6⟩, .move ⟨0, -4⟩]
    SinCos.lengthSq after.plane = 9 ∧
      after.controller = some ⟨⟨-20, 90, 0⟩, ⟨-15, 25 / 2, 0⟩⟩ := by
  intro pawn after
  have input := frame_input .degrees ⟨5 / 2, -5 / 2⟩ pawn ⟨⟨-20, 90, 0⟩, ⟨0, 0, 0⟩⟩ rfl rfl
    [.move ⟨3, 4⟩, .look ⟨5, 6⟩, .move ⟨0, -4⟩]
    ⟨⟨trivial, trivial⟩, ⟨trivial, trivial⟩, ⟨trivial, trivial⟩, trivial⟩
  refine ⟨input.2.1.trans ?_, input.2.2.2.trans ?_⟩
  · norm_num [pushed, SinCos.lengthSq]
  · norm_num [looked, asked]

end Frame

end Steering

end RPGLearnGame
