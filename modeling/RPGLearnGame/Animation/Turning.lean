import RPGLearnGame.Animation.HeroAnimInstance
import RPGLearnGame.Semantics.Register
import RPGLearnGame.Semantics.Simulation
import RPGLearnGame.Semantics.Twin

/-!
# Turning and the lean

`YawnDelta` over whole runs. It stays a number as long as every worker-thread update with a
pawn comes after one on the game thread, the last of which was given some time. While the
pawn turns at a constant rate it eases towards a tenth of that rate without passing it, at
any frame rate and across the wrap of the yaw. It does not depend on the heading, except on
the first frame: there it is measured from heading zero, because nothing sets
`LastFrameRotation` to where the pawn is facing.
-/

namespace RPGLearnGame

/-- The engine's calls of the animation instance. -/
inductive AnimCall where
  | update (deltaSeconds : ℚ)
  | threadSafeUpdate (pawnOwner : Option Hero) (deltaSeconds : ℚ)

/-- The time a call is given. -/
def AnimCall.deltaSeconds : AnimCall → ℚ
  | .update deltaSeconds => deltaSeconds
  | .threadSafeUpdate _ deltaSeconds => deltaSeconds

/-- One frame with a pawn. -/
structure AnimFrame where
  deltaSeconds : ℚ
  hero : Hero

/-- A frame updates on the game thread and then on the worker thread. -/
def AnimFrame.calls (frame : AnimFrame) : List AnimCall :=
  [.update frame.deltaSeconds, .threadSafeUpdate (some frame.hero) frame.deltaSeconds]

namespace HeroAnimInstance

open EventMachine

section Defined

/-- The effect of one call. -/
def receive (self : HeroAnimInstance) : AnimCall → HeroAnimInstance
  | .update deltaSeconds => self.nativeUpdateAnimation deltaSeconds
  | .threadSafeUpdate pawnOwner deltaSeconds =>
      self.nativeThreadSafeUpdateAnimation pawnOwner deltaSeconds

/-- The calls in any order, none of them with a negative time. -/
def calls : EventMachine HeroAnimInstance AnimCall where
  Admits _ call := 0 ≤ call.deltaSeconds
  next := receive

instance (self : HeroAnimInstance) (call : AnimCall) : Decidable (calls.Admits self call) :=
  inferInstanceAs (Decidable (0 ≤ call.deltaSeconds))

/-- An update that computes the lean finds a frame time to divide by. -/
def FindsTime (self : HeroAnimInstance) : AnimCall → Prop
  | .threadSafeUpdate (some _) _ => self.deltaTime ≠ 0
  | _ => True

instance (self : HeroAnimInstance) : (call : AnimCall) → Decidable (self.FindsTime call)
  | .threadSafeUpdate (some _) _ => inferInstanceAs (Decidable (_ ≠ _))
  | .threadSafeUpdate none _ | .update _ => inferInstanceAs (Decidable True)

/-- A call keeps the lean a number exactly when it does not divide by zero. -/
theorem yawnDelta_isSome_exact :
    calls.ExactCondition (fun _ => True) (fun self => self.yawnDelta.isSome = true) FindsTime where
  supported := ⟨fun _ _ => trivial⟩
  exact := by
    rintro self call - defined -
    obtain ⟨yawnDelta, isNumber⟩ := Option.isSome_iff_exists.mp defined
    cases call with
    | update deltaSeconds => exact iff_of_true defined trivial
    | threadSafeUpdate pawnOwner deltaSeconds =>
        cases pawnOwner with
        | none =>
            refine iff_of_true ?_ trivial
            change (self.nativeThreadSafeUpdateAnimation none deltaSeconds).yawnDelta.isSome = true
            rw [threadSafe_of_none]
            exact defined
        | some hero =>
            have target := self.deltaCalculated_isSome_iff hero.actorRotation
            change (self.nativeThreadSafeUpdateAnimation (some hero) deltaSeconds).yawnDelta.isSome
              = true ↔ self.deltaTime ≠ 0
            rw [threadSafe_of_hero, isNumber, ← target]
            cases self.deltaCalculated hero.actorRotation <;> rfl

/-- The frame time that a call stores. -/
def frameTime? : AnimCall → Option ℚ
  | .update deltaSeconds => some deltaSeconds
  | .threadSafeUpdate _ _ => none

/-- The instance holds the frame time that was stored last. -/
theorem deltaTime_register : calls.Register deltaTime frameTime? where
  written := by
    intro self call
    cases call with
    | update deltaSeconds => rfl
    | threadSafeUpdate pawnOwner deltaSeconds =>
        cases pawnOwner with
        | none => rfl
        | some hero =>
            have kept := congrArg deltaTime (threadSafe_of_hero self deltaSeconds hero)
            exact kept

/-- Every worker-thread update with a pawn comes after an update on the game thread, the last
of which was given a time other than zero. -/
def Timed (events : List AnimCall) : Prop :=
  ∀ before hero deltaSeconds after,
    events = before ++ .threadSafeUpdate (some hero) deltaSeconds :: after →
      ∃ frameTime, lastWritten frameTime? before = some frameTime ∧ frameTime ≠ 0

/-- A fresh instance finds the times that the calls before have stored. -/
theorem eachStep_findsTime_iff (events : List AnimCall) :
    calls.EachStep FindsTime {} events ↔ Timed events := by
  have stored : ∀ before, (calls.run {} before).deltaTime =
      (lastWritten frameTime? before).getD 0 := deltaTime_register.run {}
  rw [eachStep_iff]
  constructor
  · intro finds before hero deltaSeconds after split
    have nonzero : (calls.run {} before).deltaTime ≠ 0 := finds before _ after split
    rw [stored] at nonzero
    cases last : lastWritten frameTime? before with
    | none => exact absurd (congrArg (Option.getD · 0) last) nonzero
    | some frameTime => exact ⟨frameTime, rfl, by simpa [last] using nonzero⟩
  · intro timed before call after split
    cases call with
    | update deltaSeconds => trivial
    | threadSafeUpdate pawnOwner deltaSeconds =>
        cases pawnOwner with
        | none => trivial
        | some hero =>
            obtain ⟨frameTime, last, nonzero⟩ := timed before hero deltaSeconds after split
            change (calls.run {} before).deltaTime ≠ 0
            rw [stored, last]
            exact nonzero

instance (events : List AnimCall) : Decidable (Timed events) :=
  decidable_of_iff _ (eachStep_findsTime_iff events)

/-- Along any calls of a fresh instance, the lean is a number throughout exactly when every
update that computes it comes after one that stored a time to divide by. -/
theorem calls_yawnDelta_isSome_iff (events : List AnimCall)
    (admissible : calls.Admissible {} events) :
    calls.Throughout (fun self => self.yawnDelta.isSome = true) {} events ↔ Timed events :=
  (yawnDelta_isSome_exact.throughout_iff trivial rfl admissible).trans
    (eachStep_findsTime_iff events)

/-- A pawn at rest that faces a heading. -/
def facing (yaw : ℚ) : Hero where
  character := .construct
  actorRotation := ⟨0, yaw, 0⟩
  velocity := 0
  velocityLength := 0
  isFalling := some false

/-- Two frames with a pawn, and a frame without time that has none. -/
theorem calls_yawnDelta_isSome_paused :
    calls.Throughout (fun self => self.yawnDelta.isSome = true) {}
      [.update (1 / 60), .threadSafeUpdate (some (facing 0)) (1 / 60), .update 0,
        .threadSafeUpdate none 0, .update (1 / 30), .threadSafeUpdate (some (facing 10)) (1 / 30)] :=
  (calls_yawnDelta_isSome_iff _ (by decide +kernel)).mpr (by decide +kernel)

/-- The first worker-thread update, before any game-thread update, divides by zero, and so
does one in a frame without time; the lean never recovers. -/
theorem undefined_lean :
    (calls.Admissible {} [.threadSafeUpdate (some (facing 0)) (1 / 60)] ∧
      ¬ calls.Throughout (fun self => self.yawnDelta.isSome = true) {}
        [.threadSafeUpdate (some (facing 0)) (1 / 60)]) ∧
    (calls.Admissible {} [.update 0, .threadSafeUpdate (some (facing 0)) 0, .update (1 / 60),
        .threadSafeUpdate (some (facing 0)) (1 / 60)] ∧
      (calls.run {} [.update 0, .threadSafeUpdate (some (facing 0)) 0, .update (1 / 60),
        .threadSafeUpdate (some (facing 0)) (1 / 60)]).yawnDelta = none) := by
  decide +kernel

end Defined

section Frames

/-- Whole frames, each of which takes some time. -/
def frames : EventMachine HeroAnimInstance AnimFrame where
  Admits _ frame := 0 < frame.deltaSeconds
  next self frame := calls.run self frame.calls

/-- A tenth of the rate at which a frame finds the pawn turned. -/
def leanTarget (self : HeroAnimInstance) (frame : AnimFrame) : ℚ :=
  Heading.wrap 360 (frame.hero.actorRotation.yaw - self.lastFrameRotation.yaw) /
    frame.deltaSeconds / 10

variable {self : HeroAnimInstance} {frame : AnimFrame}

/-- A frame is its two updates. -/
theorem frames_next :
    frames.next self frame =
      (self.nativeUpdateAnimation frame.deltaSeconds).nativeThreadSafeUpdateAnimation
        (some frame.hero) frame.deltaSeconds := rfl

@[simp] theorem frames_lastFrameRotation :
    (frames.next self frame).lastFrameRotation = frame.hero.actorRotation := by
  rw [frames_next, threadSafe_of_hero]

/-- The target of a frame that takes some time. -/
theorem deltaCalculated_eq_leanTarget (takesTime : 0 < frame.deltaSeconds) :
    (self.nativeUpdateAnimation frame.deltaSeconds).deltaCalculated frame.hero.actorRotation =
      some (self.leanTarget frame) :=
  deltaCalculated_of_ne_zero _ _ takesTime.ne'

/-- A frame that takes some time moves the lean towards its target. -/
theorem frames_yawnDelta (takesTime : 0 < frame.deltaSeconds) :
    (frames.next self frame).yawnDelta = self.yawnDelta.map fun yawnDelta =>
      Easing.approach smallNumber yawnDelta (self.leanTarget frame) (frame.deltaSeconds * 10) := by
  rw [frames_next, threadSafe_of_hero, deltaCalculated_eq_leanTarget takesTime,
    nativeUpdateAnimation_yawnDelta]
  have speed : ¬ (10 : ℚ) ≤ 0 := by norm_num
  cases self.yawnDelta with
  | none => rfl
  | some yawnDelta => simp [fInterpTo, speed]

end Frames

section TurnRate

/-- An instance and its pawn's rotation at the previous frame. -/
structure Turning where
  self : HeroAnimInstance
  actorRotation : FRotator ℚ

/-- Frames in which the pawn turns at a constant rate, by less than half a turn each, up
to whole turns of its yaw. -/
def turning (rate : ℚ) : EventMachine Turning AnimFrame where
  Admits state frame :=
    0 < frame.deltaSeconds ∧ |rate * frame.deltaSeconds| < 180 ∧
      ∃ turns : ℤ, frame.hero.actorRotation.yaw =
        state.actorRotation.yaw + rate * frame.deltaSeconds + turns * 360
  next state frame := ⟨frames.next state.self frame, frame.hero.actorRotation⟩

/-- The instance remembers where the pawn was facing, and its lean is a number. -/
structure Remembers (state : Turning) : Prop where
  rotation : state.self.lastFrameRotation = state.actorRotation
  isNumber : state.self.yawnDelta.isSome = true

/-- A frame aims the lean at a tenth of the turn rate and interpolates towards it, which
brings the lean no further away and does not take it past. -/
structure EasesOnto (rate : ℚ) (state : Turning) (frame : AnimFrame) : Prop where
  target : (state.self.nativeUpdateAnimation frame.deltaSeconds).deltaCalculated
    frame.hero.actorRotation = some (rate / 10)
  eases : ∃ before after, state.self.yawnDelta = some before ∧
    ((turning rate).next state frame).self.yawnDelta = some after ∧
      after = fInterpTo before (rate / 10) frame.deltaSeconds 10 ∧
      |after - rate / 10| ≤ |before - rate / 10| ∧
      (0 ≤ before - rate / 10 → 0 ≤ after - rate / 10) ∧
      (before - rate / 10 ≤ 0 → after - rate / 10 ≤ 0)

/-- Every frame leaves the pawn's rotation in the instance. -/
theorem remembers_invariant (rate : ℚ) : (turning rate).Invariant Remembers where
  preserved := by
    rintro state frame remembers ⟨takesTime, -, -⟩
    refine ⟨frames_lastFrameRotation, ?_⟩
    change (frames.next state.self frame).yawnDelta.isSome = true
    rw [frames_yawnDelta takesTime, Option.isSome_map]
    exact remembers.isNumber

/-- An instance that remembers the last rotation computes the turn rate, whichever way the
yaw wraps. -/
theorem leanTarget_of_turning {rate : ℚ} {state : Turning} {frame : AnimFrame}
    (remembers : Remembers state) (admits : (turning rate).Admits state frame) :
    state.self.leanTarget frame = rate / 10 := by
  obtain ⟨takesTime, small, turns, yaw⟩ := admits
  have turned : frame.hero.actorRotation.yaw - state.self.lastFrameRotation.yaw =
      rate * frame.deltaSeconds + turns * 360 := by
    rw [remembers.rotation, yaw]
    ring
  have half : |rate * frame.deltaSeconds| < 360 / 2 := small.trans_eq (by norm_num)
  rw [leanTarget, turned, Heading.wrap_add_turns (by norm_num),
    Heading.wrap_of_abs_lt (by norm_num) half, mul_div_cancel_right₀ _ takesTime.ne']

/-- A frame eases the lean towards a tenth of the turn rate. -/
theorem turning_yawnDelta {rate : ℚ} {state : Turning} {frame : AnimFrame}
    (remembers : Remembers state) (admits : (turning rate).Admits state frame) :
    ((turning rate).next state frame).self.yawnDelta =
      some (Easing.approach smallNumber (state.self.yawnDelta.getD 0) (rate / 10)
        (frame.deltaSeconds * 10)) := by
  obtain ⟨lean, isNumber⟩ := Option.isSome_iff_exists.mp remembers.isNumber
  change (frames.next state.self frame).yawnDelta = _
  rw [frames_yawnDelta admits.1, isNumber, leanTarget_of_turning remembers admits]
  rfl

/-- While the pawn turns at a constant rate, the lean eases onto a tenth of the rate at
every frame, from any lean and for any frame times. -/
theorem turning_easesOnto (rate : ℚ) (start : Turning) (remembers : Remembers start)
    (events : List AnimFrame) (admissible : (turning rate).Admissible start events) :
    (turning rate).EachStep (EasesOnto rate) start events := by
  have throughout := (remembers_invariant rate).throughout remembers admissible
  refine throughout.eachStep admissible fun state frame remembers admits => ?_
  obtain ⟨before, isNumber⟩ := Option.isSome_iff_exists.mp remembers.isNumber
  have eased : ((turning rate).next state frame).self.yawnDelta =
      some (Easing.approach smallNumber before (rate / 10) (frame.deltaSeconds * 10)) := by
    rw [turning_yawnDelta remembers admits, isNumber, Option.getD_some]
  have interpolated : Easing.approach smallNumber before (rate / 10) (frame.deltaSeconds * 10) =
      fInterpTo before (rate / 10) frame.deltaSeconds 10 := (if_neg (by norm_num)).symm
  refine ⟨?_, before, _, isNumber, eased, interpolated, ?_, ?_, ?_⟩
  · rw [deltaCalculated_eq_leanTarget admits.1, leanTarget_of_turning remembers admits]
  · exact Easing.abs_approach_sub_le _ _ _ _
  · exact Easing.approach_sub_nonneg _ _
  · exact Easing.approach_sub_nonpos _ _

/-- A quarter turn a second, from a lean to the other side: a frame of a whole second that
wraps, a half second, and a short frame. -/
theorem turning_easesOnto_quarter_turn :
    (turning 90).EachStep (EasesOnto 90)
      ⟨{ yawnDelta := some (-3), lastFrameRotation := ⟨0, 170, 0⟩ }, ⟨0, 170, 0⟩⟩
      [⟨1, facing (-100)⟩, ⟨1 / 2, facing (-55)⟩, ⟨1 / 60, facing (-107 / 2)⟩] :=
  turning_easesOnto 90 _ ⟨rfl, rfl⟩ _
    ⟨⟨by decide +kernel, by decide +kernel, -1, by decide +kernel⟩,
      ⟨by decide +kernel, by decide +kernel, 0, by decide +kernel⟩,
      ⟨by decide +kernel, by decide +kernel, 0, by decide +kernel⟩, trivial⟩

end TurnRate

section Offset

/-- The same frame of a pawn that faces further round. -/
def turnedBy (offset : ℚ) (frame : AnimFrame) : AnimFrame :=
  { frame with
    hero := { frame.hero with
      actorRotation := { frame.hero.actorRotation with
        yaw := frame.hero.actorRotation.yaw + offset } } }

/-- Two instances that have seen their pawns an offset apart and lean alike. -/
structure LeanAlike (offset : ℚ) (pair : HeroAnimInstance × HeroAnimInstance) : Prop where
  rotation : pair.2.lastFrameRotation.yaw = pair.1.lastFrameRotation.yaw + offset
  yawnDelta : pair.1.yawnDelta = pair.2.yawnDelta

/-- Instances that lean alike go on leaning alike. -/
theorem leanAlike_invariant (offset : ℚ) :
    (frames.twin (turnedBy offset)).Invariant (LeanAlike offset) where
  preserved := by
    rintro ⟨first, second⟩ frame ⟨rotation, same⟩ ⟨takesTime, takesTimeToo⟩
    dsimp only at rotation same
    have target : second.leanTarget (turnedBy offset frame) = first.leanTarget frame := by
      have turned : frame.hero.actorRotation.yaw + offset - second.lastFrameRotation.yaw =
          frame.hero.actorRotation.yaw - first.lastFrameRotation.yaw := by
        rw [rotation]
        ring
      exact congrArg (fun turn => Heading.wrap 360 turn / frame.deltaSeconds / 10) turned
    refine ⟨by simp [turnedBy], ?_⟩
    change (frames.next first frame).yawnDelta =
      (frames.next second (turnedBy offset frame)).yawnDelta
    rw [frames_yawnDelta takesTime, frames_yawnDelta takesTimeToo, target, same]
    rfl

/-- A tenth of a pawn's heading, for each second of the frame. -/
def spawnTarget (frame : AnimFrame) : ℚ :=
  Heading.wrap 360 frame.hero.actorRotation.yaw / frame.deltaSeconds / 10

/-- The offset is a whole number of turns, or the first frame eases from zero towards two
headings of which one is near enough to zero to be taken at once and is just where the
easing towards the other gets to. -/
def AgreesAtFirst (offset : ℚ) : List AnimFrame → Prop
  | [] => True
  | frame :: _ =>
      Heading.wrap 360 offset = 0 ∨
        Easing.SnapsOnto smallNumber (frame.deltaSeconds * 10) (spawnTarget frame)
          (spawnTarget (turnedBy offset frame)) ∨
        Easing.SnapsOnto smallNumber (frame.deltaSeconds * 10)
          (spawnTarget (turnedBy offset frame)) (spawnTarget frame)

instance (offset : ℚ) : (events : List AnimFrame) → Decidable (AgreesAtFirst offset events)
  | [] => inferInstanceAs (Decidable True)
  | _ :: _ => inferInstanceAs (Decidable (_ ∨ Easing.SnapsOnto _ _ _ _ ∨ Easing.SnapsOnto _ _ _ _))

/-- A fresh instance takes the whole heading of its pawn for a turn. -/
theorem fresh_leanTarget (frame : AnimFrame) :
    ({} : HeroAnimInstance).leanTarget frame = spawnTarget frame := by
  unfold leanTarget spawnTarget
  rw [sub_zero]

/-- Two fresh instances lean alike after their first frame exactly when the offset does not
show in it. -/
theorem first_frame_agrees_iff {offset : ℚ} {frame : AnimFrame} (rest : List AnimFrame)
    (takesTime : 0 < frame.deltaSeconds) :
    (frames.next {} frame).yawnDelta = (frames.next {} (turnedBy offset frame)).yawnDelta ↔
      AgreesAtFirst offset (frame :: rest) := by
  have takesTimeToo : 0 < (turnedBy offset frame).deltaSeconds := takesTime
  have part : 0 < frame.deltaSeconds * 10 := by positivity
  have sameTarget : spawnTarget frame = spawnTarget (turnedBy offset frame) ↔
      Heading.wrap 360 offset = 0 := by
    rw [← Heading.wrap_add_eq_iff (by norm_num) frame.hero.actorRotation.yaw offset, eq_comm]
    unfold spawnTarget
    rw [div_left_inj' (by norm_num)]
    exact div_left_inj' takesTime.ne'
  rw [frames_yawnDelta takesTime, frames_yawnDelta takesTimeToo, fresh_leanTarget,
    fresh_leanTarget]
  change some (Easing.approach _ 0 _ (frame.deltaSeconds * 10)) =
    some (Easing.approach _ 0 _ (frame.deltaSeconds * 10)) ↔ _
  rw [Option.some_inj, Easing.approach_zero_eq_iff _ part, sameTarget]
  rfl

/-- Two fresh instances whose pawns turn alike from headings an offset apart have the same
lean after every frame exactly when the offset does not show in the first. -/
theorem frames_turned_agree_iff (offset : ℚ) (events : List AnimFrame)
    (takesTime : ∀ frame ∈ events, 0 < frame.deltaSeconds) :
    (∀ before after, events = before ++ after →
        (frames.run {} before).yawnDelta =
          (frames.run {} (before.map (turnedBy offset))).yawnDelta) ↔
      AgreesAtFirst offset events := by
  have sideBySide : (frames.twin (turnedBy offset)).Throughout
        (fun pair => pair.1.yawnDelta = pair.2.yawnDelta) ({}, {}) events ↔
      ∀ before after, events = before ++ after →
        (frames.run {} before).yawnDelta =
          (frames.run {} (before.map (turnedBy offset))).yawnDelta :=
    throughout_twin_iff
      (fun first second : HeroAnimInstance => first.yawnDelta = second.yawnDelta) _ events
  rw [← sideBySide]
  cases events with
  | nil => exact iff_of_true rfl trivial
  | cons frame rest =>
      obtain ⟨first, later⟩ := List.forall_mem_cons.mp takesTime
      rw [throughout_cons, ← first_frame_agrees_iff rest first]
      constructor
      · rintro ⟨-, throughout⟩
        exact throughout.start
      · intro agrees
        have alike : LeanAlike offset ((frames.twin (turnedBy offset)).next ({}, {}) frame) :=
          ⟨by simp [turnedBy], agrees⟩
        have admissible : (frames.twin (turnedBy offset)).Admissible
            ((frames.twin (turnedBy offset)).next ({}, {}) frame) rest :=
          eachStep_of_forall (fun other member _ =>
            ⟨later other member, later other member⟩) _
        have throughout := (leanAlike_invariant offset).throughout alike admissible
        exact ⟨rfl, throughout.mono fun _ => LeanAlike.yawnDelta⟩

/-- A whole turn more does not show. -/
theorem frames_turned_agree_whole_turn :
    (frames.run {} [⟨1 / 60, facing 30⟩, ⟨1 / 30, facing 40⟩]).yawnDelta =
      (frames.run {}
        ([⟨1 / 60, facing 30⟩, ⟨1 / 30, facing 40⟩].map (turnedBy 360))).yawnDelta :=
  (frames_turned_agree_iff 360 [⟨1 / 60, facing 30⟩, ⟨1 / 30, facing 40⟩]
    (by decide +kernel)).mpr (by decide +kernel) _ [] (List.append_nil _).symm

/-- A pawn that spawns facing heading 90 and never turns leans by 90 after its first frame,
where one that faces heading 0 does not lean. -/
theorem spawn_heading_leans :
    (frames.run {} [⟨1 / 60, facing 0⟩]).yawnDelta = some 0 ∧
      (frames.run {} ([⟨1 / 60, facing 0⟩].map (turnedBy 90))).yawnDelta = some 90 ∧
      ¬ ∀ before after, [⟨1 / 60, facing 0⟩] = before ++ after →
        (frames.run {} before).yawnDelta =
          (frames.run {} (before.map (turnedBy 90))).yawnDelta := by
  refine ⟨by decide +kernel, by decide +kernel, fun holds => ?_⟩
  have final := holds _ [] (List.append_nil _).symm
  exact absurd final (by decide +kernel)

end Offset

section Still

/-- Frames of a pawn that never turns. -/
def still (yaw : ℚ) : EventMachine HeroAnimInstance AnimFrame :=
  frames.guarded fun _ frame => frame.hero.actorRotation.yaw = yaw

/-- The instance has seen the pawn at its heading, up to whole turns. -/
def Aligned (yaw : ℚ) (self : HeroAnimInstance) (_frame : AnimFrame) : Prop :=
  Heading.wrap 360 (yaw - self.lastFrameRotation.yaw) = 0

/-- A frame of a pawn that does not turn keeps the instance level exactly when the instance
has seen its heading. -/
theorem still_level_exact (yaw : ℚ) :
    (still yaw).ExactCondition (fun _ => True) (fun self => self.yawnDelta = some 0)
      (Aligned yaw) where
  supported := ⟨fun _ _ => trivial⟩
  exact := by
    rintro self frame - level ⟨takesTime, unturned⟩
    have part : 0 < frame.deltaSeconds * 10 := mul_pos takesTime (by norm_num)
    change (frames.next self frame).yawnDelta = some 0 ↔ _
    rw [frames_yawnDelta takesTime, level, Option.map_some, Option.some_inj,
      Easing.approach_zero_eq_zero_iff _ part, leanTarget, unturned, Aligned,
      div_eq_zero_iff, div_eq_zero_iff, or_iff_left (by norm_num), or_iff_left takesTime.ne']

/-- A pawn that never turns is level throughout exactly when it never appears or its
heading is zero. -/
theorem still_level_iff (yaw : ℚ) (events : List AnimFrame)
    (admissible : (still yaw).Admissible {} events) :
    (still yaw).Throughout (fun self => self.yawnDelta = some 0) {} events ↔
      events = [] ∨ Heading.wrap 360 yaw = 0 := by
  rw [(still_level_exact yaw).throughout_iff trivial rfl admissible]
  cases events with
  | nil => exact iff_of_true trivial (.inl rfl)
  | cons frame rest =>
      obtain ⟨⟨_, unturned⟩, later⟩ := admissible
      have seen : (still yaw).Invariant fun self => self.lastFrameRotation.yaw = yaw :=
        ⟨fun _ admits => (congrArg FRotator.yaw frames_lastFrameRotation).trans admits.2⟩
      have afterwards : ((still yaw).next {} frame).lastFrameRotation.yaw = yaw :=
        (congrArg FRotator.yaw frames_lastFrameRotation).trans unturned
      have throughout := seen.throughout afterwards later
      have aligned : (still yaw).EachStep (Aligned yaw) ((still yaw).next {} frame) rest := by
        refine throughout.eachStep later fun self frame same _ => ?_
        rw [Aligned, same, sub_self]
        exact Heading.wrap_of_abs_lt (by norm_num) (by norm_num)
      have first : Aligned yaw {} frame ↔ Heading.wrap 360 yaw = 0 := by
        rw [Aligned]
        exact iff_of_eq (congrArg (Heading.wrap 360 · = 0) (sub_zero yaw))
      rw [eachStep_cons, and_iff_left aligned, first]
      simp

end Still

end HeroAnimInstance

end RPGLearnGame
