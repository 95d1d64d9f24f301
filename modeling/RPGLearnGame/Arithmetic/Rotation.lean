import Mathlib.Algebra.Ring.Prod
import Mathlib.Analysis.SpecialFunctions.Trigonometric.Basic
import Mathlib.Tactic.LinearCombination
import Mathlib.Tactic.Ring

/-!
# Turning the plane

A plane rotation needs a sine and a cosine and no more of them than the addition laws.
`SinCos` carries both with these laws, in whatever unit its angles are, so the same
development holds for degrees and for radians. `turn` is the rotation of a point about
the origin: it composes by adding angles, respects sums, and keeps lengths.
-/

/-- Sine and cosine, with the laws that rotations rest on. -/
structure SinCos (K : Type*) [CommRing K] where
  sin : K → K
  cos : K → K
  sin_zero : sin 0 = 0
  cos_zero : cos 0 = 1
  sin_add : ∀ first second, sin (first + second) = sin first * cos second + cos first * sin second
  cos_add : ∀ first second, cos (first + second) = cos first * cos second - sin first * sin second
  cos_sq_add_sin_sq : ∀ angle, cos angle ^ 2 + sin angle ^ 2 = 1

namespace SinCos

variable {K : Type*} [CommRing K] (trig : SinCos K)

/-- A point turned about the origin. -/
def turn (angle : K) (point : K × K) : K × K :=
  (trig.cos angle * point.1 - trig.sin angle * point.2,
    trig.sin angle * point.1 + trig.cos angle * point.2)

@[simp] theorem turn_origin (angle : K) : trig.turn angle 0 = 0 := by
  simp [turn]

/-- The angle zero turns nothing. -/
@[simp] theorem turn_zero (point : K × K) : trig.turn 0 point = point := by
  simp [turn, trig.sin_zero, trig.cos_zero]

/-- Turning respects sums. -/
theorem turn_add (angle : K) (first second : K × K) :
    trig.turn angle (first + second) = trig.turn angle first + trig.turn angle second := by
  ext
  · simp only [turn, Prod.fst_add, Prod.snd_add]
    ring
  · simp only [turn, Prod.fst_add, Prod.snd_add]
    ring

/-- Turning twice turns by the sum of the angles. -/
theorem turn_turn (first second : K) (point : K × K) :
    trig.turn first (trig.turn second point) = trig.turn (second + first) point := by
  ext
  · simp only [turn, trig.cos_add, trig.sin_add]
    ring
  · simp only [turn, trig.cos_add, trig.sin_add]
    ring

/-- The square of a point's distance from the origin. -/
def lengthSq (point : K × K) : K := point.1 ^ 2 + point.2 ^ 2

/-- Turning keeps lengths. -/
theorem lengthSq_turn (angle : K) (point : K × K) :
    lengthSq (trig.turn angle point) = lengthSq point := by
  simp only [lengthSq, turn]
  linear_combination (point.1 ^ 2 + point.2 ^ 2) * trig.cos_sq_add_sin_sq angle

/-- The real sine and cosine of an angle in degrees. -/
noncomputable def degrees : SinCos ℝ where
  sin angle := Real.sin (angle * ((Real.pi + Real.pi) / 360))
  cos angle := Real.cos (angle * ((Real.pi + Real.pi) / 360))
  sin_zero := by rw [zero_mul, Real.sin_zero]
  cos_zero := by rw [zero_mul, Real.cos_zero]
  sin_add := fun first second => by rw [add_mul, Real.sin_add]
  cos_add := fun first second => by rw [add_mul, Real.cos_add]
  cos_sq_add_sin_sq := fun angle => Real.cos_sq_add_sin_sq _

/-- Sine and cosine at the angle zero, for what never turns away from it. -/
def ahead : SinCos ℚ where
  sin _ := 0
  cos _ := 1
  sin_zero := rfl
  cos_zero := rfl
  sin_add := fun _ _ => by norm_num
  cos_add := fun _ _ => by norm_num
  cos_sq_add_sin_sq := fun _ => by norm_num

end SinCos
