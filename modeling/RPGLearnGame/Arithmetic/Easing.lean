import Mathlib.Algebra.Order.Field.Basic
import Mathlib.Algebra.Order.Group.Unbundled.Abs
import Mathlib.Tactic.Linarith
import Mathlib.Tactic.Ring

/-!
# Easing

`approach` moves a value towards a target by a part of the distance, and takes the
target itself when the distance is small. The part is clamped to the unit interval, so
the value never leaves the interval between where it was and the target: it comes no
further from the target, and it does not pass it.
-/

namespace Easing

variable {K : Type*} [Field K] [LinearOrder K]

/-- Keep a value between two bounds. -/
def clamp (value low high : K) : K := max low (min value high)

/-- Move towards a target by a clamped part of the distance, or all the way when the
square of the distance is below the tolerance. -/
def approach (tolerance current target part : K) : K :=
  if (target - current) ^ 2 < tolerance then target
  else current + (target - current) * clamp part 0 1

variable [IsStrictOrderedRing K]

theorem clamp_unit (part : K) : 0 ≤ clamp part 0 1 ∧ clamp part 0 1 ≤ 1 :=
  ⟨le_max_left _ _, max_le zero_le_one (min_le_right _ _)⟩

/-- A positive part stays positive. -/
theorem clamp_unit_pos {part : K} (positive : 0 < part) : 0 < clamp part 0 1 :=
  lt_max_of_lt_right (lt_min positive zero_lt_one)

variable (tolerance current target part : K)

/-- What is left of the distance is a part of it. -/
theorem approach_sub :
    ∃ left, 0 ≤ left ∧ left ≤ 1 ∧
      approach tolerance current target part - target = left * (current - target) := by
  unfold approach
  split
  · exact ⟨0, le_rfl, zero_le_one, by ring⟩
  · obtain ⟨nonneg, le_one⟩ := clamp_unit part
    exact ⟨1 - clamp part 0 1, by linarith, by linarith, by ring⟩

/-- Approaching takes at least its part off the distance. -/
theorem abs_approach_sub_le_mul :
    |approach tolerance current target part - target| ≤
      (1 - clamp part 0 1) * |current - target| := by
  obtain ⟨-, le_one⟩ := clamp_unit part
  have left : 0 ≤ 1 - clamp part 0 1 := sub_nonneg.mpr le_one
  unfold approach
  split
  · rw [sub_self, abs_zero]
    exact mul_nonneg left (abs_nonneg _)
  · have rest : current + (target - current) * clamp part 0 1 - target =
        (1 - clamp part 0 1) * (current - target) := by ring
    rw [rest, abs_mul, abs_of_nonneg left]

/-- Approaching comes no further from the target. -/
theorem abs_approach_sub_le :
    |approach tolerance current target part - target| ≤ |current - target| := by
  obtain ⟨left, nonneg, le_one, rest⟩ := approach_sub tolerance current target part
  rw [rest, abs_mul, abs_of_nonneg nonneg]
  exact mul_le_of_le_one_left (abs_nonneg _) le_one

variable {current target}

/-- From above, approaching stays above. -/
theorem approach_sub_nonneg (above : 0 ≤ current - target) :
    0 ≤ approach tolerance current target part - target := by
  obtain ⟨left, nonneg, -, rest⟩ := approach_sub tolerance current target part
  rw [rest]
  exact mul_nonneg nonneg above

/-- From below, approaching stays below. -/
theorem approach_sub_nonpos (below : current - target ≤ 0) :
    approach tolerance current target part - target ≤ 0 := by
  obtain ⟨left, nonneg, -, rest⟩ := approach_sub tolerance current target part
  rw [rest]
  exact mul_nonpos_of_nonneg_of_nonpos nonneg below

/-- From zero, only the target zero is approached by standing still. -/
theorem approach_zero_eq_zero_iff {part : K} (positive : 0 < part) (target : K) :
    approach tolerance 0 target part = 0 ↔ target = 0 := by
  have moves := clamp_unit_pos positive
  unfold approach
  rw [sub_zero, zero_add]
  split
  · exact Iff.rfl
  · rw [mul_eq_zero, or_iff_left moves.ne']

/-- One target is near enough to zero to be taken, and it is where the approach to the
other, which is not, gets to. -/
def SnapsOnto (tolerance part near far : K) : Prop :=
  near ^ 2 < tolerance ∧ ¬ far ^ 2 < tolerance ∧ near = far * clamp part 0 1

instance (near far : K) : Decidable (SnapsOnto tolerance part near far) :=
  inferInstanceAs (Decidable (_ ∧ ¬ _ ∧ _))

/-- From zero, two targets are approached alike exactly when they are the same or one
snaps onto the other. -/
theorem approach_zero_eq_iff {part : K} (positive : 0 < part) (first second : K) :
    approach tolerance 0 first part = approach tolerance 0 second part ↔
      first = second ∨ SnapsOnto tolerance part first second ∨
        SnapsOnto tolerance part second first := by
  have moves := clamp_unit_pos positive
  unfold approach SnapsOnto
  rw [sub_zero, sub_zero, zero_add, zero_add]
  by_cases near : first ^ 2 < tolerance
  · by_cases nearToo : second ^ 2 < tolerance
    · simp [near, nearToo]
    · rw [if_pos near, if_neg nearToo]
      have apart : first ≠ second := fun same => nearToo (same ▸ near)
      simp [near, nearToo, apart]
  · by_cases nearToo : second ^ 2 < tolerance
    · rw [if_neg near, if_pos nearToo]
      have apart : first ≠ second := fun same => near (same ▸ nearToo)
      simp [near, nearToo, apart, eq_comm]
    · simp [near, nearToo, moves.ne']

end Easing
