import Mathlib.Algebra.Order.ToIntervalMod
import Mathlib.Algebra.Order.Floor.Ring
import Mathlib.Tactic.FieldSimp
import Mathlib.Tactic.Linarith
import Mathlib.Tactic.Ring

/-!
# Headings

A heading is an angle up to full turns. `wrap` picks its representative within half a
turn of zero, the half turn itself included on the positive side. It is the computable
counterpart of `toIocMod`, and its laws are read off there.
-/

namespace Heading

variable {K : Type*} [Field K] [LinearOrder K] [FloorRing K]

/-- Take off whole turns until an angle lies within half a turn of zero. -/
def wrap (turn angle : K) : K := angle - ⌈(angle - turn / 2) / turn⌉ * turn

variable [IsStrictOrderedRing K] {turn : K}

/-- A wrapped angle lies above minus half a turn and not above half a turn. -/
theorem wrap_mem (positive : 0 < turn) (angle : K) :
    wrap turn angle ∈ Set.Ioc (-(turn / 2)) (-(turn / 2) + turn) := by
  have above := Int.le_ceil ((angle - turn / 2) / turn)
  have below := Int.ceil_lt_add_one ((angle - turn / 2) / turn)
  rw [div_le_iff₀ positive] at above
  rw [← sub_lt_iff_lt_add, lt_div_iff₀ positive, sub_mul, one_mul] at below
  unfold wrap
  constructor
  · linarith
  · linarith

/-- Wrapping is reduction modulo a turn. -/
theorem wrap_eq_toIocMod (positive : 0 < turn) (angle : K) :
    wrap turn angle = toIocMod positive (-(turn / 2)) angle := by
  symm
  rw [toIocMod_eq_iff positive]
  refine ⟨wrap_mem positive angle, ⌈(angle - turn / 2) / turn⌉, ?_⟩
  rw [wrap, zsmul_eq_mul, sub_add_cancel]

/-- Whole turns do not change a heading. -/
theorem wrap_add_turns (positive : 0 < turn) (angle : K) (turns : ℤ) :
    wrap turn (angle + turns * turn) = wrap turn angle := by
  rw [wrap_eq_toIocMod positive, wrap_eq_toIocMod positive, ← zsmul_eq_mul, toIocMod_add_zsmul]

/-- An angle within half a turn of zero is wrapped already. -/
theorem wrap_of_abs_lt (positive : 0 < turn) {angle : K} (small : |angle| < turn / 2) :
    wrap turn angle = angle := by
  rw [wrap_eq_toIocMod positive, toIocMod_eq_self positive]
  obtain ⟨below, above⟩ := abs_lt.mp small
  exact ⟨below, by linarith⟩

/-- Adding an angle keeps a heading exactly when the angle is a whole number of turns. -/
theorem wrap_add_eq_iff (positive : 0 < turn) (angle offset : K) :
    wrap turn (angle + offset) = wrap turn angle ↔ wrap turn offset = 0 := by
  have zero : toIocMod positive (-(turn / 2)) 0 = 0 := by
    rw [toIocMod_eq_self positive]
    constructor <;> linarith
  have level : wrap turn offset = 0 ↔
      toIocMod positive (-(turn / 2)) offset = toIocMod positive (-(turn / 2)) 0 := by
    rw [wrap_eq_toIocMod positive, zero]
  rw [level, wrap_eq_toIocMod positive, wrap_eq_toIocMod positive,
    toIocMod_eq_toIocMod positive, toIocMod_eq_toIocMod positive]
  have same : angle - (angle + offset) = 0 - offset := by ring
  rw [same]

end Heading
