import Mathlib.Algebra.Order.Floor.Ring
import Mathlib.Data.Int.Log
import Mathlib.Data.Rat.Floor
import Mathlib.Order.WithBot
import Mathlib.Tactic.Linarith
import Mathlib.Tactic.Ring

/-!
# Binary number formats

A binary format has a number of significant bits and a range of exponents. A number is
converted to the nearest one that the format has, with ties to the even one; below the
least exponent the spacing stays that of the least exponent, and above the greatest there
is nothing but the two infinities.

A conversion moves a number by little, so a comparison between converted numbers says as
much about the numbers themselves, up to the slack of both. Of numbers that the format has
it says everything.
-/

/-- A binary number format. -/
structure BinaryFormat where
  /-- The significant bits, the leading one included. -/
  precision : ℕ
  minExponent : ℤ
  maxExponent : ℤ
  precision_pos : 0 < precision := by decide
  exponents : minExponent ≤ maxExponent := by decide

namespace BinaryFormat

/-- The single precision of IEEE 754. -/
def binary32 : BinaryFormat where
  precision := 24
  minExponent := -126
  maxExponent := 127

section TwoPow

variable {K : Type*} [Field K]

/-- A power of two. -/
def twoPow (exponent : ℤ) : K := ((2 : ℕ) : K) ^ exponent

variable [LinearOrder K] [IsStrictOrderedRing K]

theorem twoPow_pos (exponent : ℤ) : (0 : K) < twoPow exponent :=
  zpow_pos (Nat.cast_pos.mpr two_pos) _

theorem twoPow_mono {first second : ℤ} (ascending : first ≤ second) :
    (twoPow first : K) ≤ twoPow second :=
  zpow_le_zpow_right₀ (by exact_mod_cast one_le_two) ascending

theorem twoPow_add (first second : ℤ) :
    (twoPow (first + second) : K) = twoPow first * twoPow second :=
  zpow_add₀ (Nat.cast_ne_zero.mpr two_ne_zero) first second

theorem twoPow_add_one (exponent : ℤ) : (twoPow (exponent + 1) : K) = twoPow exponent * 2 := by
  rw [twoPow_add, twoPow, twoPow, zpow_one, Nat.cast_ofNat]

end TwoPow

variable {K : Type*} [Field K] [LinearOrder K] [FloorRing K]

/-- The nearest integer, and the even one of two that are equally near. -/
def roundHalfEven (x : K) : ℤ :=
  if Int.fract x < 1 - Int.fract x then ⌊x⌋
  else if 1 - Int.fract x < Int.fract x then ⌊x⌋ + 1
  else if Even ⌊x⌋ then ⌊x⌋ else ⌊x⌋ + 1

variable (format : BinaryFormat)

/-- The exponent that a number is written with. -/
def exponent (x : K) : ℤ := max (Int.log 2 |x|) format.minExponent

/-- The distance between the numbers of the format around a number. -/
def spacing (x : K) : K := twoPow (format.exponent x - format.precision + 1)

/-- The nearest number of the format when there is no greatest exponent. -/
def nearest (x : K) : K := roundHalfEven (x / format.spacing x) * format.spacing x

/-- What a number is converted to. -/
def convert (x : K) : WithBot (WithTop K) :=
  if |format.nearest x| < twoPow (format.maxExponent + 1) then
    WithBot.some (WithTop.some (format.nearest x))
  else if x < 0 then ⊥ else ⊤

/-- How far a conversion can move a number. -/
def slack (x : K) : K := (|x| + twoPow format.minExponent) * twoPow (-format.precision)

variable [IsStrictOrderedRing K]

section Rounding

/-- The nearest integer is at most a half away. -/
theorem abs_roundHalfEven_sub_le (x : K) : |(roundHalfEven x : K) - x| ≤ 1 / 2 := by
  have split := Int.floor_add_fract x
  have nonneg := Int.fract_nonneg x
  have lt_one := Int.fract_lt_one x
  have down : Int.fract x ≤ 1 / 2 → |(⌊x⌋ : K) - x| ≤ 1 / 2 := by
    intro small
    exact abs_sub_le_iff.mpr ⟨by linarith, by linarith⟩
  have up : 1 / 2 ≤ Int.fract x → |((⌊x⌋ + 1 : ℤ) : K) - x| ≤ 1 / 2 := by
    intro large
    push_cast
    exact abs_sub_le_iff.mpr ⟨by linarith, by linarith⟩
  unfold roundHalfEven
  split
  · exact down (by linarith)
  · split
    · exact up (by linarith)
    · split
      · exact down (by linarith)
      · exact up (by linarith)

theorem spacing_pos (x : K) : 0 < format.spacing x := twoPow_pos _

/-- Every format has zero. -/
@[simp] theorem nearest_zero : format.nearest (0 : K) = 0 := by
  have zero : roundHalfEven (0 : K) = 0 := by simp [roundHalfEven]
  rw [nearest, zero_div, zero, Int.cast_zero, zero_mul]

/-- The nearest number is at most half a spacing away. -/
theorem abs_nearest_sub_le_spacing (x : K) :
    |format.nearest x - x| ≤ 1 / 2 * format.spacing x := by
  have positive := format.spacing_pos x
  have scaled : format.nearest x - x =
      (roundHalfEven (x / format.spacing x) - x / format.spacing x) * format.spacing x := by
    rw [sub_mul, div_mul_cancel₀ _ positive.ne', nearest]
  rw [scaled, abs_mul, abs_of_pos positive]
  exact mul_le_mul_of_nonneg_right (abs_roundHalfEven_sub_le _) positive.le

omit [FloorRing K] in
theorem slack_nonneg (x : K) : 0 ≤ format.slack x :=
  mul_nonneg (add_nonneg (abs_nonneg x) (twoPow_pos _).le) (twoPow_pos _).le

/-- The leading bit of a number stands at its exponent, unless that is the least. -/
theorem twoPow_exponent_le {x : K} (nonzero : x ≠ 0) :
    twoPow (format.exponent x) ≤ |x| + twoPow format.minExponent := by
  rcases max_choice (Int.log 2 |x|) format.minExponent with normal | subnormal
  · rw [exponent, normal]
    have leading : twoPow (Int.log 2 |x|) ≤ |x| :=
      Int.zpow_log_le_self one_lt_two (abs_pos.mpr nonzero)
    exact leading.trans (le_add_of_nonneg_right (twoPow_pos _).le)
  · rw [exponent, subnormal]
    exact le_add_of_nonneg_left (abs_nonneg x)

/-- The nearest number is within the slack. -/
theorem abs_nearest_sub_le (x : K) : |format.nearest x - x| ≤ format.slack x := by
  rcases eq_or_ne x 0 with rfl | nonzero
  · rw [nearest_zero, sub_zero, abs_zero]
    exact format.slack_nonneg 0
  · calc |format.nearest x - x| ≤ 1 / 2 * format.spacing x := format.abs_nearest_sub_le_spacing x
      _ = twoPow (format.exponent x) * twoPow (-format.precision) := by
          rw [spacing, twoPow_add_one, sub_eq_add_neg, twoPow_add]
          ring
      _ ≤ format.slack x :=
          mul_le_mul_of_nonneg_right (format.twoPow_exponent_le nonzero) (twoPow_pos _).le

end Rounding

section Conversion

/-- Numbers below the greatest power of two do not run over. -/
theorem convert_of_abs_lt {x : K} (small : |x| < twoPow format.maxExponent) :
    format.convert x = WithBot.some (WithTop.some (format.nearest x)) := by
  have half : (twoPow (-format.precision) : K) ≤ 1 / 2 := by
    calc (twoPow (-format.precision) : K) ≤ twoPow (-1) :=
          twoPow_mono (by have := format.precision_pos; omega)
      _ = 1 / 2 := by simp [twoPow]
  have least : (twoPow format.minExponent : K) ≤ twoPow format.maxExponent :=
    twoPow_mono format.exponents
  have slack : format.slack x ≤ twoPow format.maxExponent := by
    calc format.slack x
        ≤ (twoPow format.maxExponent + twoPow format.maxExponent) * (1 / 2) :=
          mul_le_mul (add_le_add small.le least) half (twoPow_pos _).le
            (add_nonneg (twoPow_pos _).le (twoPow_pos _).le)
      _ = twoPow format.maxExponent := by ring
  have near := format.abs_nearest_sub_le x
  have bounded : |format.nearest x| < twoPow (format.maxExponent + 1) := by
    have apart := abs_sub_abs_le_abs_sub (format.nearest x) x
    rw [twoPow_add_one]
    linarith
  exact if_pos bounded

/-- A number whose conversion lies between two that do not run over does not run over
either. -/
theorem nearest_le_of_convert_le {lower x upper : K}
    (lowerSmall : |lower| < twoPow format.maxExponent)
    (upperSmall : |upper| < twoPow format.maxExponent)
    (above : format.convert lower ≤ format.convert x)
    (below : format.convert x ≤ format.convert upper) :
    format.nearest lower ≤ format.nearest x ∧ format.nearest x ≤ format.nearest upper := by
  rw [format.convert_of_abs_lt lowerSmall] at above
  rw [format.convert_of_abs_lt upperSmall] at below
  unfold convert at above below
  split at above
  · rename_i finite
    rw [if_pos finite] at below
    exact ⟨WithTop.coe_le_coe.mp (WithBot.coe_le_coe.mp above),
      WithTop.coe_le_coe.mp (WithBot.coe_le_coe.mp below)⟩
  · rename_i runsOver
    rw [if_neg runsOver] at below
    split at above
    · exact absurd above (WithBot.bot_lt_coe _).not_ge
    · rename_i notBelow
      rw [if_neg notBelow] at below
      exact absurd (WithBot.coe_le_coe.mp below) (WithTop.coe_lt_top _).not_ge

/-- What a comparison of nearest numbers says about the numbers themselves. -/
theorem sub_le_of_nearest_le {x y : K} (ordered : format.nearest x ≤ format.nearest y) :
    x - y ≤ format.slack x + format.slack y := by
  have first := (abs_sub_le_iff.mp (format.abs_nearest_sub_le x)).2
  have second := (abs_sub_le_iff.mp (format.abs_nearest_sub_le y)).1
  linarith

end Conversion

end BinaryFormat
