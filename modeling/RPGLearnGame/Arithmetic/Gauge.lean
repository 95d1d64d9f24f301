import Mathlib.Algebra.Order.Field.Basic
import Mathlib.Tactic.Linarith

/-!
# Gauges

A gauge is a level below a ceiling, over any linearly ordered field. `spend`
lowers the level of a gauge that is not empty and does not look at how much is
left; `refill` raises the level and stops at the ceiling; `lift` raises the
ceiling. Only `refill` clamps, so `spend` is the one operation that can leave
the range, and `inRange_spend_iff` says exactly when.
-/

/-- A level and the ceiling it is measured against. -/
@[ext]
structure Gauge (K : Type*) where
  current : K
  max : K
deriving DecidableEq, Repr

namespace Gauge

variable {K : Type*} [Field K] [LinearOrder K]

/-- Nothing is left. -/
def Empty (gauge : Gauge K) : Prop := gauge.current ≤ 0

instance (gauge : Gauge K) : Decidable gauge.Empty :=
  inferInstanceAs (Decidable (gauge.current ≤ 0))

/-- Take `cost` from a gauge that is not empty. -/
def spend (gauge : Gauge K) (cost : K) : Gauge K :=
  if gauge.Empty then gauge else { gauge with current := gauge.current - cost }

/-- Put `amount` back, at most up to the ceiling. -/
def refill (gauge : Gauge K) (amount : K) : Gauge K :=
  { gauge with current := Min.min (gauge.current + amount) gauge.max }

/-- Raise the ceiling. -/
def lift (gauge : Gauge K) (amount : K) : Gauge K :=
  { gauge with max := gauge.max + amount }

/-- The level as a part of the ceiling. -/
def percent (gauge : Gauge K) : K := gauge.current / gauge.max

/-- The level lies between zero and the ceiling. -/
structure InRange (gauge : Gauge K) : Prop where
  nonneg : 0 ≤ gauge.current
  le_max : gauge.current ≤ gauge.max

/-- Range membership is the conjunction of its two bounds. -/
theorem inRange_iff (gauge : Gauge K) :
    gauge.InRange ↔ 0 ≤ gauge.current ∧ gauge.current ≤ gauge.max :=
  ⟨fun inRange => ⟨inRange.nonneg, inRange.le_max⟩, fun bounds => ⟨bounds.1, bounds.2⟩⟩

instance (gauge : Gauge K) : Decidable gauge.InRange :=
  decidable_of_iff _ gauge.inRange_iff.symm

@[simp] theorem spend_max (gauge : Gauge K) (cost : K) : (gauge.spend cost).max = gauge.max := by
  unfold spend
  split <;> rfl

@[simp] theorem refill_max (gauge : Gauge K) (amount : K) :
    (gauge.refill amount).max = gauge.max := rfl

@[simp] theorem refill_current (gauge : Gauge K) (amount : K) :
    (gauge.refill amount).current = Min.min (gauge.current + amount) gauge.max := rfl

omit [LinearOrder K] in
@[simp] theorem lift_current (gauge : Gauge K) (amount : K) :
    (gauge.lift amount).current = gauge.current := rfl

omit [LinearOrder K] in
@[simp] theorem lift_max (gauge : Gauge K) (amount : K) :
    (gauge.lift amount).max = gauge.max + amount := rfl

/-- An empty gauge has nothing to spend. -/
theorem spend_of_empty {gauge : Gauge K} (empty : gauge.Empty) (cost : K) :
    gauge.spend cost = gauge := if_pos empty

/-- A gauge that is not empty pays the whole cost. -/
theorem spend_of_not_empty {gauge : Gauge K} (left : ¬ gauge.Empty) (cost : K) :
    gauge.spend cost = { gauge with current := gauge.current - cost } := if_neg left

theorem not_empty_iff (gauge : Gauge K) : ¬ gauge.Empty ↔ 0 < gauge.current := not_le

section Ordered

variable [IsStrictOrderedRing K] {gauge : Gauge K} {cost amount : K}

/-- A nonnegative cost empties a gauge exactly when it is at least the level. -/
theorem empty_spend_iff (nonneg : 0 ≤ cost) :
    (gauge.spend cost).Empty ↔ gauge.current ≤ cost := by
  by_cases empty : gauge.Empty
  · rw [spend_of_empty empty]
    exact iff_of_true empty (le_trans empty nonneg)
  · rw [spend_of_not_empty empty]
    exact sub_nonpos

/-- A positive cost lowers the level of exactly the gauges that are not empty. -/
theorem spend_current_lt_iff (positive : 0 < cost) :
    (gauge.spend cost).current < gauge.current ↔ ¬ gauge.Empty := by
  by_cases empty : gauge.Empty
  · simp [spend_of_empty empty, empty]
  · simp [spend_of_not_empty empty, empty, positive]

/-- A cost that is not negative never raises the level. -/
theorem spend_current_le (nonneg : 0 ≤ cost) : (gauge.spend cost).current ≤ gauge.current := by
  by_cases empty : gauge.Empty
  · rw [spend_of_empty empty]
  · rw [spend_of_not_empty empty]
    exact sub_le_self _ nonneg

omit [IsStrictOrderedRing K] in
/-- Below a positive ceiling, refilling leaves a gauge empty exactly when the
amount does not lift the level above zero. -/
theorem empty_refill_iff (positive : 0 < gauge.max) :
    (gauge.refill amount).Empty ↔ gauge.current + amount ≤ 0 := by
  simp [Empty, positive]

theorem InRange.refill (inRange : gauge.InRange) (nonneg : 0 ≤ amount) :
    (gauge.refill amount).InRange where
  nonneg := le_min (add_nonneg inRange.nonneg nonneg) (inRange.nonneg.trans inRange.le_max)
  le_max := min_le_right _ _

theorem InRange.lift (inRange : gauge.InRange) (nonneg : 0 ≤ amount) :
    (gauge.lift amount).InRange where
  nonneg := inRange.nonneg
  le_max := inRange.le_max.trans (le_add_of_nonneg_right nonneg)

/-- Below a common ceiling, refilling keeps two levels in order. -/
theorem refill_current_le {low high : Gauge K} (sameMax : low.max = high.max)
    (ordered : low.current ≤ high.current) :
    (low.refill amount).current ≤ (high.refill amount).current := by
  rw [refill_current, refill_current, sameMax]
  exact min_le_min_right _ (add_le_add_left ordered amount)

/-- Spending keeps two levels in order exactly when it does not take the higher one,
alone, below the lower one. -/
theorem spend_current_le_iff {low high : Gauge K} (ordered : low.current ≤ high.current) :
    (low.spend cost).current ≤ (high.spend cost).current ↔
      (low.Empty → ¬ high.Empty → low.current ≤ high.current - cost) := by
  by_cases lowEmpty : low.Empty
  · rw [spend_of_empty lowEmpty]
    by_cases highEmpty : high.Empty
    · rw [spend_of_empty highEmpty]
      exact iff_of_true ordered fun _ left => absurd highEmpty left
    · rw [spend_of_not_empty highEmpty]
      exact ⟨fun kept _ _ => kept, fun kept => kept lowEmpty highEmpty⟩
  · have highLeft : ¬ high.Empty := fun empty => lowEmpty (ordered.trans empty)
    rw [spend_of_not_empty lowEmpty, spend_of_not_empty highLeft]
    exact iff_of_true (sub_le_sub_right ordered cost) fun empty => absurd empty lowEmpty

/-- Spending stays in range exactly when it does not overdraw a gauge that has
something left. -/
theorem inRange_spend_iff (inRange : gauge.InRange) (nonneg : 0 ≤ cost) :
    (gauge.spend cost).InRange ↔ (0 < gauge.current → cost ≤ gauge.current) := by
  by_cases empty : gauge.Empty
  · rw [spend_of_empty empty]
    exact iff_of_true inRange fun positive => absurd positive (not_lt.mpr empty)
  · rw [spend_of_not_empty empty]
    have positive : 0 < gauge.current := (not_empty_iff gauge).mp empty
    constructor
    · rintro ⟨left, _⟩ _
      exact sub_nonneg.mp left
    · intro affordable
      exact ⟨sub_nonneg.mpr (affordable positive), (sub_le_self _ nonneg).trans inRange.le_max⟩

/-- With a positive ceiling, the percentage lies in the unit interval exactly
for a gauge in range. -/
theorem percent_mem_unit_iff (positive : 0 < gauge.max) :
    0 ≤ gauge.percent ∧ gauge.percent ≤ 1 ↔ gauge.InRange := by
  unfold percent
  rw [div_le_one positive, le_div_iff₀ positive, zero_mul]
  exact gauge.inRange_iff.symm

end Ordered

end Gauge
