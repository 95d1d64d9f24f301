import RPGLearnGame.Arithmetic.Gauge
import RPGLearnGame.Semantics.Accounting
import Mathlib.Tactic.Ring

/-!
# The books of a gauge

A gauge under its three operations, in any order. Each operation is entered with what it
takes from the level, what it offers to it, and what the ceiling cuts off. Whatever the
order, the level at the end and all that was taken or cut off come to the level at the
start and all that was offered.
-/

namespace Gauge

open EventMachine

/-- One operation on a gauge. -/
inductive Entry (K : Type*) where
  | spend (cost : K)
  | refill (amount : K)
  | lift (amount : K)
deriving DecidableEq, Repr

variable {K : Type*} [Field K] [LinearOrder K]

/-- The gauge after an operation. -/
def enter (gauge : Gauge K) : Entry K → Gauge K
  | .spend cost => gauge.spend cost
  | .refill amount => gauge.refill amount
  | .lift amount => gauge.lift amount

/-- Runs of the operations. -/
def entries : EventMachine (Gauge K) (Entry K) where
  Admits _ _ := True
  next := enter

/-- What an operation takes from the level. -/
def taken (gauge : Gauge K) : Entry K → K
  | .spend cost => if gauge.Empty then 0 else cost
  | .refill _ | .lift _ => 0

/-- What an operation offers to the level. -/
def offered (_gauge : Gauge K) : Entry K → K
  | .refill amount => amount
  | .spend _ | .lift _ => 0

/-- What the ceiling cuts off. -/
def cutOff (gauge : Gauge K) : Entry K → K
  | .refill amount => Max.max 0 (gauge.current + amount - gauge.max)
  | .spend _ | .lift _ => 0

/-- What an operation offers fits under the ceiling. -/
def Fits (gauge : Gauge K) : Entry K → Prop
  | .refill amount => gauge.current + amount ≤ gauge.max
  | .spend _ | .lift _ => True

instance (gauge : Gauge K) : (entry : Entry K) → Decidable (gauge.Fits entry)
  | .refill _ => inferInstanceAs (Decidable (_ ≤ _))
  | .spend _ | .lift _ => inferInstanceAs (Decidable True)

variable [IsStrictOrderedRing K] (gauge : Gauge K)

/-- One operation balances the books. -/
theorem enter_balance (entry : Entry K) :
    (gauge.enter entry).current + gauge.taken entry + gauge.cutOff entry =
      gauge.current + gauge.offered entry := by
  cases entry with
  | spend cost =>
      by_cases empty : gauge.Empty
      · simp [enter, taken, cutOff, offered, spend_of_empty empty, empty]
      · simp [enter, taken, cutOff, offered, spend_of_not_empty empty, empty]
  | refill amount =>
      simp only [enter, taken, cutOff, offered, refill_current, add_zero]
      rcases le_total (gauge.current + amount) gauge.max with fits | exceeds
      · rw [min_eq_left fits, max_eq_left (sub_nonpos.mpr fits), add_zero]
      · rw [min_eq_right exceeds, max_eq_right (sub_nonneg.mpr exceeds), add_sub_cancel]
  | lift amount => simp [enter, taken, cutOff, offered]

/-- The books balance over every run. -/
theorem entries_balance (run : List (Entry K)) :
    (entries.run gauge run).current + entries.total taken gauge run +
        entries.total cutOff gauge run =
      gauge.current + entries.total offered gauge run := by
  induction run generalizing gauge with
  | nil => simp
  | cons entry rest inductionHypothesis =>
      have here := gauge.enter_balance entry
      have later := inductionHypothesis (gauge.enter entry)
      simp only [run_cons, total_cons]
      change (entries.run (gauge.enter entry) rest).current +
          (gauge.taken entry + entries.total taken (gauge.enter entry) rest) +
          (gauge.cutOff entry + entries.total cutOff (gauge.enter entry) rest) =
        gauge.current + (gauge.offered entry + entries.total offered (gauge.enter entry) rest)
      linarith

omit [IsStrictOrderedRing K] in
theorem cutOff_nonneg (entry : Entry K) : 0 ≤ gauge.cutOff entry := by
  cases entry with
  | spend | lift => exact le_rfl
  | refill => exact le_max_left _ _

/-- Nothing is cut off exactly when the offer fits. -/
theorem cutOff_eq_zero_iff (entry : Entry K) : gauge.cutOff entry = 0 ↔ gauge.Fits entry := by
  cases entry with
  | spend | lift => exact iff_of_true rfl trivial
  | refill amount => exact max_eq_left_iff.trans sub_nonpos

/-- What was offered is all there, but for what was taken, exactly when every offer of
the run fitted. -/
theorem entries_kept_iff (run : List (Entry K)) :
    (entries.run gauge run).current + entries.total taken gauge run =
        gauge.current + entries.total offered gauge run ↔
      entries.EachStep Fits gauge run := by
  rw [← entries_balance gauge run, left_eq_add, total_eq_zero_iff cutOff_nonneg]
  exact eachStep_congr cutOff_eq_zero_iff gauge run

/-- Refilling by equal amounts under the ceiling stops there and nowhere before. -/
theorem entries_run_replicate {gauge : Gauge K} {amount : K} (nonneg : 0 ≤ amount)
    (bounded : gauge.current ≤ gauge.max) (times : ℕ) :
    entries.run gauge (List.replicate times (.refill amount)) =
      { gauge with current := Min.min (gauge.current + times * amount) gauge.max } := by
  induction times generalizing gauge with
  | zero => simp [min_eq_left bounded]
  | succ times inductionHypothesis =>
      have here : entries.next gauge (.refill amount) = gauge.refill amount := rfl
      rw [List.replicate_succ, run_cons, here, inductionHypothesis (min_le_right _ _)]
      have later : 0 ≤ times * amount := by positivity
      ext
      · push_cast
        rcases le_total (gauge.current + amount) gauge.max with fits | exceeds
        · rw [refill_current, min_eq_left fits, refill_max]
          congr 1
          ring
        · have past : gauge.max ≤ gauge.current + (times + 1) * amount := by linarith
          rw [refill_current, min_eq_right exceeds, refill_max, min_eq_right past,
            min_eq_right (le_add_of_nonneg_right later)]
      · rfl

end Gauge
