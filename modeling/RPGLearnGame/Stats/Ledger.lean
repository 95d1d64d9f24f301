import RPGLearnGame.Arithmetic.Ledger
import RPGLearnGame.Semantics.Refinement
import RPGLearnGame.Semantics.Unwinding
import RPGLearnGame.Stats.Range

/-!
# The two stats apart

Health and stamina are two gauges that know nothing of each other. An operation is an
entry in the books of one of them, so what becomes of a stat and what is broadcast of
it depends on the operations on that stat alone, however those on the other are mixed
in between, and each stat's books balance by themselves.
-/

namespace RPGLearnGame

open EventMachine

/-- The two stats of the component. -/
inductive Stat where
  | health
  | stamina
deriving DecidableEq, Repr

/-- The delegate that a stat is broadcast on. -/
def Stat.delegate : Stat → ℚ → Broadcast
  | .health => .onUpdateHealthBar
  | .stamina => .onUpdateStaminaBar

/-- The stat that a broadcast is about. -/
def Broadcast.stat : Broadcast → Stat
  | .onUpdateHealthBar _ => .health
  | .onUpdateStaminaBar _ => .stamina

@[simp] theorem Stat.delegate_stat (stat : Stat) (percentage : ℚ) :
    (stat.delegate percentage).stat = stat := by
  cases stat <;> rfl

namespace PlayerStatsComponent

/-- The gauge of a stat. -/
def gauge (stats : PlayerStatsComponent) : Stat → Gauge ℚ
  | .health => stats.health
  | .stamina => stats.stamina

/-- A component is its two gauges. -/
theorem eq_of_gauge {stats other : PlayerStatsComponent}
    (same : ∀ stat, stats.gauge stat = other.gauge stat) : stats = other :=
  PlayerStatsComponent.ext (same .health) (same .stamina)

/-- The stat that an operation is about. -/
def Operation.stat : Operation → Stat
  | .decreaseHealth _ | .increaseMaxHealth _ | .increaseHealth _ => .health
  | .decreaseStamina _ | .increaseMaxStamina _ | .increaseStamina _ => .stamina

/-- What an operation enters in the books of its stat. -/
def Operation.entry : Operation → Gauge.Entry ℚ
  | .decreaseHealth damage => .spend damage
  | .increaseMaxHealth newMaxHealth => .lift newMaxHealth
  | .increaseHealth newHealth => .refill newHealth
  | .decreaseStamina staminaCost => .spend staminaCost
  | .increaseMaxStamina newMaxStamina => .lift newMaxStamina
  | .increaseStamina newStamina => .refill newStamina

/-- An entry that is not broadcast: a decrease that finds the gauge empty. -/
def Unheard (gauge : Gauge ℚ) : Gauge.Entry ℚ → Prop
  | .spend _ => gauge.Empty
  | .refill _ | .lift _ => False

instance (gauge : Gauge ℚ) : (entry : Gauge.Entry ℚ) → Decidable (Unheard gauge entry)
  | .spend _ => inferInstanceAs (Decidable gauge.Empty)
  | .refill _ | .lift _ => inferInstanceAs (Decidable False)

/-- What an entry broadcasts. -/
def heard (delegate : ℚ → Broadcast) (gauge : Gauge ℚ) (entry : Gauge.Entry ℚ) :
    List Broadcast :=
  if Unheard gauge entry then [] else [delegate (gauge.enter entry).percent]

/-- An entry that is not broadcast changes nothing. -/
theorem enter_of_unheard {gauge : Gauge ℚ} {entry : Gauge.Entry ℚ}
    (unheard : Unheard gauge entry) : gauge.enter entry = gauge := by
  cases entry with
  | spend cost => exact Gauge.spend_of_empty unheard cost
  | refill | lift => exact unheard.elim

/-- An operation acts on the gauge of its stat only. -/
theorem apply_gauge (stats : PlayerStatsComponent) (operation : Operation) (stat : Stat) :
    (stats.apply operation).stats.gauge stat =
      if operation.stat = stat then (stats.gauge stat).enter operation.entry
      else stats.gauge stat := by
  cases operation <;> cases stat <;>
    simp [apply, gauge, Operation.stat, Operation.entry, Gauge.enter, decreaseHealth,
      increaseMaxHealth, increaseHealth, decreaseStamina, increaseMaxStamina, increaseStamina,
      withHealth, withStamina]

/-- An operation broadcasts what its entry does. -/
theorem apply_broadcasts (stats : PlayerStatsComponent) (operation : Operation) :
    (stats.apply operation).broadcasts =
      heard operation.stat.delegate (stats.gauge operation.stat) operation.entry := by
  cases operation with
  | decreaseHealth | decreaseStamina => exact decrease_broadcasts ..
  | increaseMaxHealth | increaseMaxStamina => exact increaseMax_broadcasts ..
  | increaseHealth | increaseStamina => exact increase_broadcasts ..

/-- What is broadcast about a stat while an operation is carried out. -/
theorem filter_apply_broadcasts (stats : PlayerStatsComponent) (operation : Operation)
    (stat : Stat) :
    ((stats.apply operation).broadcasts.filter fun broadcast => broadcast.stat = stat) =
      if operation.stat = stat then heard stat.delegate (stats.gauge stat) operation.entry
      else [] := by
  rw [apply_broadcasts, heard]
  by_cases about : operation.stat = stat
  · subst about
    rw [if_pos rfl, heard]
    split <;> simp
  · rw [if_neg about]
    split <;> simp [about]

/-- What a log shows of a stat: its gauge and its broadcasts. -/
def Log.of (stat : Stat) (log : Log) : Gauge ℚ × List Broadcast :=
  (log.stats.gauge stat, log.sent.filter fun broadcast => broadcast.stat = stat)

/-- A stat depends on the operations on it only. -/
theorem stat_unwinding (stat : Stat) :
    statsMachine.Unwinding (fun _ => True) (Log.of stat)
      (fun operation => operation.stat = stat) where
  supported := fun _ _ => trivial
  silent := by
    intro log operation _ other
    simp [statsMachine, Log.of, apply_gauge, filter_apply_broadcasts, other]
  determined := by
    intro first second operation _ _ same about
    obtain ⟨sameGauge, sameSent⟩ := Prod.mk.inj same
    simp only [statsMachine, Log.of, apply_gauge, List.filter_append, filter_apply_broadcasts,
      if_pos about, sameGauge, sameSent]

/-- Operations on the one stat and on the other commute: lists with the same operations
on each stat, in the same order, leave the same stats behind and send the same
broadcasts about each of them, however the two are interleaved. -/
theorem statsMachine_interleaving (log : Log) (operations others : List Operation)
    (same : ∀ stat, (operations.filter fun operation => operation.stat = stat) =
      others.filter fun operation => operation.stat = stat) :
    (statsMachine.run log operations).stats = (statsMachine.run log others).stats ∧
      ∀ stat, ((statsMachine.run log operations).sent.filter fun broadcast =>
          broadcast.stat = stat) =
        (statsMachine.run log others).sent.filter fun broadcast => broadcast.stat = stat := by
  have sameView : ∀ stat, Log.of stat (statsMachine.run log operations) =
      Log.of stat (statsMachine.run log others) := fun stat =>
    (stat_unwinding stat).run_eq trivial trivial rfl (same stat)
  constructor
  · exact eq_of_gauge fun stat => congrArg Prod.fst (sameView stat)
  · exact fun stat => congrArg Prod.snd (sameView stat)

/-- Two hits, a tick and a refill, with the stamina operations first and last. -/
theorem statsMachine_interleaving_hits :
    (statsMachine.run ⟨{}, []⟩
        [.decreaseStamina 1, .decreaseHealth 30, .increaseStamina 1, .decreaseHealth 90]).stats =
      (statsMachine.run ⟨{}, []⟩
        [.decreaseHealth 30, .decreaseHealth 90, .decreaseStamina 1, .increaseStamina 1]).stats :=
  (statsMachine_interleaving ⟨{}, []⟩ _ _ fun stat => by cases stat <;> rfl).1

/-- The books of one stat within the component. -/
def booksOf (stat : Stat) : Refinement statsMachine (Gauge.entries (K := ℚ)) where
  onState log := log.stats.gauge stat
  onStep _ operation := if operation.stat = stat then [operation.entry] else []
  next := by
    intro log operation
    rw [statsMachine, apply_gauge]
    split <;> rfl

/-- What an operation takes from a stat. -/
def taken (stat : Stat) (log : Log) (operation : Operation) : ℚ :=
  if operation.stat = stat then (log.stats.gauge stat).taken operation.entry else 0

/-- What an operation offers to a stat. -/
def offered (stat : Stat) (log : Log) (operation : Operation) : ℚ :=
  if operation.stat = stat then (log.stats.gauge stat).offered operation.entry else 0

/-- What an operation offers to a stat fits under its maximum. -/
def FitsUnder (stat : Stat) (log : Log) (operation : Operation) : Prop :=
  operation.stat = stat → (log.stats.gauge stat).Fits operation.entry

instance (stat : Stat) (log : Log) (operation : Operation) :
    Decidable (FitsUnder stat log operation) :=
  inferInstanceAs (Decidable (_ → _))

/-- A sum over the books of a stat is a sum over the operations on it. -/
theorem total_booksOf (stat : Stat) (weight : Gauge ℚ → Gauge.Entry ℚ → ℚ) (log : Log)
    (operations : List Operation) :
    Gauge.entries.total weight (log.stats.gauge stat) ((booksOf stat).trace log operations) =
      statsMachine.total
        (fun log operation => if operation.stat = stat
          then weight (log.stats.gauge stat) operation.entry else 0) log operations := by
  have perStep : (fun (log : Log) (operation : Operation) =>
      Gauge.entries.total weight ((booksOf stat).onState log)
        ((booksOf stat).onStep log operation)) =
        fun log operation => if operation.stat = stat
          then weight (log.stats.gauge stat) operation.entry else 0 := by
    funext log operation
    by_cases about : operation.stat = stat <;> simp [booksOf, about]
  rw [← perStep]
  exact (booksOf stat).total_trace weight log operations

/-- Over any run of the six operations, each stat's value at the end and what was taken
from it come to its value at the start and what it was offered exactly when no offer of
the run was cut off at the maximum. A decrease that finds the stat empty takes nothing. -/
theorem statsMachine_books_balance_iff (stat : Stat) (log : Log) (operations : List Operation) :
    ((statsMachine.run log operations).stats.gauge stat).current +
          statsMachine.total (taken stat) log operations =
        (log.stats.gauge stat).current + statsMachine.total (offered stat) log operations ↔
      statsMachine.EachStep (FitsUnder stat) log operations := by
  have law := Gauge.entries_kept_iff (log.stats.gauge stat) ((booksOf stat).trace log operations)
  have after : (Gauge.entries.run (log.stats.gauge stat) ((booksOf stat).trace log operations)) =
      (statsMachine.run log operations).stats.gauge stat :=
    (booksOf stat).run_trace log operations
  rw [after, total_booksOf, total_booksOf] at law
  refine law.trans (((booksOf stat).eachStep_trace_iff Gauge.Fits log operations).trans ?_)
  refine eachStep_congr (fun log operation => ?_) log operations
  by_cases about : operation.stat = stat <;> simp [booksOf, FitsUnder, about]

/-- A hit, healing within the maximum and a decrease of an empty stat balance; healing past the
maximum does not. -/
theorem statsMachine_books_balance_healed :
    let balance := fun operations : List Operation =>
      ((statsMachine.run ⟨{}, []⟩ operations).stats.gauge .health).current +
          statsMachine.total (taken .health) ⟨{}, []⟩ operations =
        100 + statsMachine.total (offered .health) ⟨{}, []⟩ operations
    balance [.decreaseHealth 100, .decreaseHealth 5, .increaseHealth 30, .decreaseStamina 1] ∧
      ¬ balance [.decreaseHealth 10, .increaseHealth 30] :=
  ⟨(statsMachine_books_balance_iff .health ⟨{}, []⟩ _).mpr (by decide +kernel),
    fun balanced => absurd ((statsMachine_books_balance_iff .health ⟨{}, []⟩ _).mp balanced)
      (by decide +kernel)⟩

end PlayerStatsComponent

end RPGLearnGame
