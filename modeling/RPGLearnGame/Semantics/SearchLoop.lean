import Mathlib.Data.List.TakeWhile
import Mathlib.Order.Lattice

/-!
# Loops with a break

`forBreak` runs a body over a list of indices until the body breaks, as a C
`for` loop over a range does. In a searching loop the index alone decides
whether an iteration breaks: such a loop folds its continuing step over the
indices before the first match and then finishes at that match, if there is one.
-/

universe u v

namespace SearchLoop

variable {Index : Type u} {State : Type v}

/-- Run the body over the indices in order; `ForInStep.done` is a `break`. -/
def forBreak (body : Index → State → ForInStep State) : List Index → State → State
  | [], state => state
  | index :: rest, state =>
      match body index state with
      | .yield next => forBreak body rest next
      | .done next => next

variable (found : Index → Bool) (step finish : Index → State → State)

/-- The body of a searching loop: finish at a match, step over anything else. -/
def searchBody (index : Index) (state : State) : ForInStep State :=
  if found index then .done (finish index state) else .yield (step index state)

/-- The indices a search steps over: those before the first match. -/
def passed (indices : List Index) : List Index := indices.takeWhile fun index => !found index

/-- The state of a search after stepping over a list of indices. -/
def stepOver (indices : List Index) (state : State) : State :=
  indices.foldl (fun state index => step index state) state

@[simp] theorem stepOver_nil (state : State) : stepOver step [] state = state := rfl

@[simp] theorem stepOver_cons (index : Index) (rest : List Index) (state : State) :
    stepOver step (index :: rest) state = stepOver step rest (step index state) := rfl

/-- A searching loop steps over the indices before the first match and finishes
there, or steps over all of them when nothing matches. -/
theorem forBreak_search (indices : List Index) (state : State) :
    forBreak (searchBody found step finish) indices state =
      match indices.find? found with
      | some index => finish index (stepOver step (passed found indices) state)
      | none => stepOver step (passed found indices) state := by
  induction indices generalizing state with
  | nil => rfl
  | cons index rest inductionHypothesis =>
      by_cases matched : found index
      · simp [forBreak, searchBody, passed, matched]
      · simp [forBreak, searchBody, passed, matched, inductionHypothesis]

/-- In a sorted list, the indices a search steps over come before its match. -/
theorem passed_before_match {order : Index → Index → Prop} {indices : List Index}
    (sorted : indices.Pairwise order) {index : Index} (first : indices.find? found = some index) :
    ∀ other ∈ passed found indices, order other index := by
  induction indices with
  | nil => simp [passed]
  | cons head rest inductionHypothesis =>
      obtain ⟨before, restSorted⟩ := List.pairwise_cons.mp sorted
      intro other member
      by_cases matched : found head
      · simp [passed, matched] at member
      · have later : rest.find? found = some index := by simpa [matched] using first
        have step : passed found (head :: rest) = head :: passed found rest := by
          simp [passed, matched]
        rw [step] at member
        rcases List.mem_cons.mp member with rfl | member
        · exact before index (List.mem_of_find?_eq_some later)
        · exact inductionHypothesis restSorted later other member

/-- The indices a search looks at: those it steps over and its match. -/
def visited (indices : List Index) : List Index :=
  passed found indices ++ (indices.find? found).toList

/-- A search looks at its indices in order, from the first one on. -/
theorem visited_prefix (indices : List Index) : visited found indices <+: indices := by
  induction indices with
  | nil => exact List.nil_prefix
  | cons head rest inductionHypothesis =>
      by_cases matched : found head
      · simp [visited, passed, matched]
      · obtain ⟨unseen, split⟩ := inductionHypothesis
        refine ⟨unseen, ?_⟩
        have step : visited found (head :: rest) = head :: visited found rest := by
          simp [visited, passed, matched]
        rw [step, List.cons_append, split]

/-- In a sorted list, a search looks at the indices that no match comes before. -/
theorem mem_visited_iff [LinearOrder Index] {indices : List Index}
    (sorted : indices.Pairwise fun first second => first < second) (index : Index) :
    index ∈ visited found indices ↔
      index ∈ indices ∧ ∀ earlier ∈ indices, earlier < index → found earlier = false := by
  induction indices with
  | nil => simp [visited, passed]
  | cons head rest inductionHypothesis =>
      obtain ⟨before, restSorted⟩ := List.pairwise_cons.mp sorted
      have notAfter : ∀ later ∈ head :: rest, ¬ later < head := by
        intro later member
        rcases List.mem_cons.mp member with rfl | member
        · exact lt_irrefl later
        · exact (before later member).asymm
      by_cases matched : found head
      · have alone : visited found (head :: rest) = [head] := by simp [visited, passed, matched]
        rw [alone, List.mem_singleton]
        constructor
        · rintro rfl
          exact ⟨List.mem_cons_self, fun earlier member less =>
            absurd less (notAfter earlier member)⟩
        · rintro ⟨member, free⟩
          rcases List.mem_cons.mp member with same | member
          · exact same
          · have missed := free head List.mem_cons_self (before index member)
            exact absurd (missed.symm.trans matched) Bool.false_ne_true
      · have step : visited found (head :: rest) = head :: visited found rest := by
          simp [visited, passed, matched]
        rw [step, List.mem_cons, inductionHypothesis restSorted, List.forall_mem_cons,
          List.mem_cons]
        constructor
        · rintro (rfl | ⟨member, free⟩)
          · exact ⟨.inl rfl, fun _ => (Bool.not_eq_true _).mp matched,
              fun earlier member less => absurd less (notAfter _ (List.mem_cons_of_mem _ member))⟩
          · exact ⟨.inr member, fun _ => (Bool.not_eq_true _).mp matched, free⟩
        · rintro ⟨same | member, -, free⟩
          · exact .inl same
          · exact .inr ⟨member, free⟩

/-- The same for the indices of a C loop from zero. -/
theorem mem_visited_range_iff (found : ℕ → Bool) (count index : ℕ) :
    index ∈ visited found (List.range count) ↔
      index < count ∧ ∀ earlier < index, found earlier = false := by
  rw [mem_visited_iff found List.pairwise_lt_range, List.mem_range]
  refine and_congr_right fun bounded => ?_
  constructor
  · exact fun free earlier less => free earlier (List.mem_range.mpr (less.trans bounded)) less
  · exact fun free earlier _ less => free earlier less

end SearchLoop
