import Mathlib.Data.List.Destutter
import Mathlib.Data.List.Induction

namespace Foundation

/-!
# Changes of a signal

The values at which a sequence changes, in order: what is left of it when
repetitions are dropped, without the value it starts with.
-/

variable {α : Type} [DecidableEq α]

def changes (signal : List α) : List α :=
  (signal.destutter (· ≠ ·)).tail

/-- Two neighbours among the changes differ. -/
theorem isChain_changes (signal : List α) : (changes signal).IsChain (· ≠ ·) :=
  (List.isChain_destutter _ signal).tail

/-- The repetitions dropped do not hide the newest value. -/
theorem destutter'_concat (first : α) (signal : List α) (newest : α) :
    (signal ++ [newest]).destutter' (· ≠ ·) first =
      signal.destutter' (· ≠ ·) first ++
        if signal.getLastD first ≠ newest then [newest] else [] := by
  induction signal generalizing first with
  | nil =>
      rw [List.nil_append, List.destutter'_singleton, List.getLastD_nil]
      split
      · rfl
      · rfl
  | cons second rest inductionHypothesis =>
      rw [List.cons_append, List.getLastD_cons]
      by_cases differ : first ≠ second
      · rw [List.destutter'_cons_pos _ differ, List.destutter'_cons_pos _ differ,
          inductionHypothesis second, List.cons_append]
      · rw [List.destutter'_cons_neg _ differ, List.destutter'_cons_neg _ differ,
          inductionHypothesis first, not_not.mp differ]

theorem changes_concat (signal : List α) (newest : α) :
    changes (signal ++ [newest]) =
      changes signal ++
        match signal.getLast? with
        | none => []
        | some last => if last ≠ newest then [newest] else [] := by
  cases signal with
  | nil => rfl
  | cons first rest =>
      have last : (first :: rest).getLast? = some (rest.getLastD first) := by
        rw [List.getLast?_cons, List.getLastD_eq_getLast?]
      rw [last, changes, List.cons_append, List.destutter_cons', destutter'_concat,
        List.tail_append_of_ne_nil (List.destutter'_ne_nil _ _), changes, List.destutter_cons']

/-- The newest change is to the newest value. -/
theorem getLast?_changes {signal : List α} {value : α}
    (changed : (changes signal).getLast? = some value) : signal.getLast? = some value := by
  induction signal using List.reverseRecOn with
  | nil => cases changed
  | append_singleton earlier newest inductionHypothesis =>
      rw [List.getLast?_concat]
      rw [changes_concat] at changed
      cases last : earlier.getLast? with
      | none =>
          rw [List.getLast?_eq_none_iff.mp last] at changed
          cases changed
      | some before =>
          rw [last] at changed
          dsimp only at changed
          split at changed
          · rw [List.getLast?_concat] at changed
            exact changed
          · rename_i same
            rw [List.append_nil] at changed
            rw [<- not_not.mp same, <- last]
            exact inductionHypothesis changed

theorem head_destutter' (first : α) (signal : List α) :
    (signal.destutter' (· ≠ ·) first).head? = some first := by
  induction signal with
  | nil => rfl
  | cons second rest inductionHypothesis =>
      by_cases differ : first ≠ second
      · rw [List.destutter'_cons_pos _ differ]
        rfl
      · rw [List.destutter'_cons_neg _ differ]
        exact inductionHypothesis

/-- The first change is away from the first value. -/
theorem head_changes {signal : List α} {value : α} (changed : (changes signal).head? = some value) :
    exists first, signal.head? = some first ∧ first ≠ value := by
  cases signal with
  | nil => cases changed
  | cons first rest =>
      refine ⟨first, rfl, ?_⟩
      have chain := List.isChain_destutter' (· ≠ ·) rest first
      rw [changes, List.destutter_cons'] at changed
      rcases List.head?_eq_some_iff.mp (head_destutter' first rest) with ⟨others, shape⟩
      rw [shape] at chain changed
      rcases List.head?_eq_some_iff.mp changed with ⟨more, tail⟩
      rw [List.tail_cons] at tail
      rw [tail] at chain
      exact (List.isChain_cons_cons.mp chain).1

end Foundation
