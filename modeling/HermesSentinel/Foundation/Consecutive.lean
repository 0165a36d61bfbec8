import Mathlib.Data.List.Basic

namespace Foundation

/-!
# Consecutive integers

A queue whose identities are handed out one after another, appended at one
end and removed at the other, always holds a block of consecutive integers.
`consecutive start count` is that block.  The last section recognises it from
the weaker evidence a validator checks: the identities increase, and the
first and last of them are as far apart as the queue is long.
-/

/-- The `count` integers from `start` upwards. -/
def consecutive (start : Int) : Nat -> List Int
  | 0 => []
  | count + 1 => start :: consecutive (start + 1) count

@[simp] theorem consecutive_zero (start : Int) : consecutive start 0 = [] := rfl

@[simp] theorem consecutive_length (start : Int) (count : Nat) :
    (consecutive start count).length = count := by
  induction count generalizing start with
  | zero => rfl
  | succ count inductionHypothesis =>
      rw [consecutive, List.length_cons, inductionHypothesis]

theorem consecutive_succ (start : Int) (count : Nat) :
    consecutive start (count + 1) = consecutive start count ++ [start + count] := by
  induction count generalizing start with
  | zero => simp [consecutive]
  | succ count inductionHypothesis =>
      rw [consecutive, inductionHypothesis (start + 1)]
      have shift : start + 1 + (count : Int) = start + ((count + 1 : Nat) : Int) := by omega
      rw [shift]
      rfl

theorem mem_consecutive {start x : Int} {count : Nat} :
    x ∈ consecutive start count ↔ start ≤ x ∧ x < start + count := by
  induction count generalizing start with
  | zero =>
      simp only [consecutive, List.not_mem_nil, false_iff]
      omega
  | succ count inductionHypothesis =>
      rw [consecutive, List.mem_cons, inductionHypothesis]
      omega

theorem consecutive_append (start : Int) (first second : Nat) :
    consecutive start first ++ consecutive (start + first) second =
      consecutive start (first + second) := by
  induction second with
  | zero => simp
  | succ second inductionHypothesis =>
      rw [consecutive_succ, ← List.append_assoc, inductionHypothesis, ← Nat.add_assoc,
        consecutive_succ]
      have same : start + (first : Int) + (second : Int) = start + ((first + second : Nat) : Int) := by
        omega
      rw [same]

theorem drop_consecutive (start : Int) {dropped count : Nat} (le : dropped ≤ count) :
    (consecutive start count).drop dropped = consecutive (start + dropped) (count - dropped) := by
  have split := consecutive_append start dropped (count - dropped)
  rw [Nat.add_sub_cancel' le] at split
  rw [<- split, List.drop_left' (consecutive_length start dropped)]

theorem consecutive_increasing (start : Int) (count : Nat) :
    (consecutive start count).Pairwise (· < ·) := by
  induction count generalizing start with
  | zero => exact List.Pairwise.nil
  | succ count inductionHypothesis =>
      refine List.Pairwise.cons ?_ (inductionHypothesis (start + 1))
      intro x member
      have := mem_consecutive.mp member
      omega

theorem getLast?_consecutive (start : Int) (count : Nat) :
    (consecutive start (count + 1)).getLast? = some (start + count) := by
  rw [consecutive_succ, List.getLast?_concat]

/-- Increasing integers spread at least as wide as their number. -/
theorem length_le_spread {head last : Int} {tail : List Int}
    (increasing : (head :: tail).Pairwise (· < ·)) (end' : (head :: tail).getLast? = some last) :
    head + tail.length ≤ last := by
  induction tail generalizing head with
  | nil =>
      cases end'
      simp
  | cons next rest inductionHypothesis =>
      have parts := List.pairwise_cons.mp increasing
      have step := parts.1 next List.mem_cons_self
      have later := inductionHypothesis parts.2 (by simpa using end')
      simp only [List.length_cons]
      omega

/-- Increasing integers that spread exactly as wide as their number are
consecutive. -/
theorem eq_consecutive {head last : Int} {tail : List Int}
    (increasing : (head :: tail).Pairwise (· < ·)) (end' : (head :: tail).getLast? = some last)
    (tight : last = head + tail.length) :
    head :: tail = consecutive head (tail.length + 1) := by
  induction tail generalizing head with
  | nil => rfl
  | cons next rest inductionHypothesis =>
      have parts := List.pairwise_cons.mp increasing
      have step := parts.1 next List.mem_cons_self
      have tailEnd : (next :: rest).getLast? = some last := by simpa using end'
      have spread := length_le_spread parts.2 tailEnd
      simp only [List.length_cons] at tight
      have adjacent : next = head + 1 := by omega
      have tailTight : last = next + rest.length := by omega
      rw [List.length_cons, consecutive, ← adjacent,
        ← inductionHypothesis parts.2 tailEnd tailTight]

end Foundation
