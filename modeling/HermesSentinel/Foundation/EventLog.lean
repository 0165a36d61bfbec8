import Mathlib.Data.List.Induction

namespace Foundation

/-!
# Logs of justified events

A log records events oldest first.  It is justified when every event in it is
allowed by the events before it; a property of whole runs is then an `allowed`
relation, and to keep it only the newest event has to be looked at.
-/

variable {ε : Type}

/-- Every event is allowed by the log before it. -/
def Justified (allowed : List ε -> ε -> Prop) (log : List ε) : Prop :=
  forall before event after, log = before ++ event :: after -> allowed before event

theorem justified_nil (allowed : List ε -> ε -> Prop) : Justified allowed [] := by
  intro before event after shape
  have impossible := List.append_ne_nil_of_right_ne_nil before (List.cons_ne_nil event after)
  exact absurd shape.symm impossible

/-- What came before the newest event was justified. -/
theorem Justified.dropLast {allowed : List ε -> ε -> Prop} {log : List ε} {newest : ε}
    (justified : Justified allowed (log ++ [newest])) : Justified allowed log := by
  intro before event after shape
  apply justified before event (after ++ [newest])
  rw [shape, List.append_assoc, List.cons_append]

theorem Justified.concat {allowed : List ε -> ε -> Prop} {log : List ε} {event : ε}
    (justified : Justified allowed log) (fits : allowed log event) :
    Justified allowed (log ++ [event]) := by
  intro before other after shape
  cases last : after.reverse with
  | nil =>
      have empty : after = [] := List.reverse_eq_nil_iff.mp last
      rw [empty] at shape
      have parts := List.append_inj' shape rfl
      cases parts.2
      rw [<- parts.1]
      exact fits
  | cons newest others =>
      have shown : after = others.reverse ++ [newest] := by
        rw [<- List.reverse_reverse after, last, List.reverse_cons]
      rw [shown, <- List.cons_append, <- List.append_assoc] at shape
      have parts := List.append_inj' shape rfl
      exact justified before other others.reverse parts.1

end Foundation
