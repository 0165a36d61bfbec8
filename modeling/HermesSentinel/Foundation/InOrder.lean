import HermesSentinel.Foundation.Program

namespace Foundation

/-!
# Programs one after another

`Program.inOrder` runs a list of programs, each in the state the one before it
left, as long as each of them returns.  A measure that every program of the
list lowers is then lowered once for each of them.
-/

namespace Program

variable {ε σ α : Type}

/-- Run the programs in order and collect what they return. -/
def inOrder : List (Program ε σ α) -> Program ε σ (List α)
  | [] => Pure.pure []
  | first :: rest => do
      let value ← first
      let values ← inOrder rest
      Pure.pure (value :: values)

/-- How a computation that is seen to return can be used. -/
theorem returned_of_isOk {program : Program ε σ α} {s : σ} (returns : (program s).1.isOk = true) :
    exists value s', program s = (.ok value, s') := by
  rcases ended : program s with ⟨e | value, s'⟩
  · rw [ended] at returns
    cases returns
  · exact ⟨value, s', rfl⟩

namespace Spec

variable {abort : ε -> σ -> Prop}

/-- Two specifications of one program hold together. -/
theorem both {program : Program ε σ α} {pre pre' : σ -> Prop} {post post' : α -> σ -> Prop}
    {abort' : ε -> σ -> Prop} (first : Spec pre program post abort)
    (second : Spec pre' program post' abort') :
    Spec (fun s => pre s ∧ pre' s) program (fun value s => post value s ∧ post' value s)
      (fun e s => abort e s ∧ abort' e s) := by
  intro s holds
  have left := first s holds.1
  have right := second s holds.2
  rcases ended : program s with ⟨e | value, s'⟩
  · rw [ended] at left right
    exact ⟨left, right⟩
  · rw [ended] at left right
    exact ⟨left, right⟩

/-- What each program of the list keeps, the whole run keeps. -/
theorem inOrder_keeps {invariant : σ -> Prop} {programs : List (Program ε σ α)}
    (step : forall program, program ∈ programs ->
      Spec invariant program (fun _ => invariant) abort) :
    Spec invariant (inOrder programs) (fun _ => invariant) abort := by
  induction programs with
  | nil => exact .pure fun _ holds => holds
  | cons first rest inductionHypothesis =>
      refine .bind (step first List.mem_cons_self) fun _ => ?_
      have following := inductionHypothesis fun program member =>
        step program (List.mem_cons_of_mem first member)
      exact .bind following fun _ => .pure fun _ holds => holds

/-- A measure that each program of the list lowers by one, down to zero. -/
theorem inOrder_countdown {left : Nat -> σ -> Prop} {programs : List (Program ε σ α)}
    (step : forall program, program ∈ programs -> forall n,
      Spec (left n) program (fun _ => left (n - 1)) abort) (n : Nat) :
    Spec (left n) (inOrder programs) (fun _ => left (n - programs.length)) abort := by
  induction programs generalizing n with
  | nil => exact .pure fun _ holds => holds
  | cons first rest inductionHypothesis =>
      refine .bind (step first List.mem_cons_self n) fun _ => ?_
      have following := inductionHypothesis
        (fun program member => step program (List.mem_cons_of_mem first member)) (n - 1)
      have total : n - 1 - rest.length = n - (first :: rest).length := by
        rw [List.length_cons]
        omega
      rw [total] at following
      exact .bind following fun _ => .pure fun _ holds => holds

end Spec

end Program
end Foundation
