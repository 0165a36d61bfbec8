namespace Foundation

/-!
# Two runs that may fail

Two runs are alike if both fail with the same error or both return, with values
that are related.  Runs of a program on two inputs are compared step by step:
what relates the values of one step is what the next one is compared under.
-/

/-- Both fail alike, or both return related values. -/
def Alike {ε α β : Type} (related : α -> β -> Prop) : Except ε α -> Except ε β -> Prop
  | .ok value, .ok other => related value other
  | .error e, .error e' => e = e'
  | _, _ => False

namespace Alike

variable {ε α β γ δ : Type} {related : α -> β -> Prop} {first : Except ε α} {second : Except ε β}

theorem bind {result : γ -> δ -> Prop} {next : α -> Except ε γ} {next' : β -> Except ε δ}
    (left : Alike related first second)
    (right : forall value other, first = .ok value -> second = .ok other -> related value other ->
      Alike result (next value) (next' other)) :
    Alike result (first >>= next) (second >>= next') := by
  cases first with
  | ok value =>
      cases second with
      | ok other => exact right value other rfl rfl left
      | error e => exact left.elim
  | error e =>
      cases second with
      | ok other => exact left.elim
      | error e' => exact left

/-- A step that does not see the difference is followed by the same values. -/
theorem bind_same {result : γ -> δ -> Prop} {run run' : Except ε α} (same : run = run')
    {next : α -> Except ε γ} {next' : α -> Except ε δ}
    (right : forall value, run = .ok value -> Alike result (next value) (next' value)) :
    Alike result (run >>= next) (run' >>= next') := by
  subst same
  cases run with
  | ok value => exact right value rfl
  | error e => exact Eq.refl e

/-- How two alike runs end. -/
theorem ends (alike : Alike related first second) :
    (exists value other, first = .ok value ∧ second = .ok other ∧ related value other) ∨
      exists e, first = .error e ∧ second = .error e := by
  cases first with
  | ok value =>
      cases second with
      | ok other => exact Or.inl ⟨value, other, rfl, rfl, alike⟩
      | error e => exact alike.elim
  | error e =>
      cases second with
      | ok other => exact alike.elim
      | error e' => exact Or.inr ⟨e, rfl, congrArg Except.error (Eq.symm alike)⟩

end Alike
end Foundation
