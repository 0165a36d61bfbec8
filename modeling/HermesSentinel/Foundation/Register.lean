import HermesSentinel.Foundation.Program

namespace Foundation

/-!
# Registers

A family of programs writes to a state of which only a view matters.  If a call
that returns leaves its own value in the view, and a call that is interrupted
leaves the view alone, then after any calls the view holds the value of the
last one that returned.
-/

namespace Register

variable {ε σ κ ω : Type} (write : κ -> Program ε σ Unit)

/-- The state after the calls, whether they return or not. -/
def after : List κ -> σ -> σ
  | [], s => s
  | call :: rest, s => after rest (write call s).2

/-- The calls that return, in order. -/
def returned : List κ -> σ -> List κ
  | [], _ => []
  | call :: rest, s =>
      match write call s with
      | (.ok (), s') => call :: returned rest s'
      | (.error _, s') => returned rest s'

variable (view : σ -> ω) (holds : κ -> ω -> Prop)

/-- A call writes its value or, interrupted, leaves what was there. -/
def WritesWhole (call : κ) : Prop :=
  forall old, Program.Spec (fun s => view s = old) (write call) (fun _ s => holds call (view s))
    (fun _ s => view s = old)

/-- What the view holds after the calls: the last value that was written. -/
def Holds (calls : List κ) (s : σ) : Prop :=
  match (returned write calls s).getLast? with
  | some call => holds call (view (after write calls s))
  | none => view (after write calls s) = view s

variable {write view holds}

theorem holds_last (calls : List κ)
    (whole : forall call, call ∈ calls -> WritesWhole write view holds call) (s : σ) :
    Holds write view holds calls s := by
  induction calls generalizing s with
  | nil => exact Eq.refl (view s)
  | cons call rest inductionHypothesis =>
      have later := inductionHypothesis
        (fun other member => whole other (List.mem_cons_of_mem call member)) (write call s).2
      have done := whole call (List.mem_cons_self) (view s) s rfl
      rw [Holds] at later ⊢
      rw [after, returned]
      rcases ended : write call s with ⟨e | value, s'⟩
      · rw [ended] at later done
        dsimp only at later done ⊢
        -- An interrupted call is as good as none.
        rw [<- done]
        exact later
      · rw [ended] at later done
        dsimp only at later done ⊢
        rw [List.getLast?_cons]
        cases last : (returned write rest s').getLast? with
        | some other =>
            rw [last] at later
            exact later
        | none =>
            rw [last] at later
            dsimp only [Option.getD_none] at later ⊢
            rw [later]
            exact done

end Register
end Foundation
