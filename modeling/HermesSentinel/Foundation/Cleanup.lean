import HermesSentinel.Foundation.Program

namespace Foundation

/-!
# Cleaning up

The constructs with which a program cleans up behind another one.  They differ
in what becomes of a failure of the cleanup: it is dropped, it is remembered, or
it escapes in the place of the interruption that was on its way.
-/

namespace Program

variable {ε σ α : Type}

/-- How a program ended, as a value. -/
def caught (program : Program ε σ α) : Program ε σ (Except ε α) :=
  fun s => (.ok (program s).1, (program s).2)

/-- `try: program except BaseException: pass`. -/
def attempt (program : Program ε σ Unit) : Program ε σ Unit := do
  let _ ← caught program
  Pure.pure ()

/-- `try: program except BaseException: cleanup; raise`. -/
def undoing (program : Program ε σ α) (cleanup : Program ε σ Unit) : Program ε σ α :=
  program.handle fun e => some do
    cleanup
    interrupt e

/-- `try: program finally: cleanup`: the cleanup is made on either way out. -/
def ensuring (program : Program ε σ α) (cleanup : Program ε σ Unit) : Program ε σ α := do
  let value ← program.undoing cleanup
  cleanup
  Pure.pure value

namespace Spec

variable {pre : σ -> Prop} {post : α -> σ -> Prop} {abort : ε -> σ -> Prop}

theorem caught {program : Program ε σ α} {ended : Except ε α -> σ -> Prop} {never : ε -> σ -> Prop}
    (spec : Spec pre program (fun value => ended (.ok value)) (fun e => ended (.error e))) :
    Spec pre (Program.caught program) ended never := by
  intro s holds
  have done := spec s holds
  simp only [Program.caught]
  rcases run : program s with ⟨e | value, s'⟩
  · rw [run] at done
    exact done
  · rw [run] at done
    exact done

theorem attempt {program : Program ε σ Unit} {after : σ -> Prop} {never : ε -> σ -> Prop}
    (spec : Spec pre program (fun _ => after) (fun _ => after)) :
    Spec pre (Program.attempt program) (fun _ => after) never :=
  Spec.bind (Spec.caught spec) fun _ => Spec.pure fun _ holds => holds

theorem undoing {program : Program ε σ α} {cleanup : Program ε σ Unit} {middle : ε -> σ -> Prop}
    (body : Spec pre program post middle)
    (cleans : forall e, Spec (middle e) cleanup (fun _ => abort e) abort) :
    Spec pre (program.undoing cleanup) post abort := by
  apply Spec.handle body
  case handled =>
    intro e next chosen
    cases chosen
    exact Spec.bind (cleans e) fun _ => Spec.interrupt fun s holds => holds
  case passed =>
    intro e impossible
    cases impossible

theorem ensuring {program : Program ε σ α} {cleanup : Program ε σ Unit} {after : α -> σ -> Prop}
    {middle : ε -> σ -> Prop} (body : Spec pre program after middle)
    (returned : forall value, Spec (after value) cleanup (fun _ => post value) abort)
    (interrupted : forall e, Spec (middle e) cleanup (fun _ => abort e) abort) :
    Spec pre (program.ensuring cleanup) post abort := by
  apply Spec.bind (body.undoing interrupted)
  intro value
  exact Spec.bind (returned value) fun _ => Spec.pure fun _ holds => holds

end Spec

end Program
end Foundation
