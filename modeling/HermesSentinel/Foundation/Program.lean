namespace Foundation

/-!
# Programs on a state

A program reads and changes a state and ends with a value or is interrupted; an
interruption does not undo what was done to the state before.  `Spec` relates
the state a program starts in to what holds when it returns and to what holds
when it is interrupted, and the rules below follow the constructs programs are
written with.
-/

/-- A computation on a state of type `σ` that may be interrupted by an `ε`. -/
def Program (ε σ α : Type) : Type :=
  σ -> Except ε α × σ

namespace Program

variable {ε σ α β : Type}

def pure (value : α) : Program ε σ α :=
  fun s => (.ok value, s)

def bind (first : Program ε σ α) (next : α -> Program ε σ β) : Program ε σ β :=
  fun s =>
    match first s with
    | (.ok value, s) => next value s
    | (.error e, s) => (.error e, s)

instance : Monad (Program ε σ) where
  pure := pure
  bind := bind

/-- The state as it is now. -/
def read : Program ε σ σ :=
  fun s => (.ok s, s)

def update (f : σ -> σ) : Program ε σ Unit :=
  fun s => (.ok (), f s)

def interrupt (e : ε) : Program ε σ α :=
  fun s => (.error e, s)

/-- A computation that does not look at the state. -/
def lift (call : Except ε α) : Program ε σ α :=
  fun s => (call, s)

/-- `if condition: program`. -/
def onlyIf (condition : Bool) (program : Program ε σ Unit) : Program ε σ Unit :=
  if condition = true then program else pure ()

/-- A program on a part of the state. -/
def zoom {τ : Type} (view : τ -> σ) (put : σ -> τ -> τ) (program : Program ε σ α) :
    Program ε τ α :=
  fun whole => ((program (view whole)).1, put (program (view whole)).2 whole)

/-- Continue after some interruptions; the others pass. -/
def handle (program : Program ε σ α) (handler : ε -> Option (Program ε σ α)) :
    Program ε σ α :=
  fun s =>
    match program s with
    | (.ok value, s) => (.ok value, s)
    | (.error e, s) =>
        match handler e with
        | some next => next s
        | none => (.error e, s)

/-- A part that returns is followed by the rest, in the state it left. -/
theorem bind_returned {first : Program ε σ α} {next : α -> Program ε σ β} {value : α} {s s' : σ}
    (returned : first s = (.ok value, s')) : (first >>= next) s = next value s' := by
  show Program.bind first next s = _
  rw [Program.bind, returned]

/-- Started in a state with `pre`, the program returns with `post` or is
interrupted with `abort`. -/
def Spec (pre : σ -> Prop) (program : Program ε σ α) (post : α -> σ -> Prop)
    (abort : ε -> σ -> Prop) : Prop :=
  forall s, pre s ->
    match program s with
    | (.ok value, s') => post value s'
    | (.error e, s') => abort e s'

namespace Spec

variable {pre : σ -> Prop} {post : α -> σ -> Prop} {abort : ε -> σ -> Prop}

theorem pure {value : α} (holds : forall s, pre s -> post value s) :
    Spec pre (Pure.pure value : Program ε σ α) post abort :=
  holds

theorem interrupt {e : ε} (holds : forall s, pre s -> abort e s) :
    Spec pre (Program.interrupt e : Program ε σ α) post abort :=
  holds

theorem update {f : σ -> σ} {post : Unit -> σ -> Prop} (holds : forall s, pre s -> post () (f s)) :
    Spec pre (Program.update f : Program ε σ Unit) post abort :=
  holds

theorem read {post : σ -> σ -> Prop} (holds : forall s, pre s -> post s s) :
    Spec pre (Program.read : Program ε σ σ) post abort :=
  holds

theorem lift {call : Except ε α} (returns : forall value, call = .ok value ->
      forall s, pre s -> post value s)
    (raises : forall e, call = .error e -> forall s, pre s -> abort e s) :
    Spec pre (Program.lift call : Program ε σ α) post abort := by
  intro s holds
  cases call with
  | ok value => exact returns value rfl s holds
  | error e => exact raises e rfl s holds

/-- Sequencing: what the first part leaves is what the second starts with. -/
theorem bind {first : Program ε σ α} {next : α -> Program ε σ β} {middle : α -> σ -> Prop}
    {post : β -> σ -> Prop} (left : Spec pre first middle abort)
    (right : forall value, Spec (middle value) (next value) post abort) :
    Spec pre (first >>= next) post abort := by
  intro s holds
  have done := left s holds
  show match Program.bind first next s with
    | (.ok value, s') => post value s'
    | (.error e, s') => abort e s'
  unfold Program.bind
  rcases ended : first s with ⟨e | value, s'⟩
  · rw [ended] at done
    exact done
  · rw [ended] at done
    exact right value s' done

theorem mono {program : Program ε σ α} {pre' : σ -> Prop} {post' : α -> σ -> Prop}
    {abort' : ε -> σ -> Prop} (spec : Spec pre' program post' abort')
    (weaker : forall s, pre s -> pre' s) (stronger : forall value s, post' value s -> post value s)
    (stopped : forall e s, abort' e s -> abort e s) : Spec pre program post abort := by
  intro s holds
  have done := spec s (weaker s holds)
  rcases ended : program s with ⟨e | value, s'⟩
  · rw [ended] at done
    exact stopped e s' done
  · rw [ended] at done
    exact stronger value s' done

/-- A precondition that does not look at the state may be used in the proof. -/
theorem assuming {fact : Prop} {program : Program ε σ α}
    (spec : fact -> Spec (fun _ => True) program post abort) :
    Spec (fun _ => fact) program post abort :=
  fun s holds => spec holds s trivial

/-- The same beside a condition on the state. -/
theorem given {fact : Prop} {program : Program ε σ α} (spec : fact -> Spec pre program post abort) :
    Spec (fun s => fact ∧ pre s) program post abort :=
  fun s holds => spec holds.1 s holds.2

/-- What holds however the program ends, stated about the state it leaves. -/
theorem iff_final {after : σ -> Prop} {program : Program ε σ α} :
    Spec pre program (fun _ => after) (fun _ => after) ↔ forall s, pre s -> after (program s).2 := by
  constructor
  · intro spec s holds
    have done := spec s holds
    rcases ended : program s with ⟨e | value, s'⟩
    · rw [ended] at done
      exact done
    · rw [ended] at done
      exact done
  · intro final s holds
    have done := final s holds
    rcases ended : program s with ⟨e | value, s'⟩
    · rw [ended] at done
      exact done
    · rw [ended] at done
      exact done

/-- A handled program meets the specification of its body where it returns and
of its handlers where it is interrupted. -/
theorem handle {program : Program ε σ α} {handler : ε -> Option (Program ε σ α)}
    {middle : ε -> σ -> Prop} (body : Spec pre program post middle)
    (handled : forall e next, handler e = some next -> Spec (middle e) next post abort)
    (passed : forall e, handler e = none -> forall s, middle e s -> abort e s) :
    Spec pre (program.handle handler) post abort := by
  intro s holds
  have done := body s holds
  unfold Program.handle
  rcases ended : program s with ⟨e | value, s'⟩
  · rw [ended] at done
    cases choice : handler e with
    | some next =>
        simp only [choice]
        exact handled e next choice s' done
    | none =>
        simp only [choice]
        exact passed e choice s' done
  · rw [ended] at done
    exact done

end Spec

end Program
end Foundation
