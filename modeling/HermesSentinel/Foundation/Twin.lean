import HermesSentinel.Foundation.Alike
import HermesSentinel.Foundation.Cleanup

namespace Foundation

/-!
# Two programs on two states

Two programs are twins under a relation between their states if from related
states they end alike, in related states again.  The rules compare the programs
construct by construct; a relation can forget a part of a state, and then the
programs are shown not to depend on it, or relate a detailed state to an
abstract one, and then one program implements the other.
-/

namespace Alike

variable {ε α β : Type}

theorem eq {first second : Except ε α} (alike : Alike Eq first second) : first = second := by
  rcases alike.ends with ⟨value, other, rfl, rfl, same⟩ | ⟨e, rfl, rfl⟩
  · rw [same]
  · rfl

theorem refl (result : Except ε α) : Alike Eq result result := by
  cases result with
  | ok value => exact Eq.refl value
  | error e => exact Eq.refl e

theorem mapError {ε' : Type} {related : α -> β -> Prop} {first : Except ε α} {second : Except ε β}
    (alike : Alike related first second) (wrap : ε -> ε') :
    Alike related (first.mapError wrap) (second.mapError wrap) := by
  rcases alike.ends with ⟨value, other, rfl, rfl, values⟩ | ⟨e, rfl, rfl⟩
  · exact values
  · exact Eq.refl (wrap e)

end Alike

namespace Program

variable {ε σ τ α β γ δ : Type}

/-- A program whose interruptions are seen as those of another kind. -/
def widen {ε' : Type} (wrap : ε -> ε') (program : Program ε σ α) : Program ε' σ α :=
  fun s => ((program s).1.mapError wrap, (program s).2)

/-- From related states both end alike, in related states. -/
def Twin (related : σ -> τ -> Prop) (program : Program ε σ α) (other : Program ε τ β)
    (values : α -> β -> Prop) : Prop :=
  forall s t, related s t ->
    Alike values (program s).1 (other t).1 ∧ related (program s).2 (other t).2

namespace Twin

variable {related : σ -> τ -> Prop} {values : α -> β -> Prop}

theorem pure {value : α} {other : β} (same : values value other) :
    Twin related (Pure.pure value : Program ε σ α) (Pure.pure other : Program ε τ β) values :=
  fun _ _ holds => ⟨same, holds⟩

theorem interrupt (e : ε) :
    Twin related (Program.interrupt e : Program ε σ α) (Program.interrupt e : Program ε τ β) values :=
  fun _ _ holds => ⟨rfl, holds⟩

theorem update {f : σ -> σ} {g : τ -> τ} (kept : forall s t, related s t -> related (f s) (g t)) :
    Twin related (Program.update f : Program ε σ Unit) (Program.update g) (fun _ _ => True) :=
  fun s t holds => ⟨trivial, kept s t holds⟩

theorem read : Twin related (Program.read : Program ε σ σ) (Program.read : Program ε τ τ) related :=
  fun _ _ holds => ⟨holds, holds⟩

theorem onlyIf (condition : Bool) {program : Program ε σ Unit} {other : Program ε τ Unit}
    (twin : Twin related program other (fun _ _ => True)) :
    Twin related (Program.onlyIf condition program) (Program.onlyIf condition other)
      (fun _ _ => True) := by
  cases condition with
  | false => exact .pure trivial
  | true => exact twin

/-- Sequencing: values that are related are compared under that. -/
theorem bind {program : Program ε σ α} {other : Program ε τ β} {next : α -> Program ε σ γ}
    {following : β -> Program ε τ δ} {results : γ -> δ -> Prop}
    (left : Twin related program other values)
    (right : forall value value', values value value' ->
      Twin related (next value) (following value') results) :
    Twin related (program >>= next) (other >>= following) results := by
  intro s t holds
  have ended := left s t holds
  show Alike results (Program.bind program next s).1 (Program.bind other following t).1 ∧
    related (Program.bind program next s).2 (Program.bind other following t).2
  unfold Program.bind
  rcases first : program s with ⟨e | value, s'⟩
  · rcases second : other t with ⟨e' | value', t'⟩
    · rw [first, second] at ended
      exact ended
    · rw [first, second] at ended
      exact ended.1.elim
  · rcases second : other t with ⟨e' | value', t'⟩
    · rw [first, second] at ended
      exact ended.1.elim
    · rw [first, second] at ended
      exact right value value' ended.1 s' t' ended.2

theorem bindSame {program : Program ε σ α} {other : Program ε τ α} {next : α -> Program ε σ γ}
    {following : α -> Program ε τ δ} {results : γ -> δ -> Prop} (left : Twin related program other Eq)
    (right : forall value, Twin related (next value) (following value) results) :
    Twin related (program >>= next) (other >>= following) results :=
  .bind left fun value _ same => same ▸ right value

/-- Both endings are compared as values. -/
theorem caught {program : Program ε σ α} {other : Program ε τ β}
    (twin : Twin related program other values) :
    Twin related (Program.caught program) (Program.caught other) (Alike values) :=
  fun s t holds => ⟨(twin s t holds).1, (twin s t holds).2⟩

theorem lift {call : Except ε α} {other : Except ε β} (alike : Alike values call other) :
    Twin related (Program.lift call : Program ε σ α) (Program.lift other : Program ε τ β) values :=
  fun _ _ holds => ⟨alike, holds⟩

/-- Programs on parts of the two states. -/
theorem zoom {σ' τ' : Type} {outer : σ' -> τ' -> Prop} {program : Program ε σ α}
    {other : Program ε τ β} {view : σ' -> σ} {put : σ -> σ' -> σ'} {view' : τ' -> τ}
    {put' : τ -> τ' -> τ'} (twin : Twin related program other values)
    (part : forall s t, outer s t -> related (view s) (view' t))
    (whole : forall s t, outer s t -> forall s' t', related s' t' -> outer (put s' s) (put' t' t)) :
    Twin outer (Program.zoom view put program) (Program.zoom view' put' other) values := by
  intro s t holds
  have ended := twin (view s) (view' t) (part s t holds)
  exact ⟨ended.1, whole s t holds _ _ ended.2⟩

theorem widen {ε' : Type} {wrap : ε -> ε'} {program : Program ε σ α} {other : Program ε τ β}
    (twin : Twin related program other values) :
    Twin related (program.widen wrap) (other.widen wrap) values :=
  fun s t holds => ⟨(twin s t holds).1.mapError wrap, (twin s t holds).2⟩

/-- Programs that no state makes a difference to end in the same way. -/
theorem result_eq {program : Program ε σ α} {other : Program ε τ α}
    (twin : Twin (fun _ _ => True) program other Eq) (s : σ) (t : τ) :
    (program s).1 = (other t).1 :=
  (twin s t trivial).1.eq

end Twin

/-- A part that is interrupted is not followed by the rest. -/
theorem bind_interrupted {first : Program ε σ α} {next : α -> Program ε σ β} {e : ε} {s s' : σ}
    (interrupted : first s = (.error e, s')) : (first >>= next) s = (.error e, s') := by
  show Program.bind first next s = _
  rw [Program.bind, interrupted]

/-- How two programs end alike from two states. -/
inductive EndAlike (program : Program ε σ α) (other : Program ε τ β)
    (after : α -> β -> σ -> τ -> Prop) (aborted : σ -> τ -> Prop) (s : σ) (t : τ) : Prop
  | returned {value : α} {value' : β} {s' : σ} {t' : τ} (first : program s = (.ok value, s'))
      (second : other t = (.ok value', t')) (holds : after value value' s' t')
  | interrupted {e : ε} {s' : σ} {t' : τ} (first : program s = (.error e, s'))
      (second : other t = (.error e, t')) (holds : aborted s' t')

/-- From states related by `before` both end alike: returned, their values and
states are related by `after`, and interrupted, their states by `aborted`. -/
def Coupled (before : σ -> τ -> Prop) (program : Program ε σ α) (other : Program ε τ β)
    (after : α -> β -> σ -> τ -> Prop) (aborted : σ -> τ -> Prop) : Prop :=
  forall s t, before s t -> EndAlike program other after aborted s t

namespace Coupled

variable {before : σ -> τ -> Prop} {after : α -> β -> σ -> τ -> Prop} {aborted : σ -> τ -> Prop}

theorem pure {value : α} {other : β} (holds : forall s t, before s t -> after value other s t) :
    Coupled before (Pure.pure value : Program ε σ α) (Pure.pure other : Program ε τ β) after aborted :=
  fun s t related => .returned rfl rfl (holds s t related)

theorem update {f : σ -> σ} {g : τ -> τ} {after : Unit -> Unit -> σ -> τ -> Prop}
    (moved : forall s t, before s t -> after () () (f s) (g t)) :
    Coupled before (Program.update f : Program ε σ Unit) (Program.update g) after aborted :=
  fun s t related => .returned rfl rfl (moved s t related)

/-- A relation that both keep may be given up where they are interrupted. -/
theorem ofTwin {related : σ -> τ -> Prop} {values : α -> β -> Prop} {program : Program ε σ α}
    {other : Program ε τ β} (twin : Twin related program other values)
    (weaker : forall s t, related s t -> aborted s t) :
    Coupled related program other (fun value value' s t => values value value' ∧ related s t)
      aborted := by
  intro s t holds
  rcases twin s t holds with ⟨alike, kept⟩
  rcases alike.ends with ⟨value, value', first, second, same⟩ | ⟨e, first, second⟩
  · exact .returned (Prod.ext first rfl) (Prod.ext second rfl) ⟨same, kept⟩
  · exact .interrupted (Prod.ext first rfl) (Prod.ext second rfl) (weaker _ _ kept)

/-- Sequencing: the relation the first parts leave is the one the rest starts with. -/
theorem bind {program : Program ε σ α} {other : Program ε τ β} {next : α -> Program ε σ γ}
    {following : β -> Program ε τ δ} {final : γ -> δ -> σ -> τ -> Prop}
    (left : Coupled before program other after aborted)
    (right : forall value value', Coupled (after value value') (next value) (following value') final
      aborted) :
    Coupled before (program >>= next) (other >>= following) final aborted := by
  intro s t holds
  cases left s t holds with
  | returned first second middle =>
      cases right _ _ _ _ middle with
      | returned third fourth last =>
          exact .returned ((bind_returned first).trans third) ((bind_returned second).trans fourth) last
      | interrupted third fourth last =>
          exact .interrupted ((bind_returned first).trans third) ((bind_returned second).trans fourth)
            last
  | interrupted first second last =>
      exact .interrupted (bind_interrupted first) (bind_interrupted second) last

theorem mono {program : Program ε σ α} {other : Program ε τ β}
    {after' : α -> β -> σ -> τ -> Prop} (coupled : Coupled before program other after aborted)
    (weaker : forall value value' s t, after value value' s t -> after' value value' s t) :
    Coupled before program other after' aborted := by
  intro s t holds
  cases coupled s t holds with
  | returned first second last => exact .returned first second (weaker _ _ _ _ last)
  | interrupted first second last => exact .interrupted first second last

/-- A fact about the values may be used in what follows. -/
theorem given {fact : Prop} {program : Program ε σ α} {other : Program ε τ β}
    (coupled : fact -> Coupled before program other after aborted) :
    Coupled (fun s t => fact ∧ before s t) program other after aborted :=
  fun s t holds => coupled holds.1 s t holds.2

/-- Where every ending is related alike, the results are the same and the states related. -/
theorem ends {program : Program ε σ α} {other : Program ε τ α}
    (coupled : Coupled before program other (fun value value' s t => value = value' ∧ aborted s t)
      aborted) {s : σ} {t : τ} (holds : before s t) :
    (program s).1 = (other t).1 ∧ aborted (program s).2 (other t).2 := by
  cases coupled s t holds with
  | returned first second last =>
      rw [first, second]
      exact ⟨congrArg _ last.1, last.2⟩
  | interrupted first second last =>
      rw [first, second]
      exact ⟨rfl, last⟩

end Coupled

end Program
end Foundation
