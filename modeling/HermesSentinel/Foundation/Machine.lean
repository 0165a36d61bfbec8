import Mathlib.Data.Option.Basic

namespace Foundation

/-!
# What the runs of a machine show

A machine performs operations on a state.  An operation can be refused, and
then leaves the state as it was.  All that a run shows is the view of every
state it reaches and which of its operations were refused.

Two states are indistinguishable if no run tells them apart.  This is the
largest agreement: a relation that shows nothing and that every operation
keeps.  A proof that states are indistinguishable gives an agreement, and a
proof that they differ follows indistinguishability along a run up to a
difference.
-/

structure Machine (State Operation View : Type) where
  perform : State -> Operation -> Option State
  view : State -> View

namespace Machine

variable {State Operation View : Type} (machine : Machine State Operation View)

def after (s : State) (operation : Operation) : State :=
  (machine.perform s operation).getD s

/-- What the operations show, one by one; `none` is a refusal. -/
def results : State -> List Operation -> List (Option View)
  | _, [] => []
  | s, operation :: rest =>
      (machine.perform s operation).map machine.view :: results (machine.after s operation) rest

/-- Everything a run shows, its start included. -/
def observe (s : State) (operations : List Operation) : View × List (Option View) :=
  (machine.view s, machine.results s operations)

def Indistinguishable (s t : State) : Prop :=
  forall operations, machine.observe s operations = machine.observe t operations

structure Agreement (relation : State -> State -> Prop) : Prop where
  view : forall {s t}, relation s t -> machine.view s = machine.view t
  perform : forall {s t}, relation s t -> forall operation,
    Option.Rel relation (machine.perform s operation) (machine.perform t operation)

variable {machine} {relation : State -> State -> Prop}

theorem Agreement.results_eq (agreement : machine.Agreement relation) {s t : State}
    (related : relation s t) (operations : List Operation) :
    machine.results s operations = machine.results t operations := by
  induction operations generalizing s t with
  | nil => rfl
  | cons operation rest inductionHypothesis =>
      have kept := agreement.perform related operation
      rw [results, results, after, after]
      cases first : machine.perform s operation with
      | none =>
          rw [first] at kept
          cases second : machine.perform t operation with
          | none => exact congrArg (none :: ·) (inductionHypothesis related)
          | some t' =>
              rw [second] at kept
              cases kept
      | some s' =>
          rw [first] at kept
          cases second : machine.perform t operation with
          | none =>
              rw [second] at kept
              cases kept
          | some t' =>
              rw [second] at kept
              cases kept with
              | some related' =>
                  have shown : some (machine.view s') = some (machine.view t') :=
                    congrArg some (agreement.view related')
                  exact congrArg₂ List.cons shown (inductionHypothesis related')

/-- Related states are indistinguishable. -/
theorem Agreement.indistinguishable (agreement : machine.Agreement relation) {s t : State}
    (related : relation s t) : machine.Indistinguishable s t :=
  fun operations => Prod.ext (agreement.view related) (agreement.results_eq related operations)

namespace Indistinguishable

variable {s t : State}

theorem symm (same : machine.Indistinguishable s t) : machine.Indistinguishable t s :=
  fun operations => (same operations).symm

theorem view_eq (same : machine.Indistinguishable s t) : machine.view s = machine.view t :=
  congrArg Prod.fst (same [])

/-- One operation is refused in both states or leads to indistinguishable ones. -/
theorem perform (same : machine.Indistinguishable s t) (operation : Operation) :
    Option.Rel machine.Indistinguishable (machine.perform s operation)
      (machine.perform t operation) := by
  have continued : forall rest,
      (machine.perform s operation).map machine.view =
          (machine.perform t operation).map machine.view ∧
        machine.results (machine.after s operation) rest =
          machine.results (machine.after t operation) rest := by
    intro rest
    have shown := congrArg Prod.snd (same (operation :: rest))
    exact List.cons.inj shown
  have views := (continued []).1
  unfold after at continued
  cases first : machine.perform s operation with
  | none =>
      rw [first] at views
      cases second : machine.perform t operation with
      | none => exact .none
      | some t' =>
          rw [second] at views
          cases views
  | some s' =>
      rw [first] at views continued
      cases second : machine.perform t operation with
      | none =>
          rw [second] at views
          cases views
      | some t' =>
          rw [second] at views continued
          refine .some fun rest => Prod.ext (Option.some.inj views) (continued rest).2

/-- An operation performed in one state is performed in the other. -/
theorem performed (same : machine.Indistinguishable s t) {operation : Operation} {s' : State}
    (done : machine.perform s operation = some s') :
    exists t', machine.perform t operation = some t' ∧ machine.Indistinguishable s' t' := by
  have kept := same.perform operation
  rw [done] at kept
  cases second : machine.perform t operation with
  | none =>
      rw [second] at kept
      cases kept
  | some t' =>
      rw [second] at kept
      cases kept with
      | some same' => exact ⟨t', rfl, same'⟩

end Indistinguishable

/-- If related states count up to a limit in step, and show the same key on
reaching it, then they agree on the counter and on the key from the start. -/
theorem eq_of_countdown {count key : State -> Int} {limit : Int}
    (bounded : forall {s t}, relation s t -> count s ≤ limit)
    (step : forall {s t}, relation s t ->
      (count s = limit ∧ count t = limit ∧ key s = key t) ∨
        exists s' t', relation s' t' ∧ count s' = count s + 1 ∧ count t' = count t + 1 ∧
          key s' = key s ∧ key t' = key t)
    {s t : State} (related : relation s t) : count s = count t ∧ key s = key t := by
  have left := bounded related
  obtain ⟨distance, remaining⟩ := Int.eq_ofNat_of_zero_le (Int.sub_nonneg_of_le left)
  induction distance generalizing s t with
  | zero =>
      rcases step related with ⟨first, second, same⟩ | ⟨s', t', related', counted, _⟩
      · exact ⟨first.trans second.symm, same⟩
      · have := bounded related'
        omega
  | succ distance inductionHypothesis =>
      rcases step related with ⟨first, second, same⟩ | ⟨s', t', related', counted, counted', keys⟩
      · exact ⟨first.trans second.symm, same⟩
      · rcases inductionHypothesis related' (bounded related') (by omega) with ⟨counts, same⟩
        exact ⟨by omega, keys.1.symm.trans (same.trans keys.2)⟩

end Machine

end Foundation
