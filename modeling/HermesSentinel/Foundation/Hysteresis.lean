import Mathlib.Data.List.DropRight
import Mathlib.Data.List.Induction
import Mathlib.Data.List.Infix

namespace Foundation

/-!
# Hysteresis

A latch watches a sequence of observations.  It trips after a number of
consecutive observations of one kind and is cleared after a number of
consecutive observations of another kind.  The machine of this module counts;
the specification looks back at the whole history instead.  `latched_run` says
that the counters are exactly what the history shows.

Histories are lists with the oldest observation first.
-/

variable {α : Type}

/-- The number of newest observations that qualify without a gap. -/
def trailingRun (qualifies : α -> Bool) (history : List α) : Nat :=
  (history.rtakeWhile qualifies).length

theorem trailingRun_concat (qualifies : α -> Bool) (history : List α) (newest : α) :
    trailingRun qualifies (history ++ [newest]) =
      if qualifies newest = true then trailingRun qualifies history + 1 else 0 := by
  unfold trailingRun
  rw [List.rtakeWhile_concat]
  split
  · rw [List.length_append, List.length_singleton]
  · rfl

/-- A run of at least `n` is a stretch of `n` qualifying observations at the end. -/
theorem le_trailingRun_iff (qualifies : α -> Bool) (history : List α) (n : Nat) :
    n ≤ trailingRun qualifies history ↔
      exists stretch, stretch <:+ history ∧ stretch.length = n ∧
        forall o, o ∈ stretch -> qualifies o = true := by
  induction history using List.reverseRecOn generalizing n with
  | nil =>
      constructor
      · intro fits
        exact ⟨[], List.suffix_refl [], (Nat.le_zero.mp fits).symm, by simp⟩
      · rintro ⟨stretch, suffix, length, _⟩
        rw [List.suffix_nil.mp suffix] at length
        exact Nat.le_of_eq length.symm
  | append_singleton earlier newest inductionHypothesis =>
      cases n with
      | zero =>
          constructor
          · intro _
            exact ⟨[], List.nil_suffix, rfl, by simp⟩
          · intro _
            exact Nat.zero_le _
      | succ n =>
          rw [trailingRun_concat]
          constructor
          · intro fits
            split at fits
            · rename_i qualified
              have shorter := Nat.le_of_succ_le_succ fits
              rcases (inductionHypothesis n).mp shorter with ⟨stretch, suffix, length, all⟩
              rcases suffix with ⟨before, rfl⟩
              refine ⟨stretch ++ [newest], ⟨before, (List.append_assoc _ _ _).symm⟩, ?_, ?_⟩
              · rw [List.length_append, length, List.length_singleton]
              · intro o member
                rcases List.mem_append.mp member with inside | isNewest
                · exact all o inside
                · rw [List.mem_singleton.mp isNewest]
                  exact qualified
            · exact absurd fits (Nat.not_succ_le_zero n)
          · rintro ⟨stretch, ending, length, all⟩
            rcases List.suffix_concat_iff.mp ending with empty | ⟨shorter, rfl, suffix⟩
            · rw [empty] at length
              exact absurd length (Nat.succ_ne_zero n).symm
            · have qualified := all newest (List.mem_append_right _ (List.mem_singleton_self _))
              rw [if_pos qualified]
              apply Nat.succ_le_succ
              apply (inductionHypothesis n).mpr
              refine ⟨shorter, suffix, ?_, fun o member => all o (List.mem_append_left _ member)⟩
              rw [List.length_append, List.length_singleton] at length
              exact Nat.succ.inj length

/-- A part of the history has no longer run than the whole. -/
theorem trailingRun_suffix (qualifies : α -> Bool) {recent history : List α}
    (suffix : recent <:+ history) :
    trailingRun qualifies recent ≤ trailingRun qualifies history := by
  rcases (le_trailingRun_iff qualifies recent _).mp (Nat.le_refl _) with
    ⟨stretch, inside, length, all⟩
  exact (le_trailingRun_iff qualifies history _).mpr ⟨stretch, inside.trans suffix, length, all⟩

/-- An observation that does not qualify cuts off everything before it. -/
theorem trailingRun_after (qualifies : α -> Bool) (earlier : List α) {cut : α}
    (disqualified : qualifies cut = false) (recent : List α) :
    trailingRun qualifies (earlier ++ cut :: recent) = trailingRun qualifies recent := by
  induction recent using List.reverseRecOn with
  | nil =>
      rw [trailingRun_concat, disqualified]
      rfl
  | append_singleton recent newest inductionHypothesis =>
      rw [<- List.cons_append, <- List.append_assoc, trailingRun_concat, trailingRun_concat,
        inductionHypothesis]

/-- Somewhere in the history `n` consecutive observations qualify. -/
def HasRun (qualifies : α -> Bool) (n : Nat) (history : List α) : Prop :=
  exists stretch, stretch <:+: history ∧ stretch.length = n ∧
    forall o, o ∈ stretch -> qualifies o = true

theorem not_hasRun_nil (qualifies : α -> Bool) {n : Nat} (positive : 0 < n) :
    ¬ HasRun qualifies n [] := by
  rintro ⟨stretch, inside, length, _⟩
  rw [List.infix_nil.mp inside] at length
  exact absurd length (Nat.ne_of_lt positive)

/-- A run either was there before or ends with the newest observation. -/
theorem hasRun_concat (qualifies : α -> Bool) (n : Nat) (history : List α) (newest : α) :
    HasRun qualifies n (history ++ [newest]) ↔
      HasRun qualifies n history ∨ n ≤ trailingRun qualifies (history ++ [newest]) := by
  rw [le_trailingRun_iff]
  constructor
  · rintro ⟨stretch, within, length, all⟩
    rcases List.infix_concat_iff.mp within with suffix | inside
    · exact .inr ⟨stretch, suffix, length, all⟩
    · exact .inl ⟨stretch, inside, length, all⟩
  · rintro (⟨stretch, inside, length, all⟩ | ⟨stretch, suffix, length, all⟩)
    · exact ⟨stretch, List.infix_concat_iff.mpr (.inr inside), length, all⟩
    · exact ⟨stretch, suffix.isInfix, length, all⟩

/-- What trips and what clears a latch, and how often in a row it takes. -/
structure Hysteresis (α : Type) where
  trips : α -> Bool
  clears : α -> Bool
  tripAfter : Nat
  clearAfter : Nat
  tripAfterPositive : 0 < tripAfter
  clearAfterPositive : 0 < clearAfter
  exclusive : forall o, trips o = true -> clears o = false

/-- The latch with its counter: towards tripping while it is released, towards
clearing while it is held. -/
inductive Latch
  | released (streak : Nat)
  | held (streak : Nat)
  deriving DecidableEq

namespace Hysteresis

variable (machine : Hysteresis α)

def step (latch : Latch) (o : α) : Latch :=
  match latch with
  | .released streak =>
      if machine.trips o = true then
        if machine.tripAfter ≤ streak + 1 then .held 0 else .released (streak + 1)
      else .released 0
  | .held streak =>
      if machine.clears o = true then
        if machine.clearAfter ≤ streak + 1 then .released 0 else .held (streak + 1)
      else .held 0

def run (history : List α) : Latch :=
  history.foldl machine.step (.released 0)

theorem run_concat (history : List α) (newest : α) :
    machine.run (history ++ [newest]) = machine.step (machine.run history) newest := by
  unfold run
  rw [List.foldl_append]
  rfl

/-- The machine that sees of every observation what `view` shows. -/
def comap {β : Type} (view : β -> α) : Hysteresis β where
  trips := fun o => machine.trips (view o)
  clears := fun o => machine.clears (view o)
  tripAfter := machine.tripAfter
  clearAfter := machine.clearAfter
  tripAfterPositive := machine.tripAfterPositive
  clearAfterPositive := machine.clearAfterPositive
  exclusive := fun o => machine.exclusive (view o)

theorem run_comap {β : Type} (view : β -> α) (history : List β) :
    (machine.comap view).run history = machine.run (history.map view) := by
  unfold run
  rw [List.foldl_map]
  rfl

/-! ## The specification -/

/-- The observations after the tripping stretch have not cleared the latch. -/
def Tripped (history : List α) : Prop :=
  exists earlier stretch recent, history = earlier ++ stretch ++ recent ∧
    stretch.length = machine.tripAfter ∧ (forall o, o ∈ stretch -> machine.trips o = true) ∧
    ¬ HasRun machine.clears machine.clearAfter recent

/-- The latch says what the history shows. -/
def Latched (history : List α) : Latch -> Prop
  | .released streak =>
      ¬ machine.Tripped history ∧ streak = trailingRun machine.trips history ∧
        streak < machine.tripAfter
  | .held streak =>
      machine.Tripped history ∧ streak = trailingRun machine.clears history ∧
        streak < machine.clearAfter

variable {machine}

/-- Long enough a run at the end trips the latch. -/
theorem tripped_of_trailingRun {history : List α}
    (enough : machine.tripAfter ≤ trailingRun machine.trips history) :
    machine.Tripped history := by
  rcases (le_trailingRun_iff machine.trips history _).mp enough with
    ⟨stretch, ⟨earlier, rfl⟩, length, all⟩
  exact ⟨earlier, stretch, [], (List.append_nil _).symm, length, all,
    not_hasRun_nil machine.clears machine.clearAfterPositive⟩

/-- A latch found tripped was tripped before or has just been tripped. -/
theorem tripped_concat {history : List α} {newest : α}
    (tripped : machine.Tripped (history ++ [newest])) :
    machine.Tripped history ∨
      machine.tripAfter ≤ trailingRun machine.trips (history ++ [newest]) := by
  rcases tripped with ⟨earlier, stretch, recent, shape, length, all, uncleared⟩
  induction recent using List.reverseRecOn with
  | nil =>
      right
      apply (le_trailingRun_iff machine.trips _ _).mpr
      exact ⟨stretch, ⟨earlier, by rw [shape, List.append_nil]⟩, length, all⟩
  | append_singleton recent last _ =>
      left
      rw [<- List.append_assoc] at shape
      have same := (List.append_inj' shape rfl).1
      refine ⟨earlier, stretch, recent, same, length, all, ?_⟩
      intro run
      apply uncleared
      exact (hasRun_concat machine.clears _ recent last).mpr (.inl run)

/-- A tripped latch stays tripped until the clearing run is complete. -/
theorem Tripped.concat {history : List α} {newest : α} (tripped : machine.Tripped history)
    (few : trailingRun machine.clears (history ++ [newest]) < machine.clearAfter) :
    machine.Tripped (history ++ [newest]) := by
  rcases tripped with ⟨earlier, stretch, recent, rfl, length, all, uncleared⟩
  refine ⟨earlier, stretch, recent ++ [newest], by rw [List.append_assoc], length, all, ?_⟩
  intro run
  rcases (hasRun_concat machine.clears _ recent newest).mp run with before | complete
  · exact uncleared before
  · have part : recent ++ [newest] <:+ earlier ++ stretch ++ recent ++ [newest] :=
      ⟨earlier ++ stretch, (List.append_assoc _ _ _).symm⟩
    have bound := trailingRun_suffix machine.clears part
    omega

/-- A complete clearing run releases the latch: no tripping stretch reaches into it. -/
theorem not_tripped_of_cleared {history : List α}
    (cleared : machine.clearAfter ≤ trailingRun machine.clears history) :
    ¬ machine.Tripped history := by
  rintro ⟨earlier, stretch, recent, rfl, length, all, uncleared⟩
  apply uncleared
  induction stretch using List.reverseRecOn with
  | nil => exact absurd length (Nat.ne_of_lt machine.tripAfterPositive)
  | append_singleton stretch last _ =>
      have trips := all last (List.mem_append_right _ (List.mem_singleton_self _))
      have shape : earlier ++ (stretch ++ [last]) ++ recent =
          (earlier ++ stretch) ++ last :: recent := by
        simp only [List.append_assoc, List.cons_append, List.nil_append]
      rw [shape, trailingRun_after machine.clears _ (machine.exclusive last trips)] at cleared
      rcases (le_trailingRun_iff machine.clears recent _).mp cleared with
        ⟨clearing, suffix, clearingLength, allClear⟩
      exact ⟨clearing, suffix.isInfix, clearingLength, allClear⟩

/-- One observation keeps the latch in step with the history. -/
theorem latched_step {history : List α} {latch : Latch} (latched : machine.Latched history latch)
    (newest : α) : machine.Latched (history ++ [newest]) (machine.step latch newest) := by
  cases latch with
  | released streak =>
      rcases latched with ⟨untripped, counted, below⟩
      have trailing := trailingRun_concat machine.trips history newest
      rw [<- counted] at trailing
      -- Tripping now takes the whole stretch at the end of the history.
      have staysReleased : trailingRun machine.trips (history ++ [newest]) < machine.tripAfter ->
          ¬ machine.Tripped (history ++ [newest]) := by
        intro short tripped
        rcases tripped_concat tripped with before | complete
        · exact untripped before
        · exact absurd complete (Nat.not_le_of_lt short)
      unfold step
      cases trips : machine.trips newest with
      | true =>
          rw [if_pos trips] at trailing
          simp only [if_true]
          split
          · rename_i reached
            refine ⟨tripped_of_trailingRun (trailing ▸ reached), ?_, machine.clearAfterPositive⟩
            rw [trailingRun_concat, machine.exclusive newest trips]
            rfl
          · rename_i short
            have short := Nat.lt_of_not_le short
            exact ⟨staysReleased (trailing ▸ short), trailing.symm, short⟩
      | false =>
          rw [trips, if_neg Bool.false_ne_true] at trailing
          simp only [if_neg Bool.false_ne_true]
          have positive := machine.tripAfterPositive
          exact ⟨staysReleased (trailing ▸ positive), trailing.symm, positive⟩
  | held streak =>
      rcases latched with ⟨tripped, counted, below⟩
      have trailing := trailingRun_concat machine.clears history newest
      rw [<- counted] at trailing
      unfold step
      cases clears : machine.clears newest with
      | true =>
          rw [if_pos clears] at trailing
          simp only [if_true]
          split
          · rename_i reached
            refine ⟨not_tripped_of_cleared (trailing ▸ reached), ?_, machine.tripAfterPositive⟩
            have untripping : machine.trips newest = false := by
              cases trips : machine.trips newest with
              | false => rfl
              | true =>
                  rw [machine.exclusive newest trips] at clears
                  exact absurd clears Bool.false_ne_true
            rw [trailingRun_concat, untripping]
            rfl
          · rename_i short
            have short := Nat.lt_of_not_le short
            exact ⟨tripped.concat (trailing ▸ short), trailing.symm, short⟩
      | false =>
          rw [clears, if_neg Bool.false_ne_true] at trailing
          simp only [if_neg Bool.false_ne_true]
          have positive := machine.clearAfterPositive
          exact ⟨tripped.concat (trailing ▸ positive), trailing.symm, positive⟩

/-- The counting machine agrees with the window specification on every history. -/
theorem latched_run (machine : Hysteresis α) (history : List α) :
    machine.Latched history (machine.run history) := by
  induction history using List.reverseRecOn with
  | nil =>
      refine ⟨?_, rfl, machine.tripAfterPositive⟩
      intro tripped
      rcases tripped with ⟨earlier, stretch, recent, shape, length, _⟩
      have empty := List.append_eq_nil_iff.mp (List.append_eq_nil_iff.mp shape.symm).1
      rw [empty.2] at length
      exact absurd length (Nat.ne_of_lt machine.tripAfterPositive)
  | append_singleton earlier newest inductionHypothesis =>
      rw [run_concat]
      exact latched_step inductionHypothesis newest

end Hysteresis

/-- The condition, a property of histories, was last established by the
observation right before `recent` and has held ever since. -/
def HoldsSince (holds : List α -> Prop) (history recent : List α) : Prop :=
  exists earlier entry, history = earlier ++ entry :: recent ∧ ¬ holds earlier ∧
    forall part, part <+: recent -> holds (earlier ++ entry :: part)

/-- A condition that does not hold at the outset was established some time. -/
theorem exists_holdsSince {holds : List α -> Prop} (outset : ¬ holds []) {history : List α}
    (now : holds history) : exists recent, HoldsSince holds history recent := by
  induction history using List.reverseRecOn with
  | nil => exact absurd now outset
  | append_singleton earlier newest inductionHypothesis =>
      by_cases before : holds earlier
      · rcases inductionHypothesis before with ⟨recent, start, entry, rfl, absent, since⟩
        refine ⟨recent ++ [newest], start, entry, by simp, absent, ?_⟩
        intro part inside
        rcases List.prefix_concat_iff.mp inside with whole | shorter
        · rw [whole]
          simpa using now
        · exact since part shorter
      · refine ⟨[], earlier, newest, rfl, before, ?_⟩
        intro part inside
        rw [List.prefix_nil.mp inside]
        exact now

/-- The observation that trips the latch belongs to no clearing run, so the
clearing run counts from there. -/
theorem Hysteresis.trailingRun_clears_since {machine : Hysteresis α} {history recent : List α}
    (since : HoldsSince machine.Tripped history recent) :
    trailingRun machine.clears history = trailingRun machine.clears recent := by
  rcases since with ⟨earlier, entry, rfl, before, after⟩
  have entered := after [] List.nil_prefix
  apply trailingRun_after
  apply machine.exclusive
  rcases tripped_concat entered with already | enough
  · exact absurd already before
  · have positive := machine.tripAfterPositive
    rw [trailingRun_concat] at enough
    split at enough
    · assumption
    · omega

end Foundation
