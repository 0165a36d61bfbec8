import HermesSentinel.DeadMan.Machine
import HermesSentinel.Foundation.Hysteresis

namespace HermesSentinel
namespace DeadMan

open Python
open Foundation

/-!
# The debounce as a property of the history

The dead-man counts its way through three states; its purpose is a window.  It
is DOWN when three failed probes in a row have not been followed by two healthy
ones in a row, UNKNOWN while nothing has been established, and UP otherwise.
The acknowledgements of the notification queue occur in none of this.
-/

/-- One probe, and the moment at which it is evaluated. -/
structure Probed where
  outcome : DeadManProbeOutcome
  now : DateTime
  aware : now.isAware = true

/-- The calls of a run: evaluations, and acknowledgements of the oldest intent. -/
inductive DebounceCall
  | evaluate (probed : Probed)
  | acknowledgeOldest

def DebounceCall.probed : DebounceCall -> Option Probed
  | .evaluate probed => some probed
  | .acknowledgeOldest => none

/-- An acknowledgement with nothing pending is no call. -/
def acknowledgeOldest (s : DeadManStatus) : Fallible DeadManStatus :=
  match s.pendingNotifications with
  | [] => .ok s
  | oldest :: _ => acknowledgeDeadmanNotification s oldest.notificationId

def debounce : DeadManStatus -> List DebounceCall -> Fallible DeadManStatus
  | s, [] => .ok s
  | s, .evaluate probed :: rest => do
      let advanced ← advanceDeadmanStatus s probed.outcome probed.now
      debounce advanced rest
  | s, .acknowledgeOldest :: rest => do
      let acknowledged ← acknowledgeOldest s
      debounce acknowledged rest

def Probed.Failed (p : Probed) : Prop :=
  p.outcome = .failed

def Probed.Healthy (p : Probed) : Prop :=
  p.outcome = .healthy

instance (p : Probed) : Decidable p.Failed :=
  inferInstanceAs (Decidable (_ = _))

instance (p : Probed) : Decidable p.Healthy :=
  inferInstanceAs (Decidable (_ = _))

/-- Three failures in a row, and since then never two healthy probes in a row. -/
def DownShown (history : List Probed) : Prop :=
  exists earlier window recent, history = earlier ++ window ++ recent ∧ window.length = 3 ∧
    (forall p, p ∈ window -> p.Failed) ∧
    ¬ exists stretch, stretch <:+: recent ∧ stretch.length = 2 ∧ forall p, p ∈ stretch -> p.Healthy

/-- Nothing is established yet. -/
def UnknownShown (history : List Probed) : Prop :=
  (forall p, p ∈ history -> ¬ p.Healthy) ∧ history.length < 3

/-- The state that the history shows. -/
def StateShown (history : List Probed) : DeadManState -> Prop
  | .down => DownShown history
  | .unknown => UnknownShown history
  | .up => ¬ DownShown history ∧ ¬ UnknownShown history

/-- The newest observation of a history changed the state. -/
def Changes (earlier : List Probed) (newest : Probed) : Prop :=
  exists before after, StateShown earlier before ∧ StateShown (earlier ++ [newest]) after ∧
    before ≠ after

/-- When the state changed last, if it ever did. -/
def ChangedAt (history : List Probed) : Option DateTime -> Prop
  | none => forall earlier newest, earlier ++ [newest] <+: history -> ¬ Changes earlier newest
  | some now => exists earlier newest recent, history = earlier ++ newest :: recent ∧
      newest.now = now ∧ Changes earlier newest ∧
      forall part later, part ++ [later] <+: recent -> ¬ Changes (earlier ++ newest :: part) later

/-- What the status after a history says. -/
structure WindowStatus (history : List Probed) (s : DeadManStatus) : Prop where
  down : s.state = .down ↔ DownShown history
  unknown : s.state = .unknown ↔ UnknownShown history
  noFailuresWhenDown : s.state = .down -> s.consecutiveFailures = 0
  failures : s.state ≠ .down ->
    s.consecutiveFailures = trailingRun (fun p => decide p.Failed) history
  noSuccessesUnlessDown : s.state ≠ .down -> s.consecutiveSuccesses = 0
  entered : s.state = .down -> exists recent, HoldsSince DownShown history recent
  successes : s.state = .down -> forall recent, HoldsSince DownShown history recent ->
    s.consecutiveSuccesses = trailingRun (fun p => decide p.Healthy) recent
  changedAt : ChangedAt history s.stateChangedAt

def debounceLatch : Hysteresis Probed where
  trips := fun p => decide p.Failed
  clears := fun p => decide p.Healthy
  tripAfter := 3
  clearAfter := 2
  tripAfterPositive := by decide
  clearAfterPositive := by decide
  exclusive := by
    intro p failed
    have failed : p.outcome = .failed := of_decide_eq_true failed
    apply decide_eq_false
    intro healthy
    rw [Probed.Healthy, failed] at healthy
    cases healthy

theorem tripped_iff_downShown (history : List Probed) :
    debounceLatch.Tripped history ↔ DownShown history := by
  simp only [Hysteresis.Tripped, HasRun, DownShown, debounceLatch, decide_eq_true_eq]

/-- The counter of a status as a latch. -/
def counter (f : StatusFields) : Latch :=
  if f.state = .down then .held f.consecutiveSuccesses.toNat
  else .released f.consecutiveFailures.toNat

theorem counter_of_down {f : StatusFields} (down : f.state = .down) :
    counter f = .held f.consecutiveSuccesses.toNat :=
  if_pos down

theorem counter_of_notDown {f : StatusFields} (notDown : f.state ≠ .down) :
    counter f = .released f.consecutiveFailures.toNat :=
  if_neg notDown

theorem counter_streaks_down {f : StatusFields} (down : f.state = .down) {failures successes : Int} :
    counter { f with consecutiveFailures := failures, consecutiveSuccesses := successes } =
      .held successes.toNat :=
  if_pos down

theorem counter_streaks_notDown {f : StatusFields} (notDown : f.state ≠ .down)
    {failures successes : Int} :
    counter { f with consecutiveFailures := failures, consecutiveSuccesses := successes } =
      .released failures.toNat :=
  if_neg notDown

theorem step_released_failed (streak : Nat) {p : Probed} (failed : p.outcome = .failed) :
    debounceLatch.step (.released streak) p =
      if 3 ≤ streak + 1 then .held 0 else .released (streak + 1) :=
  if_pos (decide_eq_true failed)

theorem step_released_healthy (streak : Nat) {p : Probed} (healthy : p.outcome = .healthy) :
    debounceLatch.step (.released streak) p = .released 0 := by
  have notFailed : ¬ p.outcome = .failed := by
    rw [healthy]
    decide
  exact if_neg (fun trips => notFailed (of_decide_eq_true trips))

theorem step_held_healthy (streak : Nat) {p : Probed} (healthy : p.outcome = .healthy) :
    debounceLatch.step (.held streak) p =
      if 2 ≤ streak + 1 then .released 0 else .held (streak + 1) :=
  if_pos (decide_eq_true healthy)

theorem step_held_failed (streak : Nat) {p : Probed} (failed : p.outcome = .failed) :
    debounceLatch.step (.held streak) p = .held 0 := by
  have notHealthy : ¬ p.outcome = .healthy := by
    rw [failed]
    decide
  exact if_neg (fun clears => notHealthy (of_decide_eq_true clears))

/-- The last of the successes in a row releases the latch. -/
theorem step_recovered {f : StatusFields} {p : Probed} (down : f.state = .down)
    (reached : ¬ f.consecutiveSuccesses + 1 < recoveryConfirmations) (seen : p.outcome = .healthy) :
    debounceLatch.step (counter f) p = .released 0 := by
  have complete : 2 ≤ f.consecutiveSuccesses.toNat + 1 := by
    unfold recoveryConfirmations at reached
    omega
  rw [counter_of_down down, step_held_healthy _ seen, if_pos complete]

/-- An evaluation moves the latch by its outcome. -/
theorem Advanced.counter_eq {f f' : StatusFields} {p : Probed} {outcome : DeadManProbeOutcome}
    (advanced : Advanced f p.now outcome f') (seen : p.outcome = outcome) (streaks : StreaksRest f) :
    counter f' = debounceLatch.step (counter f) p := by
  unfold StreaksRest at streaks
  cases advanced with
  | baseline unknown =>
      have notDown : f.state ≠ .down := by
        rw [unknown]
        decide
      rw [counter_of_notDown notDown, step_released_healthy _ seen]
      rfl
  | steady up =>
      have notDown : f.state ≠ .down := by
        rw [up]
        decide
      rw [counter_of_notDown notDown, step_released_healthy _ seen]
      exact counter_streaks_notDown notDown
  | recovering down below =>
      rw [if_pos down] at streaks
      rw [counter_of_down down, step_held_healthy _ seen]
      have short : ¬ 2 ≤ f.consecutiveSuccesses.toNat + 1 := by
        unfold recoveryConfirmations at below
        omega
      rw [if_neg short, counter_streaks_down down]
      exact congrArg Latch.held (Int.toNat_add streaks.2.1 (by decide))
  | recoveredSilently down reached _ _ _ =>
      exact (step_recovered down reached seen).symm
  | recoveredAnnounced down reached _ _ _ _ _ =>
      exact (step_recovered down reached seen).symm
  | held down =>
      rw [counter_of_down down, step_held_failed _ seen]
      exact counter_streaks_down down
  | suspecting notDown below =>
      rw [if_neg notDown] at streaks
      rw [counter_of_notDown notDown, step_released_failed _ seen]
      have short : ¬ 3 ≤ f.consecutiveFailures.toNat + 1 := by
        unfold downConfirmations at below
        omega
      rw [if_neg short, counter_streaks_notDown notDown]
      exact congrArg Latch.released (Int.toNat_add streaks.2.1 (by decide))
  | confirmed notDown reached _ _ _ _ _ =>
      rw [if_neg notDown] at streaks
      rw [counter_of_notDown notDown, step_released_failed _ seen]
      have complete : 3 ≤ f.consecutiveFailures.toNat + 1 := by
        unfold downConfirmations at reached
        omega
      rw [if_pos complete]
      rfl

/-- An evaluation dates the anchor when it changes the state, and only then. -/
theorem Advanced.anchor {f f' : StatusFields} {now : DateTime} {outcome : DeadManProbeOutcome}
    (advanced : Advanced f now outcome f') :
    (f'.state = f.state ∧ f'.stateChangedAt = f.stateChangedAt) ∨
      (f'.state ≠ f.state ∧ f'.stateChangedAt = some now) := by
  cases advanced with
  | baseline unknown =>
      right
      rw [unknown]
      exact ⟨DeadManState.noConfusion, rfl⟩
  | steady _ => exact .inl ⟨rfl, rfl⟩
  | recovering _ _ => exact .inl ⟨rfl, rfl⟩
  | recoveredSilently down _ _ _ _ =>
      right
      rw [down]
      exact ⟨DeadManState.noConfusion, rfl⟩
  | recoveredAnnounced down _ _ _ _ _ _ =>
      right
      rw [down]
      exact ⟨DeadManState.noConfusion, rfl⟩
  | held _ => exact .inl ⟨rfl, rfl⟩
  | suspecting _ _ => exact .inl ⟨rfl, rfl⟩
  | confirmed notDown _ _ _ _ _ _ => exact .inr ⟨notDown.symm, rfl⟩

/-- An evaluation leaves UNKNOWN on a healthy probe or on the third failure. -/
theorem Advanced.unknown_iff {f f' : StatusFields} {now : DateTime} {outcome : DeadManProbeOutcome}
    (advanced : Advanced f now outcome f') :
    f'.state = .unknown ↔
      f.state = .unknown ∧ outcome = .failed ∧ f.consecutiveFailures + 1 < downConfirmations := by
  have never {P : Prop} (apart : P -> False) : DeadManState.up = .unknown ↔ P :=
    ⟨fun impossible => DeadManState.noConfusion impossible, fun holds => (apart holds).elim⟩
  have neverDown {P : Prop} (apart : P -> False) : DeadManState.down = .unknown ↔ P :=
    ⟨fun impossible => DeadManState.noConfusion impossible, fun holds => (apart holds).elim⟩
  cases advanced with
  | baseline _ => exact never fun holds => DeadManProbeOutcome.noConfusion holds.2.1
  | steady up =>
      show f.state = .unknown ↔ _
      rw [up]
      exact never fun holds => DeadManState.noConfusion holds.1
  | recovering down _ =>
      show f.state = .unknown ↔ _
      rw [down]
      exact neverDown fun holds => DeadManState.noConfusion holds.1
  | recoveredSilently _ _ _ _ _ => exact never fun holds => DeadManProbeOutcome.noConfusion holds.2.1
  | recoveredAnnounced _ _ _ _ _ _ _ =>
      exact never fun holds => DeadManProbeOutcome.noConfusion holds.2.1
  | held down =>
      show f.state = .unknown ↔ _
      rw [down]
      exact neverDown fun holds => DeadManState.noConfusion holds.1
  | suspecting _ below => exact ⟨fun unknown => ⟨unknown, rfl, below⟩, fun holds => holds.1⟩
  | confirmed _ reached _ _ _ _ _ => exact neverDown fun holds => reached holds.2.2

/-! ## What is shown -/

theorem not_downShown_of_unknownShown {history : List Probed} (unknown : UnknownShown history) :
    ¬ DownShown history := by
  rintro ⟨earlier, window, recent, rfl, length, _⟩
  have short := unknown.2
  rw [List.length_append, List.length_append, length] at short
  omega

/-- A history shows one state. -/
theorem StateShown.unique {history : List Probed} {first second : DeadManState}
    (shown : StateShown history first) (alsoShown : StateShown history second) : first = second := by
  cases first with
  | unknown =>
      cases second with
      | unknown => rfl
      | up => exact absurd shown alsoShown.2
      | down => exact absurd alsoShown (not_downShown_of_unknownShown shown)
  | up =>
      cases second with
      | unknown => exact absurd alsoShown shown.2
      | up => rfl
      | down => exact absurd alsoShown shown.1
  | down =>
      cases second with
      | unknown => exact absurd shown (not_downShown_of_unknownShown alsoShown)
      | up => exact absurd shown alsoShown.1
      | down => rfl

theorem changes_iff {earlier : List Probed} {newest : Probed} {before after : DeadManState}
    (shownBefore : StateShown earlier before) (shownAfter : StateShown (earlier ++ [newest]) after) :
    Changes earlier newest ↔ after ≠ before := by
  constructor
  · rintro ⟨first, second, isFirst, isSecond, different⟩ same
    rw [isFirst.unique shownBefore, isSecond.unique shownAfter] at different
    exact different same.symm
  · intro different
    exact ⟨before, after, shownBefore, shownAfter, different.symm⟩

theorem ChangedAt.concat {history : List Probed} {newest : Probed} {anchor : Option DateTime}
    (changedAt : ChangedAt history anchor) (quiet : ¬ Changes history newest) :
    ChangedAt (history ++ [newest]) anchor := by
  cases anchor with
  | none =>
      intro earlier last inside
      rcases List.prefix_concat_iff.mp inside with whole | shorter
      · rcases List.append_inj' whole rfl with ⟨rfl, single⟩
        cases single
        exact quiet
      · exact changedAt earlier last shorter
  | some now =>
      rcases changedAt with ⟨earlier, entry, recent, rfl, dated, changed, since⟩
      refine ⟨earlier, entry, recent ++ [newest], by rw [List.append_assoc, List.cons_append], dated,
        changed, ?_⟩
      intro part later inside
      rcases List.prefix_concat_iff.mp inside with whole | shorter
      · rcases List.append_inj' whole rfl with ⟨rfl, single⟩
        cases single
        exact quiet
      · exact since part later shorter

theorem changedAt_newest {history : List Probed} {newest : Probed} (changed : Changes history newest) :
    ChangedAt (history ++ [newest]) (some newest.now) := by
  refine ⟨history, newest, [], rfl, rfl, changed, ?_⟩
  intro part later impossible
  exact absurd (List.prefix_nil.mp impossible) (List.append_ne_nil_of_right_ne_nil part (List.cons_ne_nil later []))

/-! ## The run -/

/-- The state and the counters of a status are those of a history. -/
structure Counted (history : List Probed) (s : DeadManStatus) : Prop where
  counted : counter s.toStatusFields = debounceLatch.run history
  unknown : s.state = .unknown ↔ UnknownShown history

/-- What the evaluations of a history leave in a status. -/
structure Tracks (history : List Probed) (s : DeadManStatus) : Prop extends Counted history s where
  changedAt : ChangedAt history s.stateChangedAt
  dated : forall anchor, s.stateChangedAt = some anchor -> exists p, p ∈ history ∧ p.now = anchor

theorem tracks_initial : Tracks [] DeadManStatus.initial where
  counted := rfl
  unknown := ⟨fun _ => ⟨by simp, by decide⟩, fun _ => rfl⟩
  changedAt := by
    intro earlier newest inside
    exact absurd (List.prefix_nil.mp inside)
      (List.append_ne_nil_of_right_ne_nil earlier (List.cons_ne_nil newest []))
  dated := by
    intro anchor impossible
    cases impossible

namespace Counted

variable {history : List Probed} {s : DeadManStatus} (tracks : Counted history s)

include tracks

theorem of_down (down : s.state = .down) : DownShown history ∧
    s.consecutiveSuccesses = trailingRun (fun p => decide p.Healthy) history := by
  have latched := Hysteresis.latched_run debounceLatch history
  rw [<- tracks.counted, counter_of_down down] at latched
  have nonneg := s.admissible.streaks
  rw [StreaksRest, if_pos down] at nonneg
  refine ⟨(tripped_iff_downShown history).mp latched.1, ?_⟩
  rw [<- Int.toNat_of_nonneg nonneg.2.1, latched.2.1]
  rfl

theorem of_notDown (notDown : s.state ≠ .down) : ¬ DownShown history ∧
    s.consecutiveFailures = trailingRun (fun p => decide p.Failed) history := by
  have latched := Hysteresis.latched_run debounceLatch history
  rw [<- tracks.counted, counter_of_notDown notDown] at latched
  have nonneg := s.admissible.streaks
  rw [StreaksRest, if_neg notDown] at nonneg
  refine ⟨fun shown => latched.1 ((tripped_iff_downShown history).mpr shown), ?_⟩
  rw [<- Int.toNat_of_nonneg nonneg.2.1, latched.2.1]
  rfl

theorem down_iff : s.state = .down ↔ DownShown history := by
  constructor
  · intro down
    exact (tracks.of_down down).1
  · intro shown
    by_contra notDown
    exact (tracks.of_notDown notDown).1 shown

theorem stateShown : StateShown history s.state := by
  cases state : s.state with
  | unknown => exact tracks.unknown.mp state
  | up =>
      constructor
      · intro down
        rw [tracks.down_iff.mpr down] at state
        cases state
      · intro unknown
        rw [tracks.unknown.mpr unknown] at state
        cases state
  | down => exact tracks.down_iff.mp state

end Counted

theorem trailingRun_failed_of_unknownShown {history : List Probed} (unknown : UnknownShown history) :
    trailingRun (fun p => decide p.Failed) history = history.length := by
  apply congrArg List.length
  apply List.rtakeWhile_eq_self_iff.mpr
  intro p member
  apply decide_eq_true
  cases outcome : p.outcome with
  | healthy => exact absurd outcome (unknown.1 p member)
  | failed => exact outcome

theorem unknownShown_concat (history : List Probed) (p : Probed) :
    UnknownShown (history ++ [p]) ↔
      UnknownShown history ∧ p.outcome = .failed ∧ history.length + 1 < 3 := by
  have notHealthy : ¬ p.Healthy ↔ p.outcome = .failed := by
    unfold Probed.Healthy
    cases p.outcome with
    | healthy => simp
    | failed => simp
  unfold UnknownShown
  rw [List.length_append, List.length_singleton, <- notHealthy]
  constructor
  · rintro ⟨none, short⟩
    exact ⟨⟨fun q member => none q (List.mem_append_left _ member), by omega⟩,
      none p (List.mem_append_right _ List.mem_cons_self), short⟩
  · rintro ⟨⟨none, _⟩, unhealthy, short⟩
    refine ⟨?_, short⟩
    intro q member
    rcases List.mem_append.mp member with earlier | newest
    · exact none q earlier
    · rw [List.mem_singleton.mp newest]
      exact unhealthy

section Steps

variable {history : List Probed} {s s' : DeadManStatus}

theorem Counted.evaluate {p : Probed} (tracks : Counted history s)
    (advanced : advanceDeadmanStatus s p.outcome p.now = .ok s') : Counted (history ++ [p]) s' := by
  have effect := (advance_cases advanced).2.2
  constructor
  case counted =>
    rw [Hysteresis.run_concat, <- tracks.counted]
    exact effect.counter_eq rfl s.admissible.streaks
  case unknown =>
    rw [effect.unknown_iff, unknownShown_concat, tracks.unknown]
    have length : UnknownShown history -> s.consecutiveFailures = history.length := by
      intro unknown
      have notDown : s.state ≠ .down := by
        rw [tracks.unknown.mpr unknown]
        decide
      rw [(tracks.of_notDown notDown).2, trailingRun_failed_of_unknownShown unknown]
    unfold downConfirmations
    constructor
    · rintro ⟨unknown, failed, below⟩
      rw [length unknown] at below
      exact ⟨unknown, failed, by omega⟩
    · rintro ⟨unknown, failed, below⟩
      rw [length unknown]
      exact ⟨unknown, failed, by omega⟩

/-- An evaluation carries the account on. -/
theorem Tracks.evaluate {p : Probed} (tracks : Tracks history s)
    (advanced : advanceDeadmanStatus s p.outcome p.now = .ok s') : Tracks (history ++ [p]) s' := by
  have after := tracks.toCounted.evaluate advanced
  have changes : Changes history p ↔ s'.state ≠ s.state := changes_iff tracks.stateShown after.stateShown
  refine { after with changedAt := ?_, dated := ?_ }
  · rcases (advance_cases advanced).2.2.anchor with ⟨same, anchor⟩ | ⟨different, anchor⟩
    · rw [anchor]
      exact tracks.changedAt.concat fun changed => changes.mp changed same
    · rw [anchor]
      exact changedAt_newest (changes.mpr different)
  · intro anchor found
    rcases (advance_cases advanced).2.2.anchor with ⟨_, kept⟩ | ⟨_, now⟩
    · rw [kept] at found
      rcases tracks.dated anchor found with ⟨q, member, dated⟩
      exact ⟨q, List.mem_append_left _ member, dated⟩
    · rw [now] at found
      exact ⟨p, List.mem_append_right _ List.mem_cons_self, Option.some.inj found⟩

/-- An acknowledgement concerns the queue alone. -/
theorem acknowledge_keeps {id : Int} (acknowledged : acknowledgeDeadmanNotification s id = .ok s') :
    s'.state = s.state ∧ s'.consecutiveFailures = s.consecutiveFailures ∧
      s'.consecutiveSuccesses = s.consecutiveSuccesses ∧ s'.stateChangedAt = s.stateChangedAt := by
  rcases acknowledge_cases acknowledged with ⟨head, rest, _, _, fields⟩
  rw [fields]
  exact ⟨rfl, rfl, rfl, rfl⟩

theorem Tracks.acknowledge {id : Int} (tracks : Tracks history s)
    (acknowledged : acknowledgeDeadmanNotification s id = .ok s') : Tracks history s' := by
  rcases acknowledge_keeps acknowledged with ⟨state, failures, successes, anchor⟩
  constructor
  case toCounted =>
    refine ⟨?_, by rw [state]; exact tracks.unknown⟩
    rw [<- tracks.counted, counter, counter, state, failures, successes]
  case changedAt =>
    rw [anchor]
    exact tracks.changedAt
  case dated =>
    rw [anchor]
    exact tracks.dated

end Steps

/-- The evaluations of a run, oldest first. -/
def observations (calls : List DebounceCall) : List Probed :=
  calls.filterMap DebounceCall.probed

/-- The clock never runs backwards. -/
def Ordered (history : List Probed) : Prop :=
  history.Pairwise fun earlier later => earlier.now.instant ≤ later.now.instant

instance (history : List Probed) : Decidable (Ordered history) :=
  inferInstanceAs (Decidable (List.Pairwise _ _))

theorem notBefore_of_ordered {history : List Probed} {s : DeadManStatus} (tracks : Tracks history s)
    {p : Probed} {later : List Probed} (ordered : Ordered (history ++ p :: later)) :
    NotBefore s.stateChangedAt p.now := by
  cases anchor : s.stateChangedAt with
  | none => trivial
  | some moment =>
      rcases tracks.dated moment anchor with ⟨q, member, rfl⟩
      exact (List.pairwise_append.mp ordered).2.2 q member p List.mem_cons_self

/-- Every run of evaluations in order is accounted for by its outcomes. -/
theorem debounce_tracks (calls : List DebounceCall) {history : List Probed} {s : DeadManStatus}
    (tracks : Tracks history s) (ordered : Ordered (history ++ observations calls)) :
    exists s', debounce s calls = .ok s' ∧ Tracks (history ++ observations calls) s' := by
  induction calls generalizing history s with
  | nil =>
      refine ⟨s, rfl, ?_⟩
      rw [observations, List.filterMap_nil, List.append_nil]
      exact tracks
  | cons call rest inductionHypothesis =>
      cases call with
      | evaluate p =>
          have extended : history ++ observations (.evaluate p :: rest) =
              (history ++ [p]) ++ observations rest := by
            rw [List.append_assoc]
            rfl
          rcases advance_total s p.outcome p.aware (notBefore_of_ordered tracks ordered) with
            ⟨next, advanced⟩
          rw [extended] at ordered ⊢
          rcases inductionHypothesis (tracks.evaluate advanced) ordered with ⟨s', done, arrived⟩
          exact ⟨s', bind_eq_ok.mpr ⟨next, advanced, done⟩, arrived⟩
      | acknowledgeOldest =>
          have acknowledged : exists next, acknowledgeOldest s = .ok next ∧ Tracks history next := by
            unfold acknowledgeOldest
            cases shape : s.pendingNotifications with
            | nil => exact ⟨s, rfl, tracks⟩
            | cons oldest others =>
                rcases acknowledge_head s shape with ⟨next, accepted, _⟩
                exact ⟨next, accepted, tracks.acknowledge accepted⟩
          rcases acknowledged with ⟨next, accepted, kept⟩
          rcases inductionHypothesis kept ordered with ⟨s', done, arrived⟩
          exact ⟨s', bind_eq_ok.mpr ⟨next, accepted, done⟩, arrived⟩

/-- DOWN is counted from the observation that entered it. -/
theorem Tracks.windowStatus {history : List Probed} {s : DeadManStatus} (tracks : Tracks history s) :
    WindowStatus history s := by
  have streaks := s.admissible.streaks
  have outset : ¬ DownShown [] := not_downShown_of_unknownShown ⟨by simp, by decide⟩
  have same : DownShown = debounceLatch.Tripped := by
    funext history
    exact propext (tripped_iff_downShown history).symm
  constructor
  case down => exact tracks.down_iff
  case unknown => exact tracks.unknown
  case noFailuresWhenDown =>
    intro down
    rw [StreaksRest, if_pos down] at streaks
    exact streaks.1
  case failures =>
    intro notDown
    exact (tracks.of_notDown notDown).2
  case noSuccessesUnlessDown =>
    intro notDown
    rw [StreaksRest, if_neg notDown] at streaks
    exact streaks.1
  case entered =>
    intro down
    exact exists_holdsSince outset (tracks.down_iff.mp down)
  case successes =>
    intro down recent since
    rw [(tracks.of_down down).2]
    rw [same] at since
    have counted := Hysteresis.trailingRun_clears_since since
    exact congrArg Nat.cast counted
  case changedAt => exact tracks.changedAt

/-- After every run in order the dead-man has arrived at what its windows show,
and no acknowledgement moves it. -/
theorem debounce_windows (calls : List DebounceCall) (ordered : Ordered (observations calls)) :
    exists s, debounce DeadManStatus.initial calls = .ok s ∧ WindowStatus (observations calls) s ∧
      forall id s', acknowledgeDeadmanNotification s id = .ok s' ->
        s'.state = s.state ∧ s'.consecutiveFailures = s.consecutiveFailures ∧
          s'.consecutiveSuccesses = s.consecutiveSuccesses ∧
          s'.stateChangedAt = s.stateChangedAt := by
  rcases debounce_tracks calls tracks_initial ordered with ⟨s, done, tracks⟩
  exact ⟨s, done, tracks.windowStatus, fun _ _ => acknowledge_keeps⟩

/-- A failed probe at a moment of the first day. -/
def failedAt (second : Fin 86400) : Probed where
  outcome := .failed
  now := DateTime.utc ⟨second.val * 1000000, Nat.lt_of_lt_of_le
    (Nat.mul_lt_mul_of_pos_right second.isLt (by decide)) (by decide)⟩
  aware := rfl

theorem debounce_windows_firstOutage :
    exists s, debounce DeadManStatus.initial [.evaluate (failedAt 0), .evaluate (failedAt 60),
        .evaluate (failedAt 120), .acknowledgeOldest, .evaluate (failedAt 180)] = .ok s ∧
      s.state = .down := by
  rcases debounce_windows [.evaluate (failedAt 0), .evaluate (failedAt 60),
      .evaluate (failedAt 120), .acknowledgeOldest, .evaluate (failedAt 180)] (by decide) with
    ⟨s, done, window, _⟩
  refine ⟨s, done, window.down.mpr ⟨[], [failedAt 0, failedAt 60, failedAt 120], [failedAt 180],
    rfl, rfl, ?_, ?_⟩⟩
  · simp [Probed.Failed, failedAt]
  · rintro ⟨stretch, inside, length, _⟩
    have short := inside.length_le
    rw [length] at short
    exact absurd short (by decide)

end DeadMan
end HermesSentinel
