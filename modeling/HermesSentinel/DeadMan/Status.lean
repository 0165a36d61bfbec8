import HermesSentinel.Foundation.Consecutive
import HermesSentinel.DeadMan.Vocabulary

namespace HermesSentinel
namespace DeadMan

open Python
open Foundation

/-!
# The dead-man snapshot and its constructor checks

`StatusFields` are the arguments of the source's `DeadManStatus`, and
`StatusFields.postInit` its `__post_init__`, check by check.  A `DeadManStatus`
is a set of fields that passed.

The checks are interleaved as the constructor happens to make them.  What they
establish together is `Admissible`, grouped by the part of the snapshot each
clause speaks about; `postInit_eq_ok` says that the two agree.  Every later
argument uses `Admissible` and never reopens the checks.
-/

structure StatusFields where
  state : DeadManState
  consecutiveFailures : Int := 0
  consecutiveSuccesses : Int := 0
  stateChangedAt : Option DateTime := none
  pendingNotifications : List DeadManNotification := []
  nextNotificationId : Int := 1
  currentDown : Option DeadManCurrentDown := none
  deriving DecidableEq

/-- The identities of a queue, oldest first. -/
def notificationIds (pending : List DeadManNotification) : List Int :=
  pending.map DeadManNotification.notificationId

/-- Run a check on every element of a queue. -/
def checkEach {α : Type} (check : α -> Fallible Unit) : List α -> Fallible Unit
  | [] => .ok ()
  | head :: tail => do
      check head
      checkEach check tail

namespace StatusFields

def checkStreaks (f : StatusFields) : Fallible Unit := do
  requireCounter "consecutive_failures" f.consecutiveFailures
  requireCounter "consecutive_successes" f.consecutiveSuccesses
  if f.state = .down then
    require (f.consecutiveFailures = 0) "consecutive_failures must be 0 when state is DOWN"
    require (f.consecutiveSuccesses < recoveryConfirmations)
      "consecutive_successes must be below 2 when state is DOWN"
  else
    require (f.consecutiveSuccesses = 0) "consecutive_successes must be 0 when state is not DOWN"
    require (f.consecutiveFailures < downConfirmations)
      "consecutive_failures must be below 3 when state is not DOWN"

/-- The loop over the queue with its `previous_id`. -/
def checkIncreasing : Option Int -> List DeadManNotification -> Fallible Unit
  | _, [] => .ok ()
  | previous, notification :: rest => do
      match previous with
      | none => .ok ()
      | some previousId =>
          require (previousId < notification.notificationId)
            "pending notification ids must be strictly increasing (oldest-first, no duplicates)"
      checkIncreasing (some notification.notificationId) rest

def checkContiguous (f : StatusFields) : Fallible Unit :=
  match f.pendingNotifications.head?, f.pendingNotifications.getLast? with
  | some head, some tail => do
      require (tail.notificationId = f.nextNotificationId - 1)
        "the newest pending notification id must equal the most recent allocation"
      require (head.notificationId =
          tail.notificationId - f.pendingNotifications.length + 1)
        "pending notification ids must be contiguous (no holes in the allocated-id suffix)"
  | _, _ => .ok ()

def checkKindGrammar (f : StatusFields) : Fallible Unit :=
  checkEach (fun notification => require (notification.kind ≠ .recovered)
    "a RECOVERED notification can only be the oldest pending intent") f.pendingNotifications.tail

def checkAnchor (f : StatusFields) : Fallible Unit :=
  match f.stateChangedAt with
  | some anchor => do
      require (anchor.isAware = true)
        "state_changed_at must be timezone-aware (tzinfo is not None and utcoffset() is not None)"
      checkEach (fun notification => require (notification.confirmedAt.instant ≤ anchor.instant)
        "pending notification id is dated after state_changed_at") f.pendingNotifications
  | none => require (f.state = .unknown) s!"state {f.state.value} requires its state_changed_at time anchor"

def checkUnknown (f : StatusFields) : Fallible Unit :=
  if f.state = .unknown then do
    require (f.stateChangedAt = none)
      "UNKNOWN is the canonical initial state and carries no state_changed_at anchor"
    require (f.pendingNotifications = [])
      "UNKNOWN can never carry a pending notification: no intent exists before the first transition"
    require (f.nextNotificationId = 1)
      "UNKNOWN is only the initial pre-baseline state: next_notification_id must be exactly 1"
  else
    .ok ()

/-- `anchor is None or tail.transition.at != anchor`, negated. -/
def datedAtAnchor (f : StatusFields) (tail : DeadManNotification) : Prop :=
  exists anchor, f.stateChangedAt = some anchor ∧ tail.confirmedAt.instant = anchor.instant

instance (f : StatusFields) (tail : DeadManNotification) : Decidable (f.datedAtAnchor tail) :=
  match same : f.stateChangedAt with
  | none => isFalse (by rintro ⟨anchor, impossible, _⟩; rw [same] at impossible; cases impossible)
  | some anchor =>
      decidable_of_iff (tail.confirmedAt.instant = anchor.instant)
        ⟨fun equal => ⟨anchor, same, equal⟩, by
          rintro ⟨other, found, equal⟩
          rw [same] at found
          cases found
          exact equal⟩

def checkCurrentDown (f : StatusFields) : Fallible Unit :=
  if f.state ≠ .down then
    require (f.currentDown = none) "current_down must be None when state is not DOWN"
  else
    match f.currentDown with
    | none => raise .valueError "DOWN requires the current outage's binding (current_down)"
    | some current => do
        require (current.notificationId = f.nextNotificationId - 1)
          "the current outage's DOWN notification id must be exactly the id the outage entry allocated"
        if current.acknowledged = true then
          require (f.pendingNotifications = [])
            "an acknowledged current-outage DOWN notification implies every older intent was acknowledged first"
        else
          match f.pendingNotifications.getLast? with
          | none =>
              raise .valueError
                "the unacknowledged current-outage DOWN notification must still be pending"
          | some tail => do
              require (tail.notificationId = current.notificationId)
                "the unacknowledged current-outage DOWN notification must be the pending tail"
              require (tail.kind = .down) "the current-outage bound notification must be of kind DOWN"
              require (f.datedAtAnchor tail)
                "the current-outage bound DOWN notification must be dated exactly at state_changed_at"

/-- `DeadManStatus.__post_init__`. -/
def postInit (f : StatusFields) : Fallible Unit := do
  f.checkStreaks
  checkIncreasing none f.pendingNotifications
  requireNotificationId "next_notification_id" f.nextNotificationId
  f.checkContiguous
  f.checkKindGrammar
  f.checkAnchor
  f.checkUnknown
  f.checkCurrentDown

end StatusFields

/-! ## What the checks establish -/

/-- The debounce counters rest below their thresholds, in the state they belong to. -/
def StreaksRest (f : StatusFields) : Prop :=
  if f.state = .down then
    f.consecutiveFailures = 0 ∧ 0 ≤ f.consecutiveSuccesses ∧
      f.consecutiveSuccesses < recoveryConfirmations
  else
    f.consecutiveSuccesses = 0 ∧ 0 ≤ f.consecutiveFailures ∧
      f.consecutiveFailures < downConfirmations

/-- Whatever is pending was created no later than the current state began. -/
def LedgerTimes (f : StatusFields) : Prop :=
  match f.stateChangedAt with
  | none => f.state = .unknown
  | some anchor => anchor.isAware = true ∧
      forall n, n ∈ f.pendingNotifications -> n.confirmedAt.instant ≤ anchor.instant

/-- The newest pending intent is the DOWN of the outage that began at the anchor. -/
def BoundTail (f : StatusFields) : Prop :=
  exists older tail, f.pendingNotifications = older ++ [tail] ∧ tail.kind = .down ∧
    f.datedAtAnchor tail

/-- Exactly the DOWN state is bound to an outage, by the last allocated id. -/
def OutageBinding (f : StatusFields) : Prop :=
  match f.currentDown with
  | none => f.state ≠ .down
  | some current => f.state = .down ∧ current.notificationId = f.nextNotificationId - 1 ∧
      (if current.acknowledged = true then f.pendingNotifications = [] else BoundTail f)

/-- The joint content of the constructor checks. -/
structure Admissible (f : StatusFields) : Prop where
  streaks : StreaksRest f
  ids : notificationIds f.pendingNotifications =
    consecutive (f.nextNotificationId - f.pendingNotifications.length) f.pendingNotifications.length
  nextPositive : 1 ≤ f.nextNotificationId
  grammar : forall n, n ∈ f.pendingNotifications.tail -> n.kind = .down
  times : LedgerTimes f
  unknownInitial : f.state = .unknown ->
    f.stateChangedAt = none ∧ f.pendingNotifications = [] ∧ f.nextNotificationId = 1
  binding : OutageBinding f

theorem checkEach_eq_ok {α : Type} {check : α -> Fallible Unit} {values : List α} :
    checkEach check values = .ok () ↔ forall value, value ∈ values -> check value = .ok () := by
  induction values with
  | nil => simp [checkEach]
  | cons head tail inductionHypothesis =>
      simp [checkEach, inductionHypothesis]

namespace StatusFields

theorem checkStreaks_eq_ok (f : StatusFields) : f.checkStreaks = .ok () ↔ StreaksRest f := by
  unfold checkStreaks StreaksRest requireCounter
  by_cases down : f.state = .down
  · simp only [if_pos down, check_bind_eq_ok, require_eq_ok]
    constructor
    · rintro ⟨_, nonneg, zero, below⟩
      exact ⟨zero, nonneg, below⟩
    · rintro ⟨zero, nonneg, below⟩
      exact ⟨by omega, nonneg, zero, below⟩
  · simp only [if_neg down, check_bind_eq_ok, require_eq_ok]
    constructor
    · rintro ⟨nonneg, _, zero, below⟩
      exact ⟨zero, nonneg, below⟩
    · rintro ⟨zero, nonneg, below⟩
      exact ⟨nonneg, by omega, zero, below⟩

theorem checkIncreasing_some_eq_ok (previous : Int) (pending : List DeadManNotification) :
    checkIncreasing (some previous) pending = .ok () ↔
      (previous :: notificationIds pending).Pairwise (· < ·) := by
  induction pending generalizing previous with
  | nil => simp [checkIncreasing, notificationIds]
  | cons head tail inductionHypothesis =>
      simp only [checkIncreasing, check_bind_eq_ok, require_eq_ok, inductionHypothesis,
        notificationIds, List.map_cons]
      constructor
      · rintro ⟨step, rest⟩
        refine List.Pairwise.cons ?_ rest
        intro id member
        rcases List.mem_cons.mp member with same | later
        · exact same ▸ step
        · have := (List.pairwise_cons.mp rest).1 id later
          omega
      · intro increasing
        have parts := List.pairwise_cons.mp increasing
        exact ⟨parts.1 _ List.mem_cons_self, parts.2⟩

theorem checkIncreasing_eq_ok (pending : List DeadManNotification) :
    checkIncreasing none pending = .ok () ↔ (notificationIds pending).Pairwise (· < ·) := by
  cases pending with
  | nil => simp [checkIncreasing, notificationIds]
  | cons head tail =>
      simp only [checkIncreasing, ok_bind, checkIncreasing_some_eq_ok, notificationIds,
        List.map_cons]

/-- Increasing, anchored at the allocator and as long as it spreads: together
the two id checks say that the queue is the block of ids below the allocator. -/
theorem checkIds_eq_ok (f : StatusFields) :
    (checkIncreasing none f.pendingNotifications = .ok () ∧ f.checkContiguous = .ok ()) ↔
      notificationIds f.pendingNotifications =
        consecutive (f.nextNotificationId - f.pendingNotifications.length)
          f.pendingNotifications.length := by
  rw [checkIncreasing_eq_ok]
  unfold checkContiguous
  cases shape : f.pendingNotifications with
  | nil => simp [notificationIds]
  | cons head tail =>
      have last : (head :: tail).getLast? = some ((head :: tail).getLast (by simp)) :=
        List.getLast?_eq_some_getLast (by simp)
      rw [List.head?_cons, last]
      simp only [check_bind_eq_ok, require_eq_ok, List.length_cons]
      generalize (head :: tail).getLast (by simp) = newest at last
      have lastId : (notificationIds (head :: tail)).getLast? = some newest.notificationId := by
        rw [notificationIds, List.getLast?_map, last]
        rfl
      constructor
      · rintro ⟨increasing, anchored, contiguous⟩
        rw [notificationIds, List.map_cons] at increasing lastId
        have tight : newest.notificationId =
            head.notificationId + (tail.map DeadManNotification.notificationId).length := by
          rw [List.length_map]
          omega
        have block := eq_consecutive increasing lastId tight
        rw [List.length_map] at block
        rw [show f.nextNotificationId - ((tail.length + 1 : Nat) : Int) = head.notificationId by omega]
        exact block
      · intro block
        rw [block, getLast?_consecutive] at lastId
        have newestId := Option.some.inj lastId
        have headId : head.notificationId = f.nextNotificationId - ((tail.length + 1 : Nat) : Int) :=
          (List.cons.inj block).1
        refine ⟨block ▸ consecutive_increasing _ _, ?_, ?_⟩ <;> omega

theorem checkKindGrammar_eq_ok (f : StatusFields) :
    f.checkKindGrammar = .ok () ↔
      forall n, n ∈ f.pendingNotifications.tail -> n.kind = .down := by
  unfold checkKindGrammar
  rw [checkEach_eq_ok]
  simp only [require_eq_ok]
  have kinds : forall kind : DeadManNotificationKind, kind ≠ .recovered ↔ kind = .down := by
    intro kind
    cases kind <;> decide
  simp only [kinds]

theorem checkAnchor_eq_ok (f : StatusFields) : f.checkAnchor = .ok () ↔ LedgerTimes f := by
  unfold checkAnchor LedgerTimes
  cases f.stateChangedAt with
  | none => simp only [require_eq_ok]
  | some anchor => simp [checkEach_eq_ok]

theorem checkUnknown_eq_ok (f : StatusFields) :
    f.checkUnknown = .ok () ↔ (f.state = .unknown ->
      f.stateChangedAt = none ∧ f.pendingNotifications = [] ∧ f.nextNotificationId = 1) := by
  unfold checkUnknown
  by_cases unknown : f.state = .unknown
  · simp [unknown]
  · simp [unknown]

/-- Given the block of ids, the binding checks say that the outage is bound. -/
theorem checkCurrentDown_eq_ok (f : StatusFields)
    (ids : notificationIds f.pendingNotifications =
      consecutive (f.nextNotificationId - f.pendingNotifications.length)
        f.pendingNotifications.length) :
    f.checkCurrentDown = .ok () ↔ OutageBinding f := by
  unfold checkCurrentDown OutageBinding
  cases f.currentDown with
  | none => by_cases down : f.state = .down <;> simp [down]
  | some current =>
      by_cases down : f.state = .down
      · rw [if_neg (not_not.mpr down)]
        simp only [check_bind_eq_ok, require_eq_ok]
        by_cases acknowledged : current.acknowledged = true
        · simp [down, acknowledged]
        · simp only [if_neg acknowledged, down, true_and]
          constructor
          · rintro ⟨anchored, found⟩
            refine ⟨anchored, ?_⟩
            cases last : f.pendingNotifications.getLast? with
            | none =>
                rw [last] at found
                exact absurd found (raise_ne_ok _ _ _)
            | some tail =>
                rw [last] at found
                simp only [check_bind_eq_ok, require_eq_ok] at found
                obtain ⟨_, kind, dated⟩ := found
                obtain ⟨older, shape⟩ := List.getLast?_eq_some_iff.mp last
                exact ⟨older, tail, shape, kind, dated⟩
          · rintro ⟨anchored, older, tail, shape, kind, dated⟩
            have tailId : tail.notificationId = current.notificationId := by
              have lastId := congrArg List.getLast? ids
              rw [shape, notificationIds, List.map_append, List.length_append] at lastId
              rw [List.map_singleton, List.length_singleton, getLast?_consecutive,
                List.getLast?_concat] at lastId
              have := Option.some.inj lastId
              omega
            have last : f.pendingNotifications.getLast? = some tail := by
              rw [shape, List.getLast?_concat]
            rw [last]
            simp only [check_bind_eq_ok, require_eq_ok]
            exact ⟨anchored, tailId, kind, dated⟩
      · simp [down]

/-- The constructor accepts exactly the admissible snapshots. -/
theorem postInit_eq_ok (f : StatusFields) : f.postInit = .ok () ↔ Admissible f := by
  simp only [postInit, check_bind_eq_ok, checkStreaks_eq_ok, checkKindGrammar_eq_ok, checkAnchor_eq_ok,
    checkUnknown_eq_ok, requireNotificationId, require_eq_ok]
  constructor
  · rintro ⟨streaks, increasing, next, contiguous, grammar, times, unknown, bound⟩
    have ids := (checkIds_eq_ok f).mp ⟨increasing, contiguous⟩
    exact ⟨streaks, ids, next, grammar, times, unknown, (checkCurrentDown_eq_ok f ids).mp bound⟩
  · intro admissible
    have idChecks := (checkIds_eq_ok f).mpr admissible.ids
    exact ⟨admissible.streaks, idChecks.1, admissible.nextPositive, idChecks.2,
      admissible.grammar, admissible.times, admissible.unknownInitial,
      (checkCurrentDown_eq_ok f admissible.ids).mpr admissible.binding⟩

end StatusFields

/-- A snapshot that passed its constructor. -/
structure DeadManStatus extends StatusFields where
  checked : toStatusFields.postInit = .ok ()

namespace DeadManStatus

theorem admissible (s : DeadManStatus) : Admissible s.toStatusFields :=
  (StatusFields.postInit_eq_ok _).mp s.checked

/-- The constructor call. -/
def make (f : StatusFields) : Fallible DeadManStatus :=
  match checked : f.postInit with
  | .ok () => .ok { toStatusFields := f, checked := checked }
  | .error e => .error e

theorem make_eq_ok {f : StatusFields} {s : DeadManStatus} :
    make f = .ok s ↔ s.toStatusFields = f := by
  unfold make
  constructor
  · intro made
    split at made
    · cases made
      rfl
    · cases made
  · rintro rfl
    split
    · rfl
    · rename_i e failed
      rw [s.checked] at failed
      cases failed

theorem make_ok {f : StatusFields} (admissible : Admissible f) :
    exists s, make f = .ok s ∧ s.toStatusFields = f :=
  ⟨⟨f, (StatusFields.postInit_eq_ok f).mpr admissible⟩, make_eq_ok.mpr rfl, rfl⟩

theorem admissible_initial : Admissible { state := .unknown } where
  streaks := by simp [StreaksRest, downConfirmations]
  ids := rfl
  nextPositive := by decide
  grammar := by simp
  times := by simp [LedgerTimes]
  unknownInitial := fun _ => ⟨rfl, rfl, rfl⟩
  binding := by simp [OutageBinding]

/-- `INITIAL_DEADMAN_STATUS`. -/
def initial : DeadManStatus where
  state := .unknown
  checked := (StatusFields.postInit_eq_ok _).mpr admissible_initial

end DeadManStatus

end DeadMan
end HermesSentinel
