import HermesSentinel.DeadMan.Status

namespace HermesSentinel
namespace DeadMan

open Python
open Foundation

/-!
# The dead-man state machine

`advanceDeadmanStatus` and `acknowledgeDeadmanNotification` build their result
through the validating constructor, as the source does, so each of them could
in principle raise on a snapshot it was given.

`Advanced` lists once what an evaluation can do, one constructor for each
branch.  That every branch preserves `Admissible` is the inductive invariant of
the snapshot, and with it the constructor checks are seen never to fire.
-/

def advanceSuccess (status : DeadManStatus) (now : DateTime) : Fallible DeadManStatus :=
  match status.state with
  | .unknown =>
      -- First evidence of liveness: the UP baseline is silent.
      DeadManStatus.make { status.toStatusFields with
        state := .up
        consecutiveFailures := 0
        consecutiveSuccesses := 0
        stateChangedAt := some now }
  | .up =>
      DeadManStatus.make { status.toStatusFields with consecutiveFailures := 0, consecutiveSuccesses := 0 }
  | .down =>
      let successes := status.consecutiveSuccesses + 1
      if successes < recoveryConfirmations then
        DeadManStatus.make { status.toStatusFields with
          consecutiveFailures := 0
          consecutiveSuccesses := successes }
      else
        match status.currentDown with
        | none => raise .assertionError ""
        | some current =>
            if current.acknowledged = false then
              -- The operator never heard of this outage: its DOWN stays, no RECOVERED.
              DeadManStatus.make {
                state := .up
                consecutiveFailures := 0
                consecutiveSuccesses := 0
                stateChangedAt := some now
                pendingNotifications := status.pendingNotifications
                nextNotificationId := status.nextNotificationId }
            else do
              let transition ← DeadManTransition.make .down .up now
              let recovered ← DeadManNotification.make status.nextNotificationId .recovered transition
              DeadManStatus.make {
                state := .up
                consecutiveFailures := 0
                consecutiveSuccesses := 0
                stateChangedAt := some now
                pendingNotifications := status.pendingNotifications ++ [recovered]
                nextNotificationId := status.nextNotificationId + 1 }

def advanceFailure (status : DeadManStatus) (now : DateTime) : Fallible DeadManStatus :=
  if status.state = .down then
    DeadManStatus.make { status.toStatusFields with consecutiveFailures := 0, consecutiveSuccesses := 0 }
  else
    let failures := status.consecutiveFailures + 1
    if failures < downConfirmations then
      DeadManStatus.make { status.toStatusFields with
        consecutiveFailures := failures
        consecutiveSuccesses := 0 }
    else do
      let transition ← DeadManTransition.make status.state .down now
      let intent ← DeadManNotification.make status.nextNotificationId .down transition
      let current ← DeadManCurrentDown.make status.nextNotificationId false
      DeadManStatus.make {
        state := .down
        consecutiveFailures := 0
        consecutiveSuccesses := 0
        stateChangedAt := some now
        pendingNotifications := status.pendingNotifications ++ [intent]
        nextNotificationId := status.nextNotificationId + 1
        currentDown := some current }

/-- The evaluation moment does not lie before the anchor of the state. -/
def NotBefore (anchor : Option DateTime) (now : DateTime) : Prop :=
  match anchor with
  | none => True
  | some anchor => anchor.instant ≤ now.instant

instance (anchor : Option DateTime) (now : DateTime) : Decidable (NotBefore anchor now) := by
  unfold NotBefore
  cases anchor <;> infer_instance

def advanceDeadmanStatus (status : DeadManStatus) (outcome : DeadManProbeOutcome)
    (now : DateTime) : Fallible DeadManStatus := do
  require (now.isAware = true)
    "now must be timezone-aware (tzinfo is not None and utcoffset() is not None)"
  require (NotBefore status.stateChangedAt now)
    "now must not be before state_changed_at: inconsistent clock evidence fails closed"
  match outcome with
  | .healthy => advanceSuccess status now
  | .failed => advanceFailure status now

/-- The binding after an acknowledgement: marked when its own id was acknowledged. -/
def markAcknowledged (current : Option DeadManCurrentDown) (notificationId : Int) :
    Fallible (Option DeadManCurrentDown) :=
  match current with
  | none => .ok none
  | some current =>
      if current.notificationId = notificationId then do
        let marked ← DeadManCurrentDown.make current.notificationId true
        .ok (some marked)
      else
        .ok (some current)

def acknowledgeDeadmanNotification (status : DeadManStatus) (notificationId : Int) :
    Fallible DeadManStatus := do
  requireNotificationId "notification_id" notificationId
  match status.pendingNotifications with
  | [] => raise .valueError "no pending notification to acknowledge"
  | head :: rest =>
      require (notificationId = head.notificationId)
        "notification_id does not identify the oldest pending notification: acknowledgement is oldest-first and never removes a different intent"
      let marked ← markAcknowledged status.currentDown notificationId
      DeadManStatus.make { status.toStatusFields with pendingNotifications := rest, currentDown := marked }

/-- An intent freshly allocated for a transition confirmed now. -/
structure Allocated (f : StatusFields) (now : DateTime) (kind : DeadManNotificationKind)
    (intent : DeadManNotification) : Prop where
  id : intent.notificationId = f.nextNotificationId
  kind : intent.kind = kind
  confirmedAt : intent.confirmedAt = now
  fromState : intent.transition.fromState = f.state

/-- The branches of an evaluation at `now`, with their guards and results. -/
inductive Advanced (f : StatusFields) (now : DateTime) : DeadManProbeOutcome -> StatusFields -> Prop
  | baseline (unknown : f.state = .unknown) :
      Advanced f now .healthy { f with
        state := .up, consecutiveFailures := 0, consecutiveSuccesses := 0,
        stateChangedAt := some now }
  | steady (up : f.state = .up) :
      Advanced f now .healthy { f with consecutiveFailures := 0, consecutiveSuccesses := 0 }
  | recovering (down : f.state = .down)
      (below : f.consecutiveSuccesses + 1 < recoveryConfirmations) :
      Advanced f now .healthy { f with
        consecutiveFailures := 0, consecutiveSuccesses := f.consecutiveSuccesses + 1 }
  | recoveredSilently (down : f.state = .down)
      (reached : ¬ f.consecutiveSuccesses + 1 < recoveryConfirmations)
      (current : DeadManCurrentDown) (bound : f.currentDown = some current)
      (unacknowledged : current.acknowledged = false) :
      Advanced f now .healthy {
        state := .up, stateChangedAt := some now,
        pendingNotifications := f.pendingNotifications,
        nextNotificationId := f.nextNotificationId }
  | recoveredAnnounced (down : f.state = .down)
      (reached : ¬ f.consecutiveSuccesses + 1 < recoveryConfirmations)
      (current : DeadManCurrentDown) (bound : f.currentDown = some current)
      (acknowledged : current.acknowledged = true)
      (intent : DeadManNotification) (allocated : Allocated f now .recovered intent) :
      Advanced f now .healthy {
        state := .up, stateChangedAt := some now,
        pendingNotifications := f.pendingNotifications ++ [intent],
        nextNotificationId := f.nextNotificationId + 1 }
  | held (down : f.state = .down) :
      Advanced f now .failed { f with consecutiveFailures := 0, consecutiveSuccesses := 0 }
  | suspecting (notDown : f.state ≠ .down)
      (below : f.consecutiveFailures + 1 < downConfirmations) :
      Advanced f now .failed { f with
        consecutiveFailures := f.consecutiveFailures + 1, consecutiveSuccesses := 0 }
  | confirmed (notDown : f.state ≠ .down)
      (reached : ¬ f.consecutiveFailures + 1 < downConfirmations)
      (intent : DeadManNotification) (allocated : Allocated f now .down intent)
      (current : DeadManCurrentDown) (currentId : current.notificationId = f.nextNotificationId)
      (unacknowledged : current.acknowledged = false) :
      Advanced f now .failed {
        state := .down, stateChangedAt := some now,
        pendingNotifications := f.pendingNotifications ++ [intent],
        nextNotificationId := f.nextNotificationId + 1,
        currentDown := some current }

/-- A successful evaluation is one of the branches. -/
theorem advance_cases {s s' : DeadManStatus} {outcome : DeadManProbeOutcome} {now : DateTime}
    (advanced : advanceDeadmanStatus s outcome now = .ok s') :
    now.isAware = true ∧ NotBefore s.stateChangedAt now ∧
      Advanced s.toStatusFields now outcome s'.toStatusFields := by
  simp only [advanceDeadmanStatus, check_bind_eq_ok, require_eq_ok] at advanced
  obtain ⟨aware, notBefore, result⟩ := advanced
  refine ⟨aware, notBefore, ?_⟩
  cases outcome with
  | healthy =>
      simp only [advanceSuccess] at result
      split at result
      · rename_i state
        rw [DeadManStatus.make_eq_ok.mp result]
        exact .baseline state
      · rename_i state
        rw [DeadManStatus.make_eq_ok.mp result]
        exact .steady state
      rename_i state
      by_cases below : s.consecutiveSuccesses + 1 < recoveryConfirmations
      · rw [if_pos below] at result
        rw [DeadManStatus.make_eq_ok.mp result]
        exact .recovering state below
      rw [if_neg below] at result
      split at result
      · cases result
      rename_i current bound
      by_cases acknowledged : current.acknowledged = false
      · rw [if_pos acknowledged] at result
        rw [DeadManStatus.make_eq_ok.mp result]
        exact .recoveredSilently state below current bound acknowledged
      rw [if_neg acknowledged] at result
      obtain ⟨transition, madeTransition, result⟩ := bind_eq_ok.mp result
      obtain ⟨intent, madeIntent, result⟩ := bind_eq_ok.mp result
      obtain ⟨fromState, _, confirmedAt⟩ := DeadManTransition.make_eq_ok madeTransition
      obtain ⟨id, kind, carried⟩ := DeadManNotification.make_eq_ok madeIntent
      rw [DeadManStatus.make_eq_ok.mp result]
      refine .recoveredAnnounced state below current bound (eq_true_of_ne_false acknowledged) intent
        ⟨id, kind, ?_, ?_⟩
      · rw [DeadManNotification.confirmedAt, carried, confirmedAt]
      · rw [carried, fromState, state]
  | failed =>
      simp only [advanceFailure] at result
      by_cases down : s.state = .down
      · rw [if_pos down] at result
        rw [DeadManStatus.make_eq_ok.mp result]
        exact .held down
      rw [if_neg down] at result
      by_cases below : s.consecutiveFailures + 1 < downConfirmations
      · rw [if_pos below] at result
        rw [DeadManStatus.make_eq_ok.mp result]
        exact .suspecting down below
      rw [if_neg below] at result
      obtain ⟨transition, madeTransition, result⟩ := bind_eq_ok.mp result
      obtain ⟨intent, madeIntent, result⟩ := bind_eq_ok.mp result
      obtain ⟨current, madeCurrent, result⟩ := bind_eq_ok.mp result
      obtain ⟨fromState, _, confirmedAt⟩ := DeadManTransition.make_eq_ok madeTransition
      obtain ⟨id, kind, carried⟩ := DeadManNotification.make_eq_ok madeIntent
      obtain ⟨currentId, acknowledged⟩ := DeadManCurrentDown.make_eq_ok madeCurrent
      rw [DeadManStatus.make_eq_ok.mp result]
      refine .confirmed down below intent ⟨id, kind, ?_, ?_⟩ current currentId acknowledged
      · rw [DeadManNotification.confirmedAt, carried, confirmedAt]
      · rw [carried, fromState]

/-! ## Every branch preserves the snapshot invariant -/

/-- Nothing pending is dated after an evaluation moment that is not before
the anchor. -/
theorem pending_le_now {f : StatusFields} {now : DateTime} (admissible : Admissible f)
    (notBefore : NotBefore f.stateChangedAt now) (n : DeadManNotification)
    (member : n ∈ f.pendingNotifications) : n.confirmedAt.instant ≤ now.instant := by
  have times := admissible.times
  unfold LedgerTimes at times
  unfold NotBefore at notBefore
  cases anchor : f.stateChangedAt with
  | none =>
      rw [anchor] at times
      rw [(admissible.unknownInitial times).2.1] at member
      cases member
  | some anchorTime =>
      rw [anchor] at times notBefore
      exact Int.le_trans (times.2 n member) notBefore

/-- Allocating one more intent extends the block of ids. -/
theorem ids_append {f : StatusFields} {intent : DeadManNotification} (admissible : Admissible f)
    (id : intent.notificationId = f.nextNotificationId) :
    notificationIds (f.pendingNotifications ++ [intent]) =
      consecutive (f.nextNotificationId + 1 - (f.pendingNotifications ++ [intent]).length)
        (f.pendingNotifications ++ [intent]).length := by
  have ids := admissible.ids
  rw [List.length_append, List.length_singleton, notificationIds, List.map_append,
    List.map_singleton, id, consecutive_succ]
  rw [notificationIds] at ids
  have start : f.nextNotificationId + 1 - ((f.pendingNotifications.length + 1 : Nat) : Int) =
      f.nextNotificationId - f.pendingNotifications.length := by omega
  rw [start, ids]
  have last : f.nextNotificationId - (f.pendingNotifications.length : Int) +
      f.pendingNotifications.length = f.nextNotificationId := by omega
  rw [last]

/-- Only the streaks change, and they still rest below their thresholds. -/
theorem Admissible.withStreaks {f : StatusFields} (admissible : Admissible f)
    {failures successes : Int}
    (streaks : StreaksRest { f with
      consecutiveFailures := failures, consecutiveSuccesses := successes }) :
    Admissible { f with consecutiveFailures := failures, consecutiveSuccesses := successes } where
  streaks := streaks
  ids := admissible.ids
  nextPositive := admissible.nextPositive
  grammar := admissible.grammar
  times := admissible.times
  unknownInitial := admissible.unknownInitial
  binding := admissible.binding

/-- UP is entered with both streaks at rest and no binding. -/
theorem admissible_up {pending : List DeadManNotification} {next : Int} {now : DateTime}
    (ids : notificationIds pending = consecutive (next - pending.length) pending.length)
    (nextPositive : 1 ≤ next) (grammar : forall n, n ∈ pending.tail -> n.kind = .down)
    (aware : now.isAware = true)
    (times : forall n, n ∈ pending -> n.confirmedAt.instant ≤ now.instant) :
    Admissible { state := .up, stateChangedAt := some now, pendingNotifications := pending,
                 nextNotificationId := next } where
  streaks := by simp [StreaksRest, downConfirmations]
  ids := ids
  nextPositive := nextPositive
  grammar := grammar
  times := ⟨aware, times⟩
  unknownInitial := by simp
  binding := by simp [OutageBinding]

theorem currentDown_eq_none {f : StatusFields} (admissible : Admissible f)
    (notDown : f.state ≠ .down) : f.currentDown = none := by
  have binding := admissible.binding
  unfold OutageBinding at binding
  cases bound : f.currentDown with
  | none => rfl
  | some current =>
      rw [bound] at binding
      exact absurd binding.1 notDown

theorem binding_of_currentDown {f : StatusFields} (admissible : Admissible f)
    {current : DeadManCurrentDown} (bound : f.currentDown = some current) :
    f.state = .down ∧ current.notificationId = f.nextNotificationId - 1 ∧
      (if current.acknowledged = true then f.pendingNotifications = [] else BoundTail f) := by
  have binding := admissible.binding
  unfold OutageBinding at binding
  rw [bound] at binding
  exact binding

/-- The inductive step of the snapshot invariant, one case for each branch. -/
theorem Advanced.admissible {f f' : StatusFields} {outcome : DeadManProbeOutcome} {now : DateTime}
    (advanced : Advanced f now outcome f') (admissible : Admissible f)
    (aware : now.isAware = true) (notBefore : NotBefore f.stateChangedAt now) :
    Admissible f' := by
  have times := pending_le_now admissible notBefore
  have streaks := admissible.streaks
  unfold StreaksRest at streaks
  cases advanced with
  | baseline unknown =>
      have initial := admissible.unknownInitial unknown
      rw [currentDown_eq_none admissible (by rw [unknown]; decide)]
      exact admissible_up admissible.ids admissible.nextPositive admissible.grammar aware times
  | steady up =>
      refine admissible.withStreaks ?_
      simp [StreaksRest, up, downConfirmations]
  | recovering down below =>
      rw [if_pos down] at streaks
      refine admissible.withStreaks ?_
      simp only [StreaksRest, if_pos down, true_and]
      exact ⟨by omega, below⟩
  | recoveredSilently down reached current bound unacknowledged =>
      exact admissible_up admissible.ids admissible.nextPositive admissible.grammar aware times
  | recoveredAnnounced down reached current bound acknowledged intent allocated =>
      have drained := (binding_of_currentDown admissible bound).2.2
      rw [if_pos acknowledged] at drained
      refine admissible_up (ids_append admissible allocated.id) ?_ ?_ aware ?_
      · have := admissible.nextPositive
        omega
      · rw [drained]
        simp
      · intro n member
        rcases List.mem_append.mp member with older | new
        · exact times n older
        · rw [List.mem_singleton.mp new, allocated.confirmedAt]
  | held down =>
      refine admissible.withStreaks ?_
      simp [StreaksRest, down, recoveryConfirmations]
  | suspecting notDown below =>
      rw [if_neg notDown] at streaks
      refine admissible.withStreaks ?_
      simp only [StreaksRest, if_neg notDown, true_and]
      exact ⟨by omega, below⟩
  | confirmed notDown reached intent allocated current currentId unacknowledged =>
      exact {
        streaks := by simp [StreaksRest, recoveryConfirmations]
        ids := ids_append admissible allocated.id
        nextPositive := by
          have := admissible.nextPositive
          show 1 ≤ f.nextNotificationId + 1
          omega
        grammar := by
          intro n member
          cases shape : f.pendingNotifications with
          | nil =>
              rw [shape] at member
              cases member
          | cons head rest =>
              rw [shape, List.cons_append, List.tail_cons] at member
              rcases List.mem_append.mp member with older | new
              · exact admissible.grammar n (by rw [shape]; exact older)
              · rw [List.mem_singleton.mp new, allocated.kind]
        times := by
          refine ⟨aware, ?_⟩
          intro n member
          rcases List.mem_append.mp member with older | new
          · exact times n older
          · rw [List.mem_singleton.mp new, allocated.confirmedAt]
        unknownInitial := by simp
        binding := by
          refine ⟨rfl, by rw [currentId]; simp, ?_⟩
          rw [if_neg (by rw [unacknowledged]; decide)]
          exact ⟨f.pendingNotifications, intent, rfl, allocated.kind, now, rfl, by
            rw [allocated.confirmedAt]⟩ }

/-- The intent of a transition out of the current state can be built. -/
theorem exists_allocated (f : StatusFields) (kind : DeadManNotificationKind)
    (toState : DeadManState) {now : DateTime} (aware : now.isAware = true)
    (canonical : (f.state, toState) ∈ canonicalTransitions) (positive : 1 ≤ f.nextNotificationId)
    (down : kind = .down -> toState = .down)
    (recovered : kind = .recovered ->
      f.state = .down ∧ toState = .up ∧ f.nextNotificationId ≠ 1) :
    exists transition intent, DeadManTransition.make f.state toState now = .ok transition ∧
      DeadManNotification.make f.nextNotificationId kind transition = .ok intent ∧
      Allocated f now kind intent := by
  let transition : DeadManTransition :=
    { fromState := f.state, toState, confirmedAt := now, canonical, aware }
  let intent : DeadManNotification :=
    { notificationId := f.nextNotificationId
      kind, transition
      idPositive := positive
      downPaired := fun same => decide_eq_true (down same)
      recoveredPaired := fun same => decide_eq_true ⟨(recovered same).1, (recovered same).2.1⟩
      recoveredNotFirst := fun same => (recovered same).2.2 }
  exact ⟨transition, intent, DeadManTransition.make_ok transition,
    DeadManNotification.make_ok intent, rfl, rfl, rfl, rfl⟩

/-- A validated result of one of the branches is what the constructor returns. -/
theorem make_of_advanced {f f' : StatusFields} {outcome : DeadManProbeOutcome} {now : DateTime}
    (advanced : Advanced f now outcome f') (admissible : Admissible f)
    (aware : now.isAware = true) (notBefore : NotBefore f.stateChangedAt now) :
    exists s', DeadManStatus.make f' = .ok s' :=
  let ⟨s', made, _⟩ := DeadManStatus.make_ok (advanced.admissible admissible aware notBefore)
  ⟨s', made⟩

theorem advanceSuccess_total (s : DeadManStatus) {now : DateTime} (aware : now.isAware = true)
    (notBefore : NotBefore s.stateChangedAt now) : exists s', advanceSuccess s now = .ok s' := by
  have admissible := s.admissible
  unfold advanceSuccess
  split
  · rename_i state
    exact make_of_advanced (.baseline state) admissible aware notBefore
  · rename_i state
    exact make_of_advanced (.steady state) admissible aware notBefore
  rename_i state
  by_cases below : s.consecutiveSuccesses + 1 < recoveryConfirmations
  · simp only [if_pos below]
    exact make_of_advanced (.recovering state below) admissible aware notBefore
  simp only [if_neg below]
  split
  · rename_i unbound
    have binding := admissible.binding
    rw [OutageBinding, unbound] at binding
    exact absurd state binding
  rename_i current bound
  by_cases acknowledged : current.acknowledged = false
  · rw [if_pos acknowledged]
    exact make_of_advanced (.recoveredSilently state below current bound acknowledged) admissible
      aware notBefore
  rw [if_neg acknowledged]
  have currentId := (binding_of_currentDown admissible bound).2.1
  have currentPositive := current.idPositive
  obtain ⟨transition, intent, madeTransition, madeIntent, allocated⟩ :=
    exists_allocated s.toStatusFields .recovered .up aware
      (by rw [state]; decide) admissible.nextPositive (by simp)
      (fun _ => ⟨state, rfl, by omega⟩)
  rw [state] at madeTransition
  rw [madeTransition, ok_bind, madeIntent, ok_bind]
  exact make_of_advanced (.recoveredAnnounced state below current bound
    (eq_true_of_ne_false acknowledged) intent allocated) admissible aware notBefore

theorem advanceFailure_total (s : DeadManStatus) {now : DateTime} (aware : now.isAware = true)
    (notBefore : NotBefore s.stateChangedAt now) : exists s', advanceFailure s now = .ok s' := by
  have admissible := s.admissible
  unfold advanceFailure
  by_cases down : s.state = .down
  · rw [if_pos down]
    exact make_of_advanced (.held down) admissible aware notBefore
  rw [if_neg down]
  by_cases below : s.consecutiveFailures + 1 < downConfirmations
  · simp only [if_pos below]
    exact make_of_advanced (.suspecting down below) admissible aware notBefore
  simp only [if_neg below]
  have canonical : (s.state, DeadManState.down) ∈ canonicalTransitions := by
    cases state : s.state with
    | unknown => decide
    | up => decide
    | down => exact absurd state down
  obtain ⟨transition, intent, madeTransition, madeIntent, allocated⟩ :=
    exists_allocated s.toStatusFields .down .down aware canonical admissible.nextPositive (fun _ => rfl)
      (by simp)
  let current : DeadManCurrentDown := ⟨s.nextNotificationId, false, admissible.nextPositive⟩
  have madeCurrent := DeadManCurrentDown.make_ok current
  rw [madeTransition, ok_bind, madeIntent, ok_bind, madeCurrent, ok_bind]
  exact make_of_advanced (.confirmed down below intent allocated current rfl rfl) admissible aware
    notBefore

/-- Every valid snapshot can be evaluated at every aware moment not before its
anchor: no constructor check and no assertion fires. -/
theorem advance_total (s : DeadManStatus) (outcome : DeadManProbeOutcome) {now : DateTime}
    (aware : now.isAware = true) (notBefore : NotBefore s.stateChangedAt now) :
    exists s', advanceDeadmanStatus s outcome now = .ok s' := by
  simp only [advanceDeadmanStatus, check_bind_eq_ok, require_eq_ok]
  cases outcome with
  | healthy =>
      obtain ⟨s', result⟩ := advanceSuccess_total s aware notBefore
      exact ⟨s', aware, notBefore, result⟩
  | failed =>
      obtain ⟨s', result⟩ := advanceFailure_total s aware notBefore
      exact ⟨s', aware, notBefore, result⟩

/-! ## Acknowledgement -/

theorem markAcknowledged_eq (current : Option DeadManCurrentDown) (id : Int) :
    markAcknowledged current id = .ok (current.map fun c =>
      if c.notificationId = id then { c with acknowledged := true } else c) := by
  cases current with
  | none => rfl
  | some current =>
      simp only [markAcknowledged, Option.map_some]
      split
      · rw [DeadManCurrentDown.make, dif_pos current.idPositive]
        rfl
      · rfl

/-- The fields after the oldest intent was acknowledged. -/
def acknowledgedFields (f : StatusFields) (head : DeadManNotification)
    (rest : List DeadManNotification) : StatusFields :=
  { f with
    pendingNotifications := rest
    currentDown := f.currentDown.map fun c =>
      if c.notificationId = head.notificationId then { c with acknowledged := true } else c }

/-- A successful acknowledgement names the oldest intent and removes exactly it. -/
theorem acknowledge_cases {s s' : DeadManStatus} {id : Int}
    (acknowledged : acknowledgeDeadmanNotification s id = .ok s') :
    exists head rest, s.pendingNotifications = head :: rest ∧ id = head.notificationId ∧
      s'.toStatusFields = acknowledgedFields s.toStatusFields head rest := by
  simp only [acknowledgeDeadmanNotification, requireNotificationId, check_bind_eq_ok,
    require_eq_ok] at acknowledged
  obtain ⟨_, result⟩ := acknowledged
  split at result
  · cases result
  rename_i head rest shape
  rw [check_bind_eq_ok, require_eq_ok, markAcknowledged_eq, ok_bind] at result
  obtain ⟨same, made⟩ := result
  subst same
  exact ⟨head, rest, shape, rfl, DeadManStatus.make_eq_ok.mp made⟩

/-- Removing the oldest intent of a block of ids leaves a block of ids. -/
theorem ids_tail {f : StatusFields} {head : DeadManNotification}
    {rest : List DeadManNotification} (admissible : Admissible f)
    (shape : f.pendingNotifications = head :: rest) :
    head.notificationId = f.nextNotificationId - rest.length - 1 ∧
      notificationIds rest = consecutive (f.nextNotificationId - rest.length) rest.length := by
  have ids := admissible.ids
  rw [shape, notificationIds, List.map_cons, List.length_cons, consecutive, List.cons.injEq] at ids
  refine ⟨by omega, ?_⟩
  rw [notificationIds, ids.2]
  have start : f.nextNotificationId - ((rest.length + 1 : Nat) : Int) + 1 =
      f.nextNotificationId - rest.length := by omega
  rw [start]

/-- Acknowledging the oldest intent preserves the snapshot invariant.  The
bound DOWN is the newest intent, so it is acknowledged last and leaves the
queue empty. -/
theorem admissible_acknowledged {f : StatusFields} {head : DeadManNotification}
    {rest : List DeadManNotification} (admissible : Admissible f)
    (shape : f.pendingNotifications = head :: rest) :
    Admissible (acknowledgedFields f head rest) where
  streaks := admissible.streaks
  ids := (ids_tail admissible shape).2
  nextPositive := admissible.nextPositive
  grammar := by
    intro n member
    exact admissible.grammar n (by rw [shape]; exact List.mem_of_mem_tail member)
  times := by
    have times := admissible.times
    unfold LedgerTimes at times ⊢
    simp only [acknowledgedFields]
    cases anchor : f.stateChangedAt with
    | none =>
        rw [anchor] at times
        exact times
    | some anchorTime =>
        rw [anchor] at times
        exact ⟨times.1, fun n member => times.2 n (by rw [shape]; exact List.mem_cons_of_mem _ member)⟩
  unknownInitial := by
    intro unknown
    have pending := (admissible.unknownInitial unknown).2.1
    rw [shape] at pending
    cases pending
  binding := by
    have binding := admissible.binding
    unfold OutageBinding at binding ⊢
    have headId := (ids_tail admissible shape).1
    cases bound : f.currentDown with
    | none =>
        rw [bound] at binding
        simpa only [acknowledgedFields, bound, Option.map_none] using binding
    | some current =>
        rw [bound] at binding
        obtain ⟨down, currentId, queue⟩ := binding
        have pending : ¬ current.acknowledged = true := by
          intro acknowledged
          rw [if_pos acknowledged, shape] at queue
          cases queue
        rw [if_neg pending] at queue
        simp only [acknowledgedFields, bound, Option.map_some]
        by_cases bindsHead : current.notificationId = head.notificationId
        · rw [if_pos bindsHead]
          refine ⟨down, currentId, ?_⟩
          have empty : rest.length = 0 := by omega
          rw [if_pos rfl]
          exact List.eq_nil_of_length_eq_zero empty
        · rw [if_neg bindsHead]
          refine ⟨down, currentId, ?_⟩
          rw [if_neg pending]
          obtain ⟨older, tail, last, kind, dated⟩ := queue
          cases older with
          | nil =>
              rw [shape] at last
              have empty : rest = [] := (List.cons.inj last).2
              rw [empty, List.length_nil] at headId
              exact absurd (show current.notificationId = head.notificationId by omega) bindsHead
          | cons oldest middle =>
              rw [shape] at last
              exact ⟨middle, tail, (List.cons.inj last).2, kind, dated⟩

/-- The oldest intent can always be acknowledged. -/
theorem acknowledge_head (s : DeadManStatus) {head : DeadManNotification}
    {rest : List DeadManNotification} (shape : s.pendingNotifications = head :: rest) :
    exists s', acknowledgeDeadmanNotification s head.notificationId = .ok s' ∧
      s'.toStatusFields = acknowledgedFields s.toStatusFields head rest := by
  obtain ⟨s', made, fields⟩ :=
    DeadManStatus.make_ok (admissible_acknowledged s.admissible shape)
  refine ⟨s', ?_, fields⟩
  simp only [acknowledgeDeadmanNotification, requireNotificationId, check_bind_eq_ok,
    require_eq_ok]
  refine ⟨head.idPositive, ?_⟩
  rw [shape]
  simp only [check_bind_eq_ok, require_eq_ok, markAcknowledged_eq, ok_bind, true_and]
  exact made

/-- Any id but the oldest pending one is refused. -/
theorem acknowledge_refused {s : DeadManStatus} {id : Int}
    (notOldest : forall head, s.pendingNotifications.head? = some head -> id ≠ head.notificationId) :
    exists message,
      acknowledgeDeadmanNotification s id = raise .valueError message := by
  simp only [acknowledgeDeadmanNotification, requireNotificationId, require]
  by_cases positive : 1 ≤ id
  · rw [if_pos positive, ok_bind]
    cases shape : s.pendingNotifications with
    | nil => exact ⟨_, rfl⟩
    | cons head rest =>
        rw [shape] at notOldest
        simp only [if_neg (notOldest head rfl)]
        exact ⟨_, rfl⟩
  · rw [if_neg positive]
    exact ⟨_, rfl⟩

/-- From every snapshot its constructor accepts, every evaluation at an aware
moment not before the anchor and the acknowledgement of the oldest intent
return snapshots that the constructor accepts again; every other
acknowledgement raises. -/
theorem snapshot_inductive (f : StatusFields) (checked : f.postInit = .ok ()) :
    (forall outcome now, now.isAware = true -> NotBefore f.stateChangedAt now ->
      exists s', advanceDeadmanStatus ⟨f, checked⟩ outcome now = .ok s' ∧
        s'.toStatusFields.postInit = .ok ()) ∧
    (forall head rest, f.pendingNotifications = head :: rest ->
      exists s', acknowledgeDeadmanNotification ⟨f, checked⟩ head.notificationId = .ok s' ∧
        s'.toStatusFields.postInit = .ok ()) ∧
    (forall id, (forall head, f.pendingNotifications.head? = some head ->
        id ≠ head.notificationId) ->
      exists message,
        acknowledgeDeadmanNotification ⟨f, checked⟩ id = raise .valueError message) := by
  refine ⟨?_, ?_, ?_⟩
  · intro outcome now aware notBefore
    obtain ⟨s', result⟩ := advance_total ⟨f, checked⟩ outcome aware notBefore
    exact ⟨s', result, s'.checked⟩
  · intro head rest shape
    obtain ⟨s', result, _⟩ := acknowledge_head ⟨f, checked⟩ shape
    exact ⟨s', result, s'.checked⟩
  · intro id notOldest
    exact acknowledge_refused notOldest

/-- The first outage of a timeline, not yet reported. -/
def firstOutage (now : WallClock) : StatusFields :=
  { state := .down
    stateChangedAt := some (DateTime.utc now)
    pendingNotifications := [{
      notificationId := 1
      kind := .down
      transition := {
        fromState := .up
        toState := .down
        confirmedAt := DateTime.utc now
        canonical := by decide
        aware := rfl }
      idPositive := by decide
      downPaired := fun _ => rfl
      recoveredPaired := by simp
      recoveredNotFirst := by simp }]
    nextNotificationId := 2
    currentDown := some ⟨1, false, by decide⟩ }

theorem snapshot_inductive_firstOutage :
    exists s', advanceDeadmanStatus ⟨firstOutage ⟨0, by decide⟩, rfl⟩ .failed
      (DateTime.utc ⟨60000000, by decide⟩) = .ok s' ∧ s'.toStatusFields.postInit = .ok () :=
  (snapshot_inductive (firstOutage ⟨0, by decide⟩) rfl).1 .failed _ rfl (by decide)

end DeadMan
end HermesSentinel
