import HermesSentinel.Foundation.Machine
import HermesSentinel.DeadMan.ContentMachine

namespace HermesSentinel
namespace DeadMan

open Python
open Foundation

/-!
# The persisted document is fully abstract

A user of a snapshot evaluates it, acknowledges its oldest intent and looks at
its state and its pending intents.  Snapshots that no such run tells apart are
written as one document, and snapshots written as one document are not told
apart.

Both directions go through the content.  A difference of contents is shown by
driving both snapshots towards their next allocation: the number of evaluations
it takes shows the streak, and the id it allocates shows the allocator.
-/

/-- The state and the pending intents, whose times compare as instants. -/
structure StatusView where
  state : DeadManState
  pending : List IntentContent
  deriving DecidableEq

def snapshotMachine : Machine DeadManStatus SnapshotCall StatusView where
  perform s call := (s.perform call).toOption
  view s := ⟨s.state, s.pendingNotifications.map DeadManNotification.content⟩

theorem agreement_content :
    snapshotMachine.Agreement fun s t => s.toStatusFields.content = t.toStatusFields.content where
  view := by
    intro s t same
    exact congrArg (fun c => StatusView.mk c.state c.pending) same
  perform := by
    intro s t same call
    have performed := perform_content s call
    rw [same, <- perform_content t call] at performed
    simp only [snapshotMachine]
    cases first : (s.perform call).toOption with
    | none =>
        rw [first] at performed
        rw [Option.map_eq_none_iff.mp performed.symm]
        exact .none
    | some s' =>
        rw [first] at performed
        rcases Option.map_eq_some_iff.mp performed.symm with ⟨t', second, equal⟩
        rw [second]
        exact .some equal.symm

/-- A document tells the content. -/
theorem content_of_encoded {s t : DeadManStatus} {payload : PyStr}
    (first : encodeDeadmanStatus s = .ok payload) (second : encodeDeadmanStatus t = .ok payload) :
    s.toStatusFields.content = t.toStatusFields.content := by
  have readFirst := decode_encode JsonScanner.standard extendedFormat first
  have readSecond := decode_encode JsonScanner.standard extendedFormat second
  have same : s.inUtc = t.inUtc := Except.ok.inj (readFirst.symm.trans readSecond)
  rw [<- s.content_inUtc, <- t.content_inUtc, same]

section Indistinguishable

variable {s t : DeadManStatus}

theorem state_of_same (same : snapshotMachine.Indistinguishable s t) : s.state = t.state :=
  congrArg StatusView.state same.view_eq

theorem pending_of_same (same : snapshotMachine.Indistinguishable s t) :
    s.toStatusFields.content.pending = t.toStatusFields.content.pending :=
  congrArg StatusView.pending same.view_eq

/-- An evaluation possible in one snapshot is possible in the other. -/
theorem follow (same : snapshotMachine.Indistinguishable s t) (outcome : DeadManProbeOutcome)
    {now : DateTime} (aware : now.isAware = true) (notBefore : NotBefore s.stateChangedAt now) :
    NotBefore t.stateChangedAt now ∧ exists s' t', snapshotMachine.Indistinguishable s' t' ∧
      s'.toStatusFields.content = s.toStatusFields.content.advance outcome now.instant ∧
      t'.toStatusFields.content = t.toStatusFields.content.advance outcome now.instant := by
  rcases advance_total s outcome aware notBefore with ⟨s', advanced⟩
  have done : snapshotMachine.perform s (.advance outcome now aware) = some s' := by
    simp only [snapshotMachine, DeadManStatus.perform, advanced]
    rfl
  rcases same.performed done with ⟨t', done', same'⟩
  have advanced' : advanceDeadmanStatus t outcome now = .ok t' := by
    simp only [snapshotMachine, DeadManStatus.perform] at done'
    cases result : advanceDeadmanStatus t outcome now with
    | error e =>
        rw [result] at done'
        cases done'
    | ok t'' =>
        rw [result] at done'
        cases done'
        rfl
  rcases advance_cases advanced' with ⟨_, notBefore', branch'⟩
  exact ⟨notBefore', s', t', same', (advance_cases advanced).2.2.content_eq s.admissible,
    branch'.content_eq t.admissible⟩

/-- Every snapshot can be evaluated at some moment. -/
theorem exists_moment (s : DeadManStatus) :
    exists now : DateTime, now.isAware = true ∧ NotBefore s.stateChangedAt now := by
  unfold NotBefore
  cases anchored : s.stateChangedAt with
  | none => exact ⟨DateTime.utc ⟨0, by decide⟩, rfl, trivial⟩
  | some anchor => exact ⟨anchor, s.anchor_aware anchor anchored, Int.le_refl _⟩

theorem anchor_none_iff (s : DeadManStatus) : s.stateChangedAt = none ↔ s.state = .unknown := by
  constructor
  · intro unanchored
    have times := s.admissible.times
    rwa [LedgerTimes, unanchored] at times
  · intro unknown
    exact (s.admissible.unknownInitial unknown).1

/-- Evaluating at the anchor of one snapshot shows that the other has no later one. -/
theorem anchor_le_of_same (same : snapshotMachine.Indistinguishable s t) {first second : DateTime}
    (anchored : s.stateChangedAt = some first) (anchored' : t.stateChangedAt = some second) :
    second.instant ≤ first.instant := by
  have notBefore : NotBefore s.stateChangedAt first := by
    rw [anchored]
    exact Int.le_refl _
  have followed := (follow same .healthy (s.anchor_aware first anchored) notBefore).1
  rwa [anchored'] at followed

theorem anchor_of_same (same : snapshotMachine.Indistinguishable s t) :
    s.stateChangedAt.map DateTime.instant = t.stateChangedAt.map DateTime.instant := by
  have unknown : s.stateChangedAt = none ↔ t.stateChangedAt = none := by
    rw [anchor_none_iff, anchor_none_iff, state_of_same same]
  cases anchored : s.stateChangedAt with
  | none => rw [unknown.mp anchored]
  | some first =>
      cases anchored' : t.stateChangedAt with
      | none =>
          rw [unknown.mpr anchored'] at anchored
          cases anchored
      | some second =>
          have after := anchor_le_of_same same anchored anchored'
          have before := anchor_le_of_same same.symm anchored' anchored
          exact congrArg some (Int.le_antisymm before after)

/-! ## Driving towards the next allocation -/

theorem failures_le (s : DeadManStatus) : s.consecutiveFailures ≤ downConfirmations - 1 := by
  have streaks := s.admissible.streaks
  unfold StreaksRest downConfirmations at *
  split at streaks <;> omega

theorem successes_le (s : DeadManStatus) : s.consecutiveSuccesses ≤ recoveryConfirmations - 1 := by
  have streaks := s.admissible.streaks
  unfold StreaksRest recoveryConfirmations at *
  split at streaks <;> omega

/-- Queues that end in freshly allocated intents show the allocator. -/
theorem id_of_appended {older older' : List IntentContent} {newest newest' : IntentContent}
    (same : older ++ [newest] = older' ++ [newest']) :
    newest.notificationId = newest'.notificationId :=
  congrArg IntentContent.notificationId (List.singleton_inj.mp (List.append_inj_right' same rfl))

/-- One more failed probe of snapshots that are not DOWN: both confirm the
outage and allocate one id, or both count one failure more. -/
theorem failing_step (same : snapshotMachine.Indistinguishable s t) (notDown : s.state ≠ .down) :
    (s.consecutiveFailures = downConfirmations - 1 ∧ t.consecutiveFailures = downConfirmations - 1 ∧
      s.nextNotificationId = t.nextNotificationId) ∨
    exists s' t', (snapshotMachine.Indistinguishable s' t' ∧ s'.state ≠ .down) ∧
      s'.consecutiveFailures = s.consecutiveFailures + 1 ∧
      t'.consecutiveFailures = t.consecutiveFailures + 1 ∧
      s'.nextNotificationId = s.nextNotificationId ∧
      t'.nextNotificationId = t.nextNotificationId := by
  have notDown' : t.state ≠ .down := by rwa [<- state_of_same same]
  rcases exists_moment s with ⟨now, aware, notBefore⟩
  rcases (follow same .failed aware notBefore).2 with ⟨s', t', same', content, content'⟩
  have states := state_of_same same'
  have full := failures_le s
  have full' := failures_le t
  by_cases below : s.consecutiveFailures + 1 < downConfirmations
  · rw [StatusContent.advance_suspecting (c := s.toStatusFields.content) notDown _ below] at content
    have state : s'.state = s.state := congrArg StatusContent.state content
    by_cases below' : t.consecutiveFailures + 1 < downConfirmations
    · rw [StatusContent.advance_suspecting (c := t.toStatusFields.content) notDown' _ below']
        at content'
      refine Or.inr ⟨s', t', ⟨same', by rwa [state]⟩, ?_⟩
      exact ⟨congrArg StatusContent.consecutiveFailures content,
        congrArg StatusContent.consecutiveFailures content',
        congrArg StatusContent.nextNotificationId content,
        congrArg StatusContent.nextNotificationId content'⟩
    · rw [StatusContent.advance_confirmed (c := t.toStatusFields.content) notDown' _ below']
        at content'
      have state' : t'.state = .down := congrArg StatusContent.state content'
      rw [state, state'] at states
      exact absurd states notDown
  · rw [StatusContent.advance_confirmed (c := s.toStatusFields.content) notDown _ below] at content
    have state : s'.state = .down := congrArg StatusContent.state content
    by_cases below' : t.consecutiveFailures + 1 < downConfirmations
    · rw [StatusContent.advance_suspecting (c := t.toStatusFields.content) notDown' _ below']
        at content'
      have state' : t'.state = t.state := congrArg StatusContent.state content'
      rw [state, state'] at states
      exact absurd states.symm notDown'
    · rw [StatusContent.advance_confirmed (c := t.toStatusFields.content) notDown' _ below']
        at content'
      have pending := pending_of_same same'
      rw [content, content'] at pending
      exact Or.inl ⟨by omega, by omega, id_of_appended pending⟩

theorem failures_of_same (same : snapshotMachine.Indistinguishable s t)
    (notDown : s.state ≠ .down) :
    s.consecutiveFailures = t.consecutiveFailures ∧
      s.nextNotificationId = t.nextNotificationId :=
  Machine.eq_of_countdown (fun {s _} _ => failures_le s)
    (fun {_ _} related => failing_step related.1 related.2) ⟨same, notDown⟩

/-- In DOWN the outage was reported to the end when nothing is pending. -/
theorem acknowledged_iff (s : DeadManStatus) (down : s.state = .down) :
    s.toStatusFields.content.Acknowledged ↔ s.toStatusFields.content.pending = [] := by
  have binding := s.admissible.binding
  unfold OutageBinding at binding
  cases bound : s.currentDown with
  | none =>
      rw [bound] at binding
      exact absurd down binding
  | some current =>
      rw [bound] at binding
      have queue := binding.2.2
      have found : s.toStatusFields.content.currentDown = some current := bound
      constructor
      · rintro ⟨other, present, acknowledged⟩
        cases found.symm.trans present
        rw [if_pos acknowledged] at queue
        exact List.map_eq_nil_iff.mpr queue
      · intro drained
        by_cases acknowledged : current.acknowledged = true
        · exact ⟨current, found, acknowledged⟩
        · rw [if_neg acknowledged] at queue
          rcases queue with ⟨older, tail, shape, _⟩
          rw [StatusFields.content, shape] at drained
          simp at drained

theorem acknowledged_of_same (same : snapshotMachine.Indistinguishable s t)
    (down : s.state = .down) :
    s.toStatusFields.content.Acknowledged ↔ t.toStatusFields.content.Acknowledged := by
  rw [acknowledged_iff s down, acknowledged_iff t (by rwa [<- state_of_same same]),
    pending_of_same same]

/-- One more healthy probe of DOWN snapshots: both recover, or both count one
success more.  A silent recovery allocates nothing, but leads to UP, whose
allocators agree already. -/
theorem recovering_step (same : snapshotMachine.Indistinguishable s t) (down : s.state = .down) :
    (s.consecutiveSuccesses = recoveryConfirmations - 1 ∧
      t.consecutiveSuccesses = recoveryConfirmations - 1 ∧
      s.nextNotificationId = t.nextNotificationId) ∨
    exists s' t', (snapshotMachine.Indistinguishable s' t' ∧ s'.state = .down) ∧
      s'.consecutiveSuccesses = s.consecutiveSuccesses + 1 ∧
      t'.consecutiveSuccesses = t.consecutiveSuccesses + 1 ∧
      s'.nextNotificationId = s.nextNotificationId ∧
      t'.nextNotificationId = t.nextNotificationId := by
  have down' : t.state = .down := by rwa [<- state_of_same same]
  rcases exists_moment s with ⟨now, aware, notBefore⟩
  rcases (follow same .healthy aware notBefore).2 with ⟨s', t', same', content, content'⟩
  have states := state_of_same same'
  have full := successes_le s
  have full' := successes_le t
  have recovered : forall (u u' : DeadManStatus), u.state = .down ->
      u'.toStatusFields.content = u.toStatusFields.content.advance .healthy now.instant ->
      ¬ u.consecutiveSuccesses + 1 < recoveryConfirmations -> u'.state = .up := by
    intro u u' state result reached
    by_cases told : u.toStatusFields.content.Acknowledged
    · rw [StatusContent.advance_announced (c := u.toStatusFields.content) state _ reached told]
        at result
      exact congrArg StatusContent.state result
    · rw [StatusContent.advance_silent (c := u.toStatusFields.content) state _ reached told]
        at result
      exact congrArg StatusContent.state result
  by_cases below : s.consecutiveSuccesses + 1 < recoveryConfirmations
  · rw [StatusContent.advance_recovering (c := s.toStatusFields.content) down _ below] at content
    have state : s'.state = .down := (congrArg StatusContent.state content).trans down
    by_cases below' : t.consecutiveSuccesses + 1 < recoveryConfirmations
    · rw [StatusContent.advance_recovering (c := t.toStatusFields.content) down' _ below']
        at content'
      refine Or.inr ⟨s', t', ⟨same', state⟩, ?_⟩
      exact ⟨congrArg StatusContent.consecutiveSuccesses content,
        congrArg StatusContent.consecutiveSuccesses content',
        congrArg StatusContent.nextNotificationId content,
        congrArg StatusContent.nextNotificationId content'⟩
    · rw [state, recovered t t' down' content' below'] at states
      cases states
  · have up := recovered s s' down content below
    by_cases below' : t.consecutiveSuccesses + 1 < recoveryConfirmations
    · rw [StatusContent.advance_recovering (c := t.toStatusFields.content) down' _ below']
        at content'
      have state' : t'.state = .down := (congrArg StatusContent.state content').trans down'
      rw [up, state'] at states
      cases states
    refine Or.inl ⟨by omega, by omega, ?_⟩
    by_cases told : s.toStatusFields.content.Acknowledged
    · have told' := (acknowledged_of_same same down).mp told
      rw [StatusContent.advance_announced (c := s.toStatusFields.content) down _ below told]
        at content
      rw [StatusContent.advance_announced (c := t.toStatusFields.content) down' _ below' told']
        at content'
      have pending := pending_of_same same'
      rw [content, content'] at pending
      exact id_of_appended pending
    · have untold' := fun told' => told ((acknowledged_of_same same down).mpr told')
      rw [StatusContent.advance_silent (c := s.toStatusFields.content) down _ below told] at content
      rw [StatusContent.advance_silent (c := t.toStatusFields.content) down' _ below' untold']
        at content'
      have allocators := (failures_of_same same' (by rw [up]; decide)).2
      have next : s'.nextNotificationId = s.nextNotificationId :=
        congrArg StatusContent.nextNotificationId content
      have next' : t'.nextNotificationId = t.nextNotificationId :=
        congrArg StatusContent.nextNotificationId content'
      rw [<- next, allocators, next']

theorem successes_of_same (same : snapshotMachine.Indistinguishable s t) (down : s.state = .down) :
    s.consecutiveSuccesses = t.consecutiveSuccesses ∧
      s.nextNotificationId = t.nextNotificationId :=
  Machine.eq_of_countdown (fun {s _} _ => successes_le s)
    (fun {_ _} related => recovering_step related.1 related.2) ⟨same, down⟩

theorem currentDown_of_same (same : snapshotMachine.Indistinguishable s t)
    (next : s.nextNotificationId = t.nextNotificationId) : s.currentDown = t.currentDown := by
  have states := state_of_same same
  by_cases down : s.state = .down
  · have reported := acknowledged_of_same same down
    cases bound : s.currentDown with
    | none =>
        have binding := s.admissible.binding
        rw [OutageBinding, bound] at binding
        exact absurd down binding
    | some current =>
        cases bound' : t.currentDown with
        | none =>
            have binding := t.admissible.binding
            rw [OutageBinding, bound'] at binding
            exact absurd (states.symm.trans down) binding
        | some current' =>
            have found : s.toStatusFields.content.currentDown = some current := bound
            have found' : t.toStatusFields.content.currentDown = some current' := bound'
            have id := (binding_of_currentDown s.admissible bound).2.1
            have id' := (binding_of_currentDown t.admissible bound').2.1
            simp only [StatusContent.Acknowledged, found, found', Option.some.injEq,
              exists_eq_left'] at reported
            rcases current with ⟨_, acknowledged, _⟩
            rcases current' with ⟨_, acknowledged', _⟩
            have flags : acknowledged = acknowledged' := Bool.eq_iff_iff.mpr reported
            simp only [next] at id
            cases id.trans id'.symm
            cases flags
            rfl
  · rw [currentDown_eq_none s.admissible down,
      currentDown_eq_none t.admissible (by rwa [<- states])]

/-- Snapshots that are not told apart have one content. -/
theorem content_of_same (same : snapshotMachine.Indistinguishable s t) :
    s.toStatusFields.content = t.toStatusFields.content := by
  have states := state_of_same same
  have streaks := s.admissible.streaks
  have streaks' := t.admissible.streaks
  unfold StreaksRest at streaks streaks'
  have counters : s.consecutiveFailures = t.consecutiveFailures ∧
      s.consecutiveSuccesses = t.consecutiveSuccesses ∧
      s.nextNotificationId = t.nextNotificationId := by
    by_cases down : s.state = .down
    · rw [if_pos down] at streaks
      rw [if_pos (states.symm.trans down)] at streaks'
      have driven := successes_of_same same down
      exact ⟨streaks.1.trans streaks'.1.symm, driven.1, driven.2⟩
    · rw [if_neg down] at streaks
      rw [if_neg (by rwa [<- states])] at streaks'
      have driven := failures_of_same same down
      exact ⟨driven.1, streaks.1.trans streaks'.1.symm, driven.2⟩
  have pending : s.pendingNotifications.map DeadManNotification.content =
      t.pendingNotifications.map DeadManNotification.content := pending_of_same same
  unfold StatusFields.content
  rw [states, counters.1, counters.2.1, counters.2.2, anchor_of_same same, pending,
    currentDown_of_same same counters.2.2]

/-- Indistinguishability is equality of contents. -/
theorem indistinguishable_iff :
    snapshotMachine.Indistinguishable s t ↔ s.toStatusFields.content = t.toStatusFields.content :=
  ⟨content_of_same, agreement_content.indistinguishable⟩

end Indistinguishable

/-- Snapshots that no run tells apart are written alike, and snapshots written
as one document are told apart by no run. -/
theorem snapshot_fully_abstract (s t : DeadManStatus) :
    (snapshotMachine.Indistinguishable s t -> encodeDeadmanStatus s = encodeDeadmanStatus t) ∧
    (forall payload, encodeDeadmanStatus s = .ok payload -> encodeDeadmanStatus t = .ok payload ->
      snapshotMachine.Indistinguishable s t) := by
  constructor
  · intro same
    exact encode_congr (indistinguishable_iff.mp same)
  · intro payload first second
    exact indistinguishable_iff.mpr (content_of_encoded first second)

end DeadMan
end HermesSentinel
