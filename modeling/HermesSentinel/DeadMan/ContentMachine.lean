import HermesSentinel.DeadMan.Ledger

namespace HermesSentinel
namespace DeadMan

open Python
open Foundation

/-!
# The operations as functions of the content

On contents the evaluation and the acknowledgement are plain functions, with no
constructor to pass.  `perform_content` says that the operations on snapshots
follow them, refusals included, and `encode_congr` that the document is a
function of the content too.
-/

inductive SnapshotCall
  | advance (outcome : DeadManProbeOutcome) (now : DateTime) (aware : now.isAware = true)
  | acknowledge (notificationId : Int)

def DeadManStatus.perform (s : DeadManStatus) : SnapshotCall -> Fallible DeadManStatus
  | .advance outcome now _ => advanceDeadmanStatus s outcome now
  | .acknowledge notificationId => acknowledgeDeadmanNotification s notificationId

namespace StatusContent

/-- The intent of a transition confirmed at an instant. -/
def allocate (c : StatusContent) (kind : DeadManNotificationKind) (toState : DeadManState)
    (instant : Int) : IntentContent where
  notificationId := c.nextNotificationId
  kind := kind
  fromState := c.state
  toState := toState
  instant := instant

def recover (c : StatusContent) (instant : Int) : StatusContent where
  state := .up
  consecutiveFailures := 0
  consecutiveSuccesses := 0
  stateChangedAt := some instant
  pending := c.pending
  nextNotificationId := c.nextNotificationId
  currentDown := none

def announceRecovery (c : StatusContent) (instant : Int) : StatusContent :=
  { c.recover instant with
    pending := c.pending ++ [c.allocate .recovered .up instant]
    nextNotificationId := c.nextNotificationId + 1 }

def confirmDown (c : StatusContent) (instant : Int) : StatusContent where
  state := .down
  consecutiveFailures := 0
  consecutiveSuccesses := 0
  stateChangedAt := some instant
  pending := c.pending ++ [c.allocate .down .down instant]
  nextNotificationId := c.nextNotificationId + 1
  currentDown := (DeadManCurrentDown.make c.nextNotificationId false).toOption

def withStreaks (c : StatusContent) (failures successes : Int) : StatusContent :=
  { c with consecutiveFailures := failures, consecutiveSuccesses := successes }

/-- The current outage was reported to the end. -/
def Acknowledged (c : StatusContent) : Prop :=
  exists current, c.currentDown = some current ∧ current.acknowledged = true

instance (c : StatusContent) : Decidable c.Acknowledged :=
  decidable_of_iff (c.currentDown.any DeadManCurrentDown.acknowledged = true) (by
    unfold Acknowledged
    rw [Option.any_eq_true])

def advance (c : StatusContent) (outcome : DeadManProbeOutcome) (instant : Int) : StatusContent :=
  match outcome, c.state with
  | .healthy, .unknown => c.recover instant
  | .healthy, .up => c.withStreaks 0 0
  | .healthy, .down =>
      if c.consecutiveSuccesses + 1 < recoveryConfirmations then
        c.withStreaks 0 (c.consecutiveSuccesses + 1)
      else if c.Acknowledged then c.announceRecovery instant
      else c.recover instant
  | .failed, .down => c.withStreaks 0 0
  | .failed, _ =>
      if c.consecutiveFailures + 1 < downConfirmations then
        c.withStreaks (c.consecutiveFailures + 1) 0
      else c.confirmDown instant

theorem advance_suspecting {c : StatusContent} (notDown : c.state ≠ .down) (instant : Int)
    (below : c.consecutiveFailures + 1 < downConfirmations) :
    c.advance .failed instant = c.withStreaks (c.consecutiveFailures + 1) 0 := by
  cases state : c.state with
  | down => exact absurd state notDown
  | unknown => simp only [advance, state, if_pos below]
  | up => simp only [advance, state, if_pos below]

theorem advance_confirmed {c : StatusContent} (notDown : c.state ≠ .down) (instant : Int)
    (reached : ¬ c.consecutiveFailures + 1 < downConfirmations) :
    c.advance .failed instant = c.confirmDown instant := by
  cases state : c.state with
  | down => exact absurd state notDown
  | unknown => simp only [advance, state, if_neg reached]
  | up => simp only [advance, state, if_neg reached]

theorem advance_recovering {c : StatusContent} (down : c.state = .down) (instant : Int)
    (below : c.consecutiveSuccesses + 1 < recoveryConfirmations) :
    c.advance .healthy instant = c.withStreaks 0 (c.consecutiveSuccesses + 1) := by
  simp only [advance, down, if_pos below]

theorem advance_announced {c : StatusContent} (down : c.state = .down) (instant : Int)
    (reached : ¬ c.consecutiveSuccesses + 1 < recoveryConfirmations) (told : c.Acknowledged) :
    c.advance .healthy instant = c.announceRecovery instant := by
  simp only [advance, down, if_neg reached, if_pos told]

theorem advance_silent {c : StatusContent} (down : c.state = .down) (instant : Int)
    (reached : ¬ c.consecutiveSuccesses + 1 < recoveryConfirmations) (untold : ¬ c.Acknowledged) :
    c.advance .healthy instant = c.recover instant := by
  simp only [advance, down, if_neg reached, if_neg untold]

def perform (c : StatusContent) : SnapshotCall -> Option StatusContent
  | .advance outcome now _ =>
      if forall anchor, anchor ∈ c.stateChangedAt -> anchor ≤ now.instant then
        some (c.advance outcome now.instant)
      else none
  | .acknowledge notificationId =>
      match c.pending with
      | [] => none
      | head :: rest =>
          if notificationId = head.notificationId then some (c.acknowledged notificationId rest)
          else none

end StatusContent

theorem Allocated.content_down {f : StatusFields} {now : DateTime} {intent : DeadManNotification}
    (allocated : Allocated f now .down intent) :
    intent.content = f.content.allocate .down .down now.instant := by
  have toState := of_decide_eq_true (intent.downPaired allocated.kind)
  simp only [DeadManNotification.content, StatusContent.allocate, StatusFields.content,
    allocated.id, allocated.kind, allocated.fromState, allocated.confirmedAt, toState]

theorem Allocated.content_recovered {f : StatusFields} {now : DateTime}
    {intent : DeadManNotification} (allocated : Allocated f now .recovered intent) :
    intent.content = f.content.allocate .recovered .up now.instant := by
  have toState := (of_decide_eq_true (intent.recoveredPaired allocated.kind)).2
  simp only [DeadManNotification.content, StatusContent.allocate, StatusFields.content,
    allocated.id, allocated.kind, allocated.fromState, allocated.confirmedAt, toState]

/-- The content after a successful evaluation. -/
theorem Advanced.content_eq {f f' : StatusFields} {outcome : DeadManProbeOutcome} {now : DateTime}
    (advanced : Advanced f now outcome f') (admissible : Admissible f) :
    f'.content = f.content.advance outcome now.instant := by
  cases advanced with
  | baseline unknown =>
      have unbound := currentDown_eq_none admissible (by rw [unknown]; decide)
      simp only [StatusContent.advance, StatusFields.content, unknown, StatusContent.recover,
        Option.map_some, unbound]
  | steady up =>
      simp only [StatusContent.advance, StatusFields.content, up, StatusContent.withStreaks]
  | recovering down below =>
      exact (StatusContent.advance_recovering (c := f.content) down now.instant below).symm
  | recoveredSilently down reached current bound unacknowledged =>
      have silent : ¬ f.content.Acknowledged := by
        rintro ⟨other, found, acknowledged⟩
        cases bound.symm.trans found
        rw [unacknowledged] at acknowledged
        cases acknowledged
      exact (StatusContent.advance_silent (c := f.content) down now.instant reached silent).symm
  | recoveredAnnounced down reached current bound acknowledged intent allocated =>
      have announced : f.content.Acknowledged := ⟨current, bound, acknowledged⟩
      rw [StatusContent.advance_announced (c := f.content) down now.instant reached announced,
        StatusContent.announceRecovery, <- allocated.content_recovered]
      simp only [StatusFields.content, List.map_append, List.map_singleton, Option.map_some,
        StatusContent.recover]
  | held down =>
      simp only [StatusContent.advance, StatusFields.content, down, StatusContent.withStreaks]
  | suspecting notDown below =>
      exact (StatusContent.advance_suspecting (c := f.content) notDown now.instant below).symm
  | confirmed notDown reached intent allocated current currentId unacknowledged =>
      have made : DeadManCurrentDown.make f.content.nextNotificationId false = .ok current := by
        have remade := DeadManCurrentDown.make_ok current
        rwa [currentId, unacknowledged] at remade
      rw [StatusContent.advance_confirmed (c := f.content) notDown now.instant reached,
        StatusContent.confirmDown, made, <- allocated.content_down]
      simp only [StatusFields.content, List.map_append, List.map_singleton, Option.map_some,
        Except.toOption]

theorem notBefore_content (f : StatusFields) (now : DateTime) :
    NotBefore f.stateChangedAt now ↔
      forall anchor, anchor ∈ f.content.stateChangedAt -> anchor ≤ now.instant := by
  unfold NotBefore StatusFields.content
  cases f.stateChangedAt with
  | none => simp
  | some anchor => simp

/-- The snapshots follow their contents: an operation is refused by both or
done by both. -/
theorem perform_content (s : DeadManStatus) (call : SnapshotCall) :
    (s.perform call).toOption.map (fun s' => s'.toStatusFields.content) =
      s.toStatusFields.content.perform call := by
  cases call with
  | advance outcome now aware =>
      rw [StatusContent.perform]
      by_cases notBefore : NotBefore s.stateChangedAt now
      · rcases advance_total s outcome aware notBefore with ⟨s', advanced⟩
        have branch := (advance_cases advanced).2.2
        rw [if_pos ((notBefore_content _ now).mp notBefore), DeadManStatus.perform, advanced,
          <- branch.content_eq s.admissible]
        rfl
      · rw [if_neg (fun ordered => notBefore ((notBefore_content _ now).mpr ordered)),
          DeadManStatus.perform]
        simp only [advanceDeadmanStatus, require, if_pos aware, if_neg notBefore, ok_bind]
        rfl
  | acknowledge id =>
      rw [StatusContent.perform, DeadManStatus.perform, StatusFields.content]
      cases shape : s.pendingNotifications with
      | nil =>
          have nothing : forall head, s.pendingNotifications.head? = some head ->
              id ≠ head.notificationId := by
            intro head found
            rw [shape] at found
            cases found
          rcases acknowledge_refused nothing with ⟨message, refused⟩
          rw [refused]
          rfl
      | cons head rest =>
          simp only [List.map_cons]
          by_cases oldest : id = head.notificationId
          · rcases acknowledge_head s shape with ⟨s', acknowledged, fields⟩
            have named : id = head.content.notificationId := oldest
            rw [if_pos named, oldest, acknowledged, Except.toOption, Option.map_some, fields]
            simp only [StatusFields.content, acknowledgedFields, StatusContent.acknowledged]
          · have other : forall head, s.pendingNotifications.head? = some head ->
                id ≠ head.notificationId := by
              intro head' found
              rw [shape] at found
              cases found
              exact oldest
            rcases acknowledge_refused other with ⟨message, refused⟩
            have unnamed : id ≠ head.content.notificationId := oldest
            rw [if_neg unnamed, refused]
            rfl

theorem encodeDatetime_congr {a b : DateTime} (same : a.instant = b.instant) :
    encodeDatetime a = encodeDatetime b := by
  have converted : a.astimezoneUtc = b.astimezoneUtc := by
    unfold DateTime.astimezoneUtc DateTime.UtcRepresentable
    simp only [same]
    rfl
  rw [encodeDatetime, encodeDatetime, converted]

theorem encodeAnchor_congr {a b : Option DateTime}
    (same : a.map DateTime.instant = b.map DateTime.instant) : encodeAnchor a = encodeAnchor b := by
  cases a with
  | none => rw [Option.map_eq_none_iff.mp same.symm]
  | some anchor =>
      rcases Option.map_eq_some_iff.mp same.symm with ⟨other, rfl, instants⟩
      rw [encodeAnchor, encodeAnchor, encodeDatetime_congr instants]

theorem encodeTimes_congr {ns ms : List DeadManNotification}
    (same : ns.map DeadManNotification.content = ms.map DeadManNotification.content) :
    encodeTimes ns = encodeTimes ms := by
  induction ns generalizing ms with
  | nil => rw [List.map_eq_nil_iff.mp same.symm]
  | cons n rest inductionHypothesis =>
      rcases List.map_eq_cons_iff.mp same.symm with ⟨m, others, rfl, head, tail⟩
      have times : n.transition.confirmedAt.instant = m.transition.confirmedAt.instant :=
        (congrArg IntentContent.instant head).symm
      rw [encodeTimes, encodeTimes, encodeDatetime_congr times, inductionHypothesis tail.symm]

theorem notificationDocuments_congr {ns ms : List DeadManNotification}
    (same : ns.map DeadManNotification.content = ms.map DeadManNotification.content)
    (times : List PyStr) :
    List.zipWith notificationDocument ns times = List.zipWith notificationDocument ms times := by
  induction ns generalizing ms times with
  | nil => rw [List.map_eq_nil_iff.mp same.symm]
  | cons n rest inductionHypothesis =>
      rcases List.map_eq_cons_iff.mp same.symm with ⟨m, others, rfl, head, tail⟩
      cases times with
      | nil => rfl
      | cons time later =>
          have id : m.notificationId = n.notificationId := congrArg IntentContent.notificationId head
          have kind : m.kind = n.kind := congrArg IntentContent.kind head
          have fromState : m.transition.fromState = n.transition.fromState :=
            congrArg IntentContent.fromState head
          have toState : m.transition.toState = n.transition.toState :=
            congrArg IntentContent.toState head
          rw [List.zipWith_cons_cons, List.zipWith_cons_cons, inductionHypothesis tail.symm]
          simp only [notificationDocument, transitionDocument, id, kind, fromState, toState]

theorem encode_congr {s t : DeadManStatus}
    (same : s.toStatusFields.content = t.toStatusFields.content) :
    encodeDeadmanStatus s = encodeDeadmanStatus t := by
  have state : s.state = t.state := congrArg StatusContent.state same
  have failures : s.consecutiveFailures = t.consecutiveFailures :=
    congrArg StatusContent.consecutiveFailures same
  have successes : s.consecutiveSuccesses = t.consecutiveSuccesses :=
    congrArg StatusContent.consecutiveSuccesses same
  have anchor : s.stateChangedAt.map DateTime.instant = t.stateChangedAt.map DateTime.instant :=
    congrArg StatusContent.stateChangedAt same
  have pending : s.pendingNotifications.map DeadManNotification.content =
      t.pendingNotifications.map DeadManNotification.content := congrArg StatusContent.pending same
  have next : s.nextNotificationId = t.nextNotificationId :=
    congrArg StatusContent.nextNotificationId same
  have current : s.currentDown = t.currentDown := congrArg StatusContent.currentDown same
  simp only [encodeDeadmanStatus, encodeDocument, encodeAnchor_congr anchor,
    encodeTimes_congr pending, statusDocument, notificationDocuments_congr pending, state, failures,
    successes, next, current]

end DeadMan
end HermesSentinel
