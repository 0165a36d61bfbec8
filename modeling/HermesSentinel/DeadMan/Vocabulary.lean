import HermesSentinel.Python.DateTime

namespace HermesSentinel
namespace DeadMan

open Python

/-!
# States, outcomes and notification intents of the dead-man core

The values below are immutable in the source and validated by their
constructors.  Each structure carries what its `__post_init__` establishes, and
`make` is the constructor call itself: it performs the source's checks in the
source's order and raises on the first one that fails.
-/

/-- Consecutive failed probes that confirm DOWN. -/
def downConfirmations : Int := 3

/-- Consecutive successful probes that end DOWN. -/
def recoveryConfirmations : Int := 2

inductive DeadManState
  | unknown
  | up
  | down
  deriving DecidableEq, Repr

def DeadManState.value : DeadManState -> String
  | .unknown => "unknown"
  | .up => "up"
  | .down => "down"

inductive DeadManProbeOutcome
  | healthy
  | failed
  deriving DecidableEq, Repr

inductive DeadManNotificationKind
  | down
  | recovered
  deriving DecidableEq, Repr

def DeadManNotificationKind.value : DeadManNotificationKind -> String
  | .down => "down"
  | .recovered => "recovered"

/-- The transition families a notification intent can carry. -/
def canonicalTransitions : List (DeadManState × DeadManState) :=
  [(.unknown, .down), (.up, .down), (.down, .up)]

def requireCounter (name : String) (value : Int) : Fallible Unit :=
  require (0 ≤ value) s!"{name} must be >= 0"

def requireNotificationId (name : String) (value : Int) : Fallible Unit :=
  require (1 ≤ value) s!"{name} must be >= 1"

/-- A state change carried by a notification intent.  `confirmedAt` is the
source's field `at`. -/
structure DeadManTransition where
  fromState : DeadManState
  toState : DeadManState
  confirmedAt : DateTime
  canonical : (fromState, toState) ∈ canonicalTransitions
  aware : confirmedAt.isAware = true
  deriving DecidableEq

namespace DeadManTransition

def isDownEvent (t : DeadManTransition) : Bool :=
  decide (t.toState = .down)

def isRecoveryEvent (t : DeadManTransition) : Bool :=
  decide (t.fromState = .down ∧ t.toState = .up)

def make (fromState toState : DeadManState) (confirmedAt : DateTime) :
    Fallible DeadManTransition :=
  if canonical : (fromState, toState) ∈ canonicalTransitions then
    if aware : confirmedAt.isAware = true then
      .ok { fromState, toState, confirmedAt, canonical, aware }
    else
      raise .valueError "at must be timezone-aware (tzinfo is not None and utcoffset() is not None)"
  else
    raise .valueError
      s!"not a canonical dead-man transition: {fromState.value} -> {toState.value}"

theorem make_eq_ok {fromState toState : DeadManState} {confirmedAt : DateTime}
    {t : DeadManTransition} (made : make fromState toState confirmedAt = .ok t) :
    t.fromState = fromState ∧ t.toState = toState ∧ t.confirmedAt = confirmedAt := by
  unfold make at made
  split at made
  · split at made
    · cases made
      exact ⟨rfl, rfl, rfl⟩
    · cases made
  · cases made

theorem make_ok (t : DeadManTransition) :
    make t.fromState t.toState t.confirmedAt = .ok t := by
  rw [make, dif_pos t.canonical, dif_pos t.aware]

end DeadManTransition

structure DeadManNotification where
  notificationId : Int
  kind : DeadManNotificationKind
  transition : DeadManTransition
  idPositive : 1 ≤ notificationId
  downPaired : kind = .down -> transition.isDownEvent = true
  recoveredPaired : kind = .recovered -> transition.isRecoveryEvent = true
  recoveredNotFirst : kind = .recovered -> notificationId ≠ 1
  deriving DecidableEq

namespace DeadManNotification

/-- The confirmation moment, projected from the transition. -/
def confirmedAt (n : DeadManNotification) : DateTime :=
  n.transition.confirmedAt

def make (notificationId : Int) (kind : DeadManNotificationKind)
    (transition : DeadManTransition) : Fallible DeadManNotification :=
  if idPositive : 1 ≤ notificationId then
    if downPaired : kind = .down -> transition.isDownEvent = true then
      if recoveredPaired : kind = .recovered -> transition.isRecoveryEvent = true then
        if recoveredNotFirst : kind = .recovered -> notificationId ≠ 1 then
          .ok { notificationId, kind, transition, idPositive, downPaired, recoveredPaired,
                recoveredNotFirst }
        else
          raise .valueError "a RECOVERED notification can never have id 1: the first allocation of any real timeline is necessarily a DOWN intent"
      else
        raise .valueError "DeadManNotificationKind.RECOVERED requires a transition out of DOWN"
    else
      raise .valueError "DeadManNotificationKind.DOWN requires a transition into DOWN"
  else
    raise .valueError "notification_id must be >= 1"

theorem make_eq_ok {notificationId : Int} {kind : DeadManNotificationKind}
    {transition : DeadManTransition} {n : DeadManNotification}
    (made : make notificationId kind transition = .ok n) :
    n.notificationId = notificationId ∧ n.kind = kind ∧ n.transition = transition := by
  unfold make at made
  repeat' split at made
  all_goals cases made
  exact ⟨rfl, rfl, rfl⟩

theorem make_ok (n : DeadManNotification) :
    make n.notificationId n.kind n.transition = .ok n := by
  rw [make, dif_pos n.idPositive, dif_pos n.downPaired, dif_pos n.recoveredPaired,
    dif_pos n.recoveredNotFirst]

end DeadManNotification

structure DeadManCurrentDown where
  notificationId : Int
  acknowledged : Bool
  idPositive : 1 ≤ notificationId
  deriving DecidableEq

namespace DeadManCurrentDown

def make (notificationId : Int) (acknowledged : Bool) : Fallible DeadManCurrentDown :=
  if idPositive : 1 ≤ notificationId then
    .ok { notificationId, acknowledged, idPositive }
  else
    raise .valueError "notification_id must be >= 1"

theorem make_ok (c : DeadManCurrentDown) : make c.notificationId c.acknowledged = .ok c := by
  rw [make, dif_pos c.idPositive]

theorem make_eq_ok {notificationId : Int} {acknowledged : Bool} {c : DeadManCurrentDown}
    (made : make notificationId acknowledged = .ok c) :
    c.notificationId = notificationId ∧ c.acknowledged = acknowledged := by
  unfold make at made
  split at made
  · cases made
    exact ⟨rfl, rfl⟩
  · cases made

end DeadManCurrentDown

end DeadMan
end HermesSentinel
