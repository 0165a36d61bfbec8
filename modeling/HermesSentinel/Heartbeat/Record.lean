import HermesSentinel.Domain.Telemetry

namespace HermesSentinel
namespace Heartbeat

open Python
open Domain

/-!
# Heartbeat records

One accepted heartbeat: the reported telemetry and the moment the central clock
received it.  A record has a node that is not blank and two aware timestamps.
-/

/-- The result of a clock call: a `datetime` or some other object. -/
inductive ClockResult
  | datetime (value : DateTime)
  | other
  deriving DecidableEq

/-- A clock result must be a truly aware `datetime`. -/
def requireAwareClock (kind : ExceptionClass) (message : String) : ClockResult -> Fallible DateTime
  | .datetime value => if value.isAware = true then .ok value else raise kind message
  | .other => raise kind message

theorem requireAwareClock_eq_ok {kind : ExceptionClass} {message : String} {result : ClockResult}
    {value : DateTime} :
    requireAwareClock kind message result = .ok value ↔
      result = .datetime value ∧ value.isAware = true := by
  cases result with
  | other =>
      constructor
      · intro impossible
        exact absurd impossible (raise_ne_ok _ _ _)
      · intro impossible
        cases impossible.1
  | datetime d =>
      rw [requireAwareClock]
      by_cases aware : d.isAware = true
      · rw [if_pos aware]
        constructor
        · intro ok
          cases ok
          exact ⟨rfl, aware⟩
        · rintro ⟨same, _⟩
          cases same
          rfl
      · rw [if_neg aware]
        constructor
        · intro ok
          exact absurd ok (raise_ne_ok _ _ _)
        · rintro ⟨same, valueAware⟩
          cases same
          exact absurd valueAware aware

def requireValidNode (name : String) (value : PyStr) : Fallible Unit :=
  require (isBlank value = false) s!"{name} must be a non-empty string after strip()"

def requireAware (name : String) (value : DateTime) : Fallible Unit :=
  require (value.isAware = true)
    s!"{name} must be timezone-aware (tzinfo is not None and utcoffset() is not None)"

structure HeartbeatRecordFields where
  telemetry : HostTelemetry
  receivedAt : DateTime
  deriving DecidableEq

def HeartbeatRecordFields.postInit (f : HeartbeatRecordFields) : Fallible Unit := do
  requireValidNode "node (telemetry.host)" f.telemetry.host
  requireAware "received_at" f.receivedAt
  requireAware "reported_at (telemetry.timestamp)" f.telemetry.timestamp

structure HeartbeatRecord extends HeartbeatRecordFields where
  accepted : toHeartbeatRecordFields.postInit = .ok ()
  deriving DecidableEq

namespace HeartbeatRecord

def make (fields : HeartbeatRecordFields) : Fallible HeartbeatRecord :=
  construct HeartbeatRecordFields.postInit HeartbeatRecord.mk fields

/-- The node identity of the observation. -/
def node (record : HeartbeatRecord) : PyStr :=
  record.telemetry.host

/-- What the constructor has checked. -/
theorem valid (record : HeartbeatRecord) :
    isBlank record.node = false ∧ record.receivedAt.isAware = true ∧
      record.telemetry.timestamp.isAware = true := by
  have accepted := record.accepted
  simp only [HeartbeatRecordFields.postInit, requireValidNode, requireAware, check_bind_eq_ok,
    require_eq_ok] at accepted
  exact accepted

end HeartbeatRecord

end Heartbeat
end HermesSentinel
